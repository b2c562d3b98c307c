import Mathlib.Data.List.Basic
import Mathlib.Data.String.Basic
import Mathlib.Tactic.SplitIfs

namespace ProfileDrift.Text

theorem toList_loop (bytes : ByteArray) (index : ℕ) (before : List UInt8) :
    ByteArray.toList.loop bytes index before =
      before.reverse ++ bytes.data.toList.drop index := by
  induction index, before using ByteArray.toList.loop.induct bytes with
  | case1 index before inside ih =>
    have within : index < bytes.data.toList.length := inside
    have byte : bytes.get! index = bytes.data.toList[index] := getElem!_pos bytes.data index inside
    rw [ByteArray.toList.loop, if_pos inside, ih, List.reverse_cons, List.append_assoc,
      List.singleton_append, List.drop_eq_getElem_cons within, byte]
  | case2 index before outside =>
    have past : bytes.data.toList.length ≤ index := Nat.not_lt.mp outside
    rw [ByteArray.toList.loop, if_neg outside, List.drop_eq_nil_of_le past, List.append_nil]

/-- A text is known by its bytes. -/
theorem eq_of_bytes_eq {text other : String}
    (same : text.toUTF8.toList = other.toUTF8.toList) : text = other := by
  have listed (text : String) : text.toUTF8.toList = text.toByteArray.data.toList :=
    toList_loop text.toByteArray 0 []
  rw [listed, listed] at same
  exact String.toByteArray_inj.mp (ByteArray.ext (Array.toList_inj.mp same))

theorem bytes_ofList (chars : List Char) :
    (String.ofList chars).toUTF8.toList = chars.flatMap String.utf8EncodeChar := by
  refine (toList_loop (String.ofList chars).toByteArray 0 []).trans ?_
  rw [String.toByteArray_ofList, List.utf8Encode]
  simp

/-- The first byte by which two characters differ tells which of them is greater, and no
character begins with the bytes of another. -/
theorem utf8EncodeChar_append_lt {char other : Char} (less : char < other)
    (rest others : List UInt8) :
    String.utf8EncodeChar char ++ rest < String.utf8EncodeChar other ++ others := by
  have codes : char.val.toNat < other.val.toNat := UInt32.lt_iff_toNat_lt.mp less
  have bound : other.val.toNat < 0x110000 := by
    rcases other.valid with below | ⟨_, below⟩
    · exact Nat.lt_trans below (by decide)
    · exact below
  -- each byte after the first holds six bits, so that the higher ones are quotients by 64
  have twelve (number : ℕ) : number / 4096 = number / 64 / 64 := by omega
  have eighteen (number : ℕ) : number / 262144 = number / 64 / 64 / 64 := by omega
  unfold String.utf8EncodeChar
  generalize char.val.toNat = code at codes ⊢
  generalize other.val.toNat = another at codes bound ⊢
  simp only [twelve, eighteen]
  split_ifs <;>
    simp only [List.cons_append, List.nil_append, List.cons_lt_cons_iff, UInt8.lt_iff_toNat_lt,
      ← UInt8.toNat_inj, UInt8.toNat_ofNat'] <;>
    omega

theorem flatMap_utf8EncodeChar_lt {chars others : List Char} (less : chars < others) :
    chars.flatMap String.utf8EncodeChar < others.flatMap String.utf8EncodeChar := by
  induction chars generalizing others with
  | nil =>
    cases others with
    | nil => exact absurd less (List.not_lt_nil [])
    | cons other others =>
      obtain ⟨byte, bytes, same⟩ := List.exists_cons_of_ne_nil (@String.utf8EncodeChar_ne_nil other)
      rw [List.flatMap_nil, List.flatMap_cons, same]
      exact List.nil_lt_cons byte _
  | cons char chars ih =>
    cases others with
    | nil => exact absurd less (List.not_lt_nil _)
    | cons other others =>
      rw [List.flatMap_cons, List.flatMap_cons]
      rcases List.cons_lt_cons_iff.mp less with first | ⟨rfl, later⟩
      · exact utf8EncodeChar_append_lt first _ _
      · exact List.append_left_lt (ih later)

/-- Texts stand in the order of their bytes. -/
theorem lt_iff_bytes_lt (text other : String) :
    text < other ↔ text.toUTF8.toList < other.toUTF8.toList := by
  have bytes (text : String) :
      text.toUTF8.toList = text.toList.flatMap String.utf8EncodeChar := by
    rw [← bytes_ofList, String.ofList_toList]
  have forward {text other : String} (less : text < other) :
      text.toUTF8.toList < other.toUTF8.toList := by
    rw [bytes, bytes]
    exact flatMap_utf8EncodeChar_lt (String.lt_iff.mp less)
  refine ⟨forward, fun less => ?_⟩
  rcases lt_trichotomy text other with below | same | above
  · exact below
  · exact absurd less (same ▸ List.lt_irrefl _)
  · exact absurd less (List.lt_asymm (forward above))

end ProfileDrift.Text
