import Mathlib.Data.List.Basic

/-!
The characters of a text, read off its bytes. Decoding looks up every byte from the start of the
text again, which makes facts about long literals slow to decide; bytes that are ASCII characters
need no decoding.
-/

namespace ClientGem.Text

def bytes (text : String) : List UInt8 :=
  text.toByteArray.data.toList

def isAscii (byte : UInt8) : Bool :=
  byte < 128

def quickChars (text : String) : List Char :=
  if (bytes text).all isAscii then (bytes text).map fun byte => Char.ofNat byte.toNat
  else text.toList

theorem bytes_ofList (cs : List Char) :
    bytes (String.ofList cs) = cs.flatMap String.utf8EncodeChar := by
  rw [bytes, String.toByteArray_ofList, List.utf8Encode, List.data_toByteArray]

/-- Of what is not ASCII, the first byte tells how many bytes follow. -/
theorem toNat_lt_of_isAscii {c : Char} (ascii : (String.utf8EncodeChar c).all isAscii = true) :
    c.toNat < 128 := by
  apply Nat.lt_of_not_le
  intro large
  have behind : ¬c.val.toNat ≤ 127 := Nat.not_le.mpr large
  simp only [String.utf8EncodeChar, if_neg behind] at ascii
  split at ascii
  on_goal 2 => split at ascii
  all_goals
    simp [isAscii, UInt8.lt_iff_toNat_lt] at ascii
    omega

theorem decoded_of_isAscii {c : Char} (ascii : (String.utf8EncodeChar c).all isAscii = true) :
    (String.utf8EncodeChar c).map (fun byte => Char.ofNat byte.toNat) = [c] := by
  have small := toNat_lt_of_isAscii ascii
  have single : String.utf8EncodeChar c = [UInt8.ofNat c.toNat] :=
    if_pos (Nat.le_of_lt_succ small)
  have bounded : c.toNat % 2 ^ 8 = c.toNat := Nat.mod_eq_of_lt (Nat.lt_trans small (by decide))
  rw [single, List.map_singleton, UInt8.toNat_ofNat', bounded, Char.ofNat_toNat]

theorem quickChars_eq (text : String) : quickChars text = text.toList := by
  unfold quickChars
  split
  · next ascii =>
    rw [← String.ofList_toList (s := text), bytes_ofList, String.toList_ofList] at *
    generalize text.toList = cs at *
    induction cs with
    | nil => rfl
    | cons c cs ih =>
      rw [List.flatMap_cons, List.all_append, Bool.and_eq_true] at ascii
      rw [List.flatMap_cons, List.map_append, decoded_of_isAscii ascii.1, ih ascii.2]
      rfl
  · rfl

end ClientGem.Text
