/-!
# Texts in the order of their octets

Texts are compared character by character.  In UTF-8 a character with a greater code point has
octets that are greater where they first differ from those of a smaller one, and never only more of
them.  So the octets of two texts compare as the texts do.
-/

namespace BareMetal.Text

/-- The octets of a text in UTF-8. -/
def octets (text : String) : List UInt8 := text.toUTF8.data.toList

theorem octets_eq_flatMap (text : String) :
    octets text = text.toList.flatMap String.utf8EncodeChar := by
  rw [octets, String.toUTF8_eq_toByteArray, ← String.utf8Encode_toList, List.utf8Encode]
  simp

/-! ## Octets of one character -/

/-- Two lists of octets part where the left one goes on with the smaller octet. -/
inductive Parts : List UInt8 → List UInt8 → Prop
  /-- They part at once. -/
  | here {low high : UInt8} (less : low < high) (left right : List UInt8) :
      Parts (low :: left) (high :: right)
  /-- They part after an octet that they share. -/
  | later (octet : UInt8) {left right : List UInt8} (parts : Parts left right) :
      Parts (octet :: left) (octet :: right)

/-- Octets that part are in order, whatever follows them. -/
theorem Parts.append_lt {left right : List UInt8} (parts : Parts left right)
    (leftRest rightRest : List UInt8) : left ++ leftRest < right ++ rightRest := by
  induction parts with
  | here less => exact List.Lex.rel less
  | later octet _ ih => exact List.Lex.cons ih

/-- Octets given by numbers part if the first are in order and, should they be equal, the others
part. -/
theorem parts_ofNat {low high : Nat} {left right : List UInt8} (bounded : high < 256)
    (ordered : low ≤ high) (rest : low = high → Parts left right) :
    Parts (.ofNat low :: left) (.ofNat high :: right) := by
  rcases Nat.lt_or_eq_of_le ordered with less | same
  · refine .here ?_ left right
    rw [UInt8.lt_iff_toNat_lt, UInt8.toNat_ofNat', UInt8.toNat_ofNat']
    omega
  · subst same
    exact .later _ (rest rfl)

theorem parts_ofNat_of_lt {low high : Nat} (bounded : high < 256) (less : low < high)
    (left right : List UInt8) : Parts (.ofNat low :: left) (.ofNat high :: right) :=
  parts_ofNat bounded (Nat.le_of_lt less) fun same => absurd same (Nat.ne_of_lt less)

/-- The octets of a character part from those of a greater one. -/
theorem parts_utf8EncodeChar {left right : Char} (before : left < right) :
    Parts (String.utf8EncodeChar left) (String.utf8EncodeChar right) := by
  have less : left.val.toNat < right.val.toNat := before
  have bounded : right.val.toNat < 0x110000 := by
    have valid := right.valid
    unfold UInt32.isValidChar Nat.isValidChar at valid
    omega
  unfold String.utf8EncodeChar
  generalize left.val.toNat = low at less
  generalize right.val.toNat = high at less bounded
  dsimp only
  -- A character with fewer octets has the smaller first one; otherwise they are compared in turn.
  split
  · split
    · exact parts_ofNat_of_lt (by omega) less _ _
    · split
      · exact parts_ofNat_of_lt (by omega) (by omega) _ _
      · split
        · exact parts_ofNat_of_lt (by omega) (by omega) _ _
        · exact parts_ofNat_of_lt (by omega) (by omega) _ _
  · rw [if_neg (by omega : ¬high ≤ 127)]
    split
    · split
      · refine parts_ofNat (by omega) (by omega) fun same => ?_
        exact parts_ofNat_of_lt (by omega) (by omega) _ _
      · split
        · exact parts_ofNat_of_lt (by omega) (by omega) _ _
        · exact parts_ofNat_of_lt (by omega) (by omega) _ _
    · rw [if_neg (by omega : ¬high ≤ 2047)]
      split
      · split
        · refine parts_ofNat (by omega) (by omega) fun same => ?_
          refine parts_ofNat (by omega) (by omega) fun same_next => ?_
          exact parts_ofNat_of_lt (by omega) (by omega) _ _
        · exact parts_ofNat_of_lt (by omega) (by omega) _ _
      · rw [if_neg (by omega : ¬high ≤ 65535)]
        refine parts_ofNat (by omega) (by omega) fun same => ?_
        refine parts_ofNat (by omega) (by omega) fun same_next => ?_
        refine parts_ofNat (by omega) (by omega) fun same_third => ?_
        exact parts_ofNat_of_lt (by omega) (by omega) _ _

/-! ## Octets of a text -/

/-- The octets of characters in order are in order. -/
theorem flatMap_utf8EncodeChar_lt {left right : List Char} (before : left < right) :
    left.flatMap String.utf8EncodeChar < right.flatMap String.utf8EncodeChar := by
  induction before with
  | nil =>
      rename_i first rest
      obtain ⟨octet, octets, written⟩ :=
        List.exists_cons_of_ne_nil (String.utf8EncodeChar_ne_nil (c := first))
      rw [List.flatMap_cons, written]
      exact List.Lex.nil
  | rel less => exact (parts_utf8EncodeChar less).append_lt _ _
  | cons _ ih => exact List.append_left_lt ih

theorem octets_lt_of_lt {left right : String} (before : left < right) :
    octets left < octets right := by
  rw [octets_eq_flatMap, octets_eq_flatMap]
  exact flatMap_utf8EncodeChar_lt before

/-- Texts are in the order of their octets. -/
theorem octets_le_iff {left right : String} : octets left ≤ octets right ↔ left ≤ right := by
  constructor
  · intro ordered
    refine String.not_lt.1 fun after => ?_
    exact absurd (octets_lt_of_lt after) (List.not_lt.2 ordered)
  · intro ordered
    by_cases same : left = right
    · rw [same]
      exact List.le_refl _
    · exact List.le_of_lt (octets_lt_of_lt (Std.lt_of_le_of_ne ordered same))

end BareMetal.Text
