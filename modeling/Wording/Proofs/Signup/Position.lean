import Mathlib.Data.List.TakeWhile
import Wording.Proofs.Text.FieldName
import Wording.Signup.Form

/-!
# Positions in names

The position of an item is a segment of decimal digits in the name of its field. The generic name
has one sign for all positions; a template that takes the last segment off the name and reads it as
a number gets the position back.

* `generic_position`: the generic name of an item
* `splitOn_position`: the segments of the name of an item
* `readWhole_digits`: the position that digits are read as
-/

namespace Wording

open Text Decimal

/-! ## Decimal digits -/

theorem toList_toString (i : Nat) : (toString i).toList = Nat.toDigits 10 i := by
  simp [Nat.toString_eq_repr]

/-- Different numbers have different texts. -/
theorem toString_injective {i j : Nat} (h : toString i = toString j) : i = j := by
  have hdigits : Nat.toDigits 10 i = Nat.toDigits 10 j := by
    rw [← toList_toString, h, toList_toString]
  calc
    i = Nat.ofDigitChars 10 (Nat.toDigits 10 i) 0 := Nat.ofDigitChars_ten_toDigits.symm
    _ = Nat.ofDigitChars 10 (Nat.toDigits 10 j) 0 := by rw [hdigits]
    _ = j := Nat.ofDigitChars_ten_toDigits

theorem isDigit_of_mem_digits {i : Nat} {c : Char} (h : c ∈ Nat.toDigits 10 i) :
    c.isDigit = true :=
  Nat.isDigit_of_mem_toDigits (by decide) (by decide) h

/-- The code of a digit. -/
theorem isDigit_iff (c : Char) : c.isDigit = true ↔ 48 ≤ c.toNat ∧ c.toNat ≤ 57 := by
  simp [Char.isDigit, UInt32.le_iff_toNat_le]

theorem isAsciiDigit_eq (c : Char) : isAsciiDigit c = c.isDigit := by
  rw [Bool.eq_iff_iff, isDigit_iff]
  simp [isAsciiDigit, Char.le_def, UInt32.le_iff_toNat_le]

theorem isNumberBlank_of_isDigit {c : Char} (h : c.isDigit = true) : isNumberBlank c = false := by
  obtain ⟨hlow, hhigh⟩ := (isDigit_iff c).mp h
  rw [isNumberBlank, if_pos (by omega), isAsciiBlank]
  simp
  omega

theorem digitValue?_of_isDigit {c : Char} (h : c.isDigit = true) :
    digitValue? c = some (c.toNat - '0'.toNat) := by
  have hcode := (isDigit_iff c).mp h
  have hvalue : decimalValue? c = some (c.toNat - 48) := by
    rw [decimalValue?, if_pos (by omega), isAsciiDigit_eq, if_pos h]
  rw [digitValue?, hvalue]
  rfl

/-! ## Reading digits -/

/-- A list without blanks is trimmed to itself. -/
theorem trimBoth_of_forall {p : Char → Bool} {cs : List Char} (h : ∀ c ∈ cs, p c = false) :
    trimBoth p cs = cs := by
  have hleft {ds : List Char} (hds : ∀ c ∈ ds, p c = false) : ds.dropWhile p = ds :=
    List.dropWhile_eq_self_iff.mpr fun hlen => by simp [hds _ (List.getElem_mem hlen)]
  rw [trimBoth, trimLeft, hleft h, trimRight, hleft fun c hc => h c (List.mem_reverse.mp hc),
    List.reverse_reverse]

theorem readDigits?_go_cons {c : Char} (hc : c.isDigit = true) (cs : List Char) (digit : Bool)
    (n : Nat) : readDigits?.go 10 (c :: cs) digit n =
      readDigits?.go 10 cs true (10 * n + (c.toNat - '0'.toNat)) := by
  have hcode := (isDigit_iff c).mp hc
  have hne : c ≠ '_' := by
    rintro rfl
    simp at hcode
  have hlt : c.toNat - '0'.toNat < 10 := by
    simp
    omega
  rw [readDigits?.go, digitValue?_of_isDigit hc]
  · dsimp only
    rw [if_pos hlt]
  · exact hne

theorem readDigits?_go {cs : List Char} (h : ∀ c ∈ cs, c.isDigit = true) (n : Nat) :
    readDigits?.go 10 cs true n = some (Nat.ofDigitChars 10 cs n) := by
  induction cs generalizing n with
  | nil => simp [readDigits?.go]
  | cons c cs ih =>
    obtain ⟨hc, hcs⟩ := List.forall_mem_cons.mp h
    rw [readDigits?_go_cons hc, ih hcs, Nat.ofDigitChars_cons]

/-- Digits of a number stand for it. -/
theorem readInt?_digits (i : Nat) : readInt? 10 (Nat.toDigits 10 i) = some (i : Int) := by
  have hall : ∀ c ∈ Nat.toDigits 10 i, c.isDigit = true := fun c => isDigit_of_mem_digits
  have hvalue := Nat.ofDigitChars_ten_toDigits (n := i)
  rw [readInt?, trimBoth_of_forall fun c hc => isNumberBlank_of_isDigit (hall c hc)]
  cases hcs : Nat.toDigits 10 i with
  | nil => exact absurd hcs Nat.toDigits_ne_nil
  | cons c cs =>
    rw [hcs] at hall hvalue
    obtain ⟨hc, hrest⟩ := List.forall_mem_cons.mp hall
    have hcode := (isDigit_iff c).mp hc
    have hsign : readSign (c :: cs) = (false, c :: cs) := by
      unfold readSign
      split
      · next heq =>
        cases heq
        simp at hcode
      · next heq =>
        cases heq
        simp at hcode
      · rfl
    have hbase : namedBase? (c :: cs) = none := by
      unfold namedBase?
      split
      · next d ds heq =>
        have hd := (isDigit_iff d).mp (hrest d (by simp_all))
        have hne {x : Char} (hx : 57 < x.toNat) : d ≠ x := by
          rintro rfl
          omega
        simp [hne (show 57 < 'x'.toNat by decide), hne (show 57 < 'X'.toNat by decide),
          hne (show 57 < 'o'.toNat by decide), hne (show 57 < 'O'.toNat by decide),
          hne (show 57 < 'b'.toNat by decide), hne (show 57 < 'B'.toNat by decide)]
      · rfl
    have hread : readDigits? 10 (c :: cs) = some i := by
      rw [readDigits?, readDigits?_go_cons hc, readDigits?_go hrest, ← Nat.ofDigitChars_cons,
        hvalue]
    have hunsigned : readUnsigned? 10 (c :: cs) = some i := by
      unfold readUnsigned?
      rw [hbase]
      exact hread
    rw [hsign]
    dsimp only
    rw [hunsigned]
    rfl

/-- **Digits of a number are read as the number**, unless there are too many. -/
theorem readWhole_digits {i : Nat} (h : (Nat.toDigits 10 i).length ≤ maxDigits) :
    readWhole 10 (Nat.toDigits 10 i) = .ok (.int i) := by
  have hcount := List.length_filter_le (fun c => (digitValue? c).isSome) (Nat.toDigits 10 i)
  rw [readWhole, readInt?_digits]
  dsimp only
  rw [if_neg (by omega)]

/-- A number of the size of a count is written. -/
theorem intText_of_le {n : Nat} (h : (n : Int) ≤ Value.maxSize + 1) :
    intText n = .ok (toString n) ∧ (Nat.toDigits 10 n).length ≤ maxDigits := by
  have hmax : Value.maxSize = 9223372036854775807 := by decide
  have hlen : (Nat.toDigits 10 n).length ≤ 19 :=
    (Nat.length_toDigits_le_iff (by decide) (by decide)).mpr (by omega)
  have hdigits : (Nat.toDigits 10 n).length ≤ maxDigits := Nat.le_trans hlen (by decide)
  refine ⟨?_, hdigits⟩
  have hrepr : (Nat.repr (n : Int).natAbs).length = (Nat.toDigits 10 n).length := by
    rw [Int.natAbs_natCast, ← Nat.toList_repr, String.length_toList]
  simp only [intText, hrepr]
  rw [if_neg (by omega), if_neg (by omega)]
  rfl

/-! ## Names of items -/

/-- A segment of digits becomes the sign for all positions. -/
theorem generic_digits (i : Nat) :
    FieldName.generic ('.' :: Nat.toDigits 10 i) = ['.', '$'] := by
  have hall : ∀ c ∈ Nat.toDigits 10 i, FieldName.isDigit c = true := by
    intro c hc
    have hdigit := isDigit_of_mem_digits hc
    rwa [← isAsciiDigit_eq] at hdigit
  have hdrop : (Nat.toDigits 10 i).dropWhile FieldName.isDigit = [] :=
    List.dropWhile_eq_nil_iff.mpr hall
  have htake : (Nat.toDigits 10 i).takeWhile FieldName.isDigit = Nat.toDigits 10 i :=
    List.takeWhile_eq_self_iff.mpr hall
  rw [FieldName.generic, hdrop, htake, if_pos ⟨rfl, Nat.toDigits_ne_nil, rfl⟩, FieldName.generic]

/-- **The generic name of an item in a list.** -/
theorem generic_position {p : List Char} (hp : '.' ∉ p) (i : Nat) :
    FieldName.generic (p ++ '.' :: Nat.toDigits 10 i) = p ++ ['.', '$'] := by
  rw [FieldName.generic_append hp, generic_digits]

theorem find?_go_point {p : List Char} (hp : '.' ∉ p) (cs : List Char) (n : Nat) :
    Sequence.find?.go ['.'] (p ++ '.' :: cs) n = some (n + p.length) := by
  induction p generalizing n with
  | nil => rfl
  | cons c p ih =>
    rw [List.mem_cons, not_or] at hp
    rw [List.cons_append, Sequence.find?.go, if_neg (by simp [hp.1]), ih hp.2]
    simp
    omega

theorem find?_go_of_not_mem {p : List Char} (hp : '.' ∉ p) (n : Nat) :
    Sequence.find?.go ['.'] p n = none := by
  induction p generalizing n with
  | nil => rfl
  | cons c p ih =>
    rw [List.mem_cons, not_or] at hp
    rw [Sequence.find?.go, if_neg (by simp [hp.1]), ih hp.2]

/-- **A name with one point has two segments.** -/
theorem splitOn_position {p q : List Char} (hp : '.' ∉ p) (hq : '.' ∉ q) :
    Sequence.splitOn ['.'] none (p ++ '.' :: q) = [p, q] := by
  have hlast (fuel : Nat) : Sequence.splitOn.go ['.'] fuel none q = [q] := by
    cases fuel with
    | zero => rfl
    | succ fuel =>
      rw [Sequence.splitOn.go, if_neg (by simp), Sequence.find?, find?_go_of_not_mem hq]
  rw [Sequence.splitOn, Sequence.splitOn.go, if_neg (by simp), Sequence.find?, find?_go_point hp]
  simp [hlast]

end Wording
