import Walkthrough.Proofs.Likeness

/-!
# The faults of formats

A value that cannot be laid out by a specification is an error of the program, except for one kind of
fault: an overflow ends the whole run.  Only an integer can bring one about, as a character that does
not exist or as a float that it does not fit.
-/

namespace Walkthrough.Format

open Number

/-- An error of a format that may arise: if it is an overflow, it is one of those that escape. -/
def FormatError.Arises : FormatError → Prop
  | .fault (.overflow cause) => (Fault.overflow cause).Escapes
  | _ => True

/-- A value is laid out, or refused for a reason that may arise. -/
abbrev Formats {α : Type} (result : Except FormatError α) : Prop :=
  ErrsAs FormatError.Arises result

theorem leadingNumber_formats (text : List Char) : Formats (leadingNumber text) := by
  unfold leadingNumber
  dsimp only
  split
  · exact .throw trivial
  · exact .pure _

theorem leadingSeparator_formats (text : List Char) : Formats (leadingSeparator text) := by
  unfold leadingSeparator
  dsimp only
  split
  · exact .throw trivial
  · exact .pure _

theorem leadingPrecision_formats (text : List Char) : Formats (leadingPrecision text) := by
  unfold leadingPrecision
  split
  · refine (leadingNumber_formats _).bind fun number => ?_
    dsimp only
    split
    · exact .throw trivial
    · exact .pure _
  · exact .pure _

theorem Spec.read_formats (isNumber : Bool) (type : String) (usual : Option Char) (text : String) :
    Formats (Spec.read isNumber type usual text) := by
  unfold Spec.read
  dsimp only
  refine (leadingNumber_formats _).bind fun width => ?_
  refine (leadingSeparator_formats _).bind fun separator => ?_
  refine (leadingPrecision_formats _).bind fun precision => ?_
  split
  · exact .throw trivial
  · split
    · split
      · exact .throw trivial
      · exact .pure _
    · exact .pure _

theorem floatField_formats (spec : Spec) (type : String) (x : Float) :
    Formats (floatField spec type x) := by
  unfold floatField
  split
  · dsimp only
    split
    · exact .throw trivial
    · exact .pure _
  · exact .throw trivial

theorem integerField_formats (spec : Spec) (base : Nat) (mark : String) (i : Int) :
    Formats (integerField spec base mark i) := by
  refine ErrsAs.bind ?_ fun digits => .pure _
  unfold magnitude
  split
  · exact .throw trivial
  · exact .pure _

theorem characterField_formats (spec : Spec) (i : Int) : Formats (characterField spec i) := by
  have hcharacter : Formats (characterOf i) := by
    unfold characterOf
    split
    · exact .throw trivial
    · split
      · exact .throw trivial
      · exact .pure _
  unfold characterField
  dsimp only
  split
  · exact .throw trivial
  · split
    · exact .throw trivial
    · exact hcharacter.bind fun c => .pure _

/-- An integer is laid out as one of its digits, as a character, or as a float. -/
theorem codedField_formats (spec : Spec) (type : String) (i : Int) :
    Formats (match spec.code.getD 'd' with
      | 'b' => integerField spec 2 "0b" i
      | 'c' => characterField spec i
      | 'd' | 'n' => integerField spec 10 "" i
      | 'o' => integerField spec 8 "0o" i
      | 'x' | 'X' => integerField spec 16 "0x" i
      | code =>
        if "eEfFgG%".toList.contains code then
          match nearestInt? i with
          | some x => floatField spec type x
          | none => throw (.fault (.overflow .intToFloat))
        else throw (.unknownCode code type)) := by
  split
  · exact integerField_formats _ _ _ _
  · exact characterField_formats _ _
  · exact integerField_formats _ _ _ _
  · exact integerField_formats _ _ _ _
  · exact integerField_formats _ _ _ _
  · exact integerField_formats _ _ _ _
  · exact integerField_formats _ _ _ _
  · split
    · split
      · exact floatField_formats _ _ _
      · exact .throw trivial
    · exact .throw trivial

theorem formatInt_formats (type text : String) (i : Int) : Formats (formatInt type text i) := by
  refine (Spec.read_formats _ _ _ _).bind fun spec => ?_
  have hresult := (codedField_formats spec type i).bind fun chars =>
    ErrsAs.pure (String.ofList chars)
  dsimp only
  split
  · split
    · exact .throw trivial
    · split
      · exact .throw trivial
      · exact hresult
  · exact hresult

theorem formatFloat_formats (text : String) (x : Float) : Formats (formatFloat text x) :=
  (Spec.read_formats _ _ _ _).bind fun _ => (floatField_formats _ _ _).bind fun _ => .pure _

theorem formatComplex_formats (text : String) (re im : Float) :
    Formats (formatComplex text re im) := by
  refine (Spec.read_formats _ _ _ _).bind fun spec => ?_
  dsimp only
  split
  · split
    · exact .throw trivial
    · split
      · exact .throw trivial
      · split
        · exact .throw trivial
        · exact .pure _
  · exact .throw trivial

theorem formatText_formats (text value : String) : Formats (formatText text value) := by
  refine (Spec.read_formats _ _ _ _).bind fun spec => ?_
  dsimp only
  split
  · exact .throw trivial
  · split
    · exact .throw trivial
    · exact .throw trivial
    · split
      · exact .throw trivial
      · split
        · exact .throw trivial
        · split
          · exact .throw trivial
          · exact .pure _

/-- The failure that an error of a format becomes may arise too. -/
theorem FormatError.Arises.failure (h : cause.Arises) : (formatFailure cause).Arises := by
  unfold formatFailure
  split
  · exact h
  · trivial
  · trivial

end Walkthrough.Format
