import Walkthrough.Text.Blank

/-!
# Finding, cutting and replacing

Occurrences of one text in another, taken from left to right without overlap.
-/

namespace Walkthrough.Text

/-- The position, counted from `position`, of the first occurrence of a text. -/
def findFrom? (part : List Char) (position : Nat) (text : List Char) : Option Nat :=
  if part.isPrefixOf text then some position
  else
    match text with
    | [] => none
    | _ :: rest => findFrom? part (position + 1) rest
termination_by text.length

/-- The pieces of a text between the first occurrences of a separator, at most `count` of them if
there is a bound.  `piece` holds the current piece in reverse, `pieces` the earlier ones. -/
def cutAt (separator : List Char) (count : Option Nat) (piece : List Char)
    (pieces : List (List Char)) : List Char → List (List Char)
  | [] => (piece.reverse :: pieces).reverse
  | c :: rest =>
    if !separator.isEmpty && count != some 0 && separator.isPrefixOf (c :: rest) then
      cutAt separator (count.map (· - 1)) [] (piece.reverse :: pieces)
        (rest.drop (separator.length - 1))
    else cutAt separator count (c :: piece) pieces rest
termination_by text => text.length

/-- The words of a text between white space; after `count` of them, if there is a bound, what
remains is one piece. -/
def splitWords (count : Option Nat) (words : List (List Char)) (text : List Char) :
    List (List Char) :=
  match h : text.dropWhile isBlank with
  | [] => words.reverse
  | c :: rest =>
    if count == some 0 then ((c :: rest) :: words).reverse
    else
      have : ((c :: rest).dropWhile (!isBlank ·)).length < text.length := by
        have blank : isBlank c = false := by
          have nonempty : text.dropWhile isBlank ≠ [] := by simp [h]
          simpa [h] using List.head_dropWhile_not isBlank nonempty
        have kept := (List.dropWhile_sublist isBlank : List.Sublist _ text).length_le
        have shorter := (List.dropWhile_sublist (!isBlank ·) : List.Sublist _ rest).length_le
        rw [h] at kept
        simp [List.dropWhile, blank] at *
        omega
      splitWords (count.map (· - 1)) ((c :: rest).takeWhile (!isBlank ·) :: words)
        ((c :: rest).dropWhile (!isBlank ·))
termination_by text.length

/-- A text with another put before each of its first `count` characters; with no bound, or a larger
one, also at its end. -/
def intersperse (new : List Char) (count : Option Nat) (text : List Char) : List Char :=
  let count := count.getD (text.length + 1)
  let ending := if count > text.length then new else []
  (text.take count).flatMap (fun c => new ++ [c]) ++ ending ++ text.drop count

/-- A text with the first occurrences of a text replaced, at most `count` of them if there is a
bound. -/
def replaceText (old new : List Char) (count : Option Nat) (text : List Char) : List Char :=
  if old.isEmpty then intersperse new count text
  else new.intercalate (cutAt old count [] [] text)

def countText (part text : List Char) : Nat :=
  if part.isEmpty then text.length + 1 else (cutAt part none [] [] text).length - 1

end Walkthrough.Text
