/-!
# Output

The lines a program has printed.  They are kept with the latest first, so that every step can hold
the output of its time at no cost.
-/

namespace Walkthrough

structure Output where
  latestFirst : List String
deriving DecidableEq, Repr, Inhabited

def Output.empty : Output := ⟨[]⟩

def Output.lines (output : Output) : List String := output.latestFirst.reverse

def Output.push (output : Output) (line : String) : Output := ⟨line :: output.latestFirst⟩

def Output.ofLines (lines : List String) : Output := ⟨lines.reverse⟩

@[simp] theorem Output.lines_empty : Output.empty.lines = [] := rfl

@[simp] theorem Output.lines_push (output : Output) (line : String) :
    (output.push line).lines = output.lines ++ [line] := by
  simp [Output.push, Output.lines]

@[simp] theorem Output.lines_ofLines (lines : List String) :
    (Output.ofLines lines).lines = lines := by
  simp [Output.ofLines, Output.lines]

end Walkthrough
