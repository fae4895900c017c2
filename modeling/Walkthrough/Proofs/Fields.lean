import Walkthrough.Proofs.Run

/-!
# Fields of formatted strings

The conversion `!a` quotes the text of a value once more, for ASCII, and leaves the quotes out.  Where that
text has backslashes, control characters or quotes of both kinds, they are escaped a second time; else only
the characters beyond ASCII are (`ascii_conversion`).
-/

namespace Walkthrough

open Text

/-- Whether an expression is a formatted string with a name as its only part. -/
def Expr.isField (name conversion spec : String) : Expr → Bool
  | .formatted [.field (.name name' _) conversion' spec' _] _ =>
    name' == name && conversion' == conversion && spec' == spec
  | _ => false

theorem exec_nameValue (h : env.get? name = some v) (m : Machine) :
    exec (nameValue env name) m = (.ok v, m) := by
  rw [nameValue, Table.contains_eq_isSome, lookUp, h]
  rfl

theorem evaluate_isField (h : e.isField name conversion spec = true) (hname : env.get? name = some v)
    (htext : exec (fieldText conversion spec v) m = (.ok text, m)) :
    exec (evaluate context env e) m = (.ok (.str text), m) := by
  unfold Expr.isField at h
  split at h
  · simp only [Bool.and_eq_true, beq_iff_eq] at h
    obtain ⟨⟨rfl, rfl⟩, rfl⟩ := h
    simp only [evaluate, evaluatePieces, exec_bind, exec_nameValue hname, htext]
    simp
  · cases h

/-- What a text evaluates to follows from the shape of the expression that it is read as. -/
theorem evaluate_ofText (hread : (Reading.ofText expr).toOption.any shape = true)
    (hshape : ∀ e, shape e = true → exec (evaluate context env e) m = outcome) :
    exec ((Reading.ofText expr).evaluate context env) m = outcome := by
  obtain ⟨e, he, hfits⟩ := exists_ok_of_any hread
  rw [he]
  exact hshape e hfits

/-! ## Quoting for ASCII -/

/-- A character that is written as it is, unless it is beyond ASCII. -/
def asciiChar (c : Char) : List Char :=
  if c.toNat < 0x80 then [c] else codeEscape c

/-- Whether a character between quotes stands for itself, or is escaped only for being beyond ASCII. -/
def isKept (quote c : Char) : Bool :=
  c != quote && c != '\\' && (isPlainAscii c || 0x80 ≤ c.toNat)

theorem quotedChar_ascii (hquote : quote = '\'' ∨ quote = '"') (c : Char) :
    if isKept quote c then quotedChar isPlainAscii quote c = asciiChar c
    else (asciiChar c).length < (quotedChar isPlainAscii quote c).length := by
  by_cases hescaped : c ∈ [quote, '\\', '\t', '\n', '\r']
  · simp only [List.mem_cons, List.not_mem_nil, or_false] at hescaped
    rcases hescaped with rfl | rfl | rfl | rfl | rfl <;> rcases hquote with rfl | rfl <;> decide
  · have hplain (h : isPlainAscii c) : c.toNat < 0x80 := by
      rw [isPlainAscii, Bool.and_eq_true, decide_eq_true_eq, decide_eq_true_eq] at h
      exact Nat.lt_of_le_of_lt h.2 (by decide)
    have hescape : 1 < (codeEscape c).length := by
      unfold codeEscape
      grind
    grind [isKept, quotedChar, asciiChar]

/-- Where one function never gives less than another, they make the same list only from elements for which
they agree. -/
theorem flatMap_eq_iff {α β : Type} {f g : α → List β} {agree : α → Bool}
    (h : ∀ a, if agree a then f a = g a else (g a).length < (f a).length) (l : List α) :
    l.flatMap f = l.flatMap g ↔ ∀ a ∈ l, agree a := by
  have hlength (l : List α) : (l.flatMap g).length ≤ (l.flatMap f).length := by
    induction l with
    | nil => exact Nat.le.refl
    | cons a l ih => grind
  induction l with
  | nil => simp
  | cons a l ih =>
    have ha := h a
    have hl := hlength l
    rw [List.flatMap_cons, List.flatMap_cons]
    split at ha
    · rw [ha, List.append_cancel_left_eq]
      grind
    · refine ⟨fun heq => ?_, by grind⟩
      have := congrArg List.length heq
      grind

/-- A text that is not escaped twice: it has no backslashes, no control characters of ASCII, and no quotes of
both kinds. -/
def EscapedOnce (text : String) : Prop :=
  (∀ c ∈ text.toList, c ≠ '\\' ∧ (isPlainAscii c ∨ 0x80 ≤ c.toNat)) ∧
    ¬('\'' ∈ text.toList ∧ '"' ∈ text.toList)

theorem asciiBody_eq_iff (text : String) :
    asciiBody text = .ofList (text.toList.flatMap asciiChar) ↔ EscapedOnce text := by
  have hquote : (chooseQuote text.toList = '\'' ∨ chooseQuote text.toList = '"') ∧
      (chooseQuote text.toList ∉ text.toList ↔ ¬('\'' ∈ text.toList ∧ '"' ∈ text.toList)) := by
    rw [chooseQuote]
    grind
  rw [asciiBody, quotedBody, String.ofList_inj, flatMap_eq_iff (quotedChar_ascii hquote.1), EscapedOnce,
    ← hquote.2]
  grind [isKept]

theorem ofText_conversions :
    (Reading.ofText "f\"{v!a}\"").toOption.any (·.isField "v" "a" "") = true ∧
      (Reading.ofText "f\"{v!r}\"").toOption.any (·.isField "v" "r" "") = true := by
  decide +kernel

theorem ascii_conversion {context : Context} {env : Env} {m : Machine} {v : Value} {text : String}
    (hv : env.get? "v" = some v) (htext : v.repr m.store = .ok text) :
    let shows (expr shown : String) : Prop :=
      exec ((Reading.ofText expr).evaluate context env) m = (.ok (.str shown), m)
    ∃ shown, shows "f\"{v!a}\"" shown ∧ shows "f\"{v!r}\"" text ∧
      (shown = .ofList (text.toList.flatMap asciiChar) ↔ EscapedOnce text) ∧
      ((∀ c ∈ text.toList, c.toNat < 0x80) → (shown = text ↔ EscapedOnce text)) := by
  refine ⟨asciiBody text,
    evaluate_ofText ofText_conversions.1 fun e he => evaluate_isField he hv ?_,
    evaluate_ofText ofText_conversions.2 fun e he => evaluate_isField he hv ?_,
    asciiBody_eq_iff text, fun hascii => ?_⟩
  · simp only [fieldText, exec_bind, exec_look, htext]
    rfl
  · simp only [fieldText, exec_bind, exec_look, htext]
    rfl
  · have hsame : text.toList.flatMap asciiChar = text.toList := by
      exact (List.flatMap_congr fun c hc => if_pos (hascii c hc)).trans (List.flatMap_singleton' _)
    rw [← asciiBody_eq_iff, hsame, String.ofList_toList]

theorem ascii_conversion_letter :
    exec ((Reading.ofText "f\"{v!a}\"").evaluate (.withoutCalls 10) ⟨[("v", .str "a")]⟩) Machine.start =
      (.ok (.str "'a'"), Machine.start) := by
  have hrepr : (Value.str "a").repr Machine.start.store = .ok "'a'" := by decide
  have honce : EscapedOnce "'a'" := by simp [EscapedOnce, isPlainAscii]
  obtain ⟨shown, hshown, -, -, hiff⟩ :=
    @ascii_conversion (.withoutCalls 10) ⟨[("v", .str "a")]⟩ Machine.start _ _ rfl hrepr
  rw [hshown, (hiff (by simp)).mpr honce]

/-- The escape of a newline is escaped once more. -/
theorem ascii_conversion_newline :
    (Value.str "\n").repr Machine.start.store = .ok "'\\n'" ∧
    (exec ((Reading.ofText "f\"{v!a}\"").evaluate (.withoutCalls 10) ⟨[("v", .str "\n")]⟩)
      Machine.start).1 = .ok (.str "'\\\\n'") := by
  have hrepr : (Value.str "\n").repr Machine.start.store = .ok "'\\n'" := by decide
  refine ⟨hrepr, congrArg Prod.fst
    (evaluate_ofText ofText_conversions.1 fun e he => evaluate_isField he rfl ?_)⟩
  simp only [fieldText, exec_bind, exec_look, hrepr]
  rfl

end Walkthrough
