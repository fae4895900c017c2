import Walkthrough.Proofs.Fields
import Walkthrough.Proofs.Spelling

/-!
# Integers and their texts

An integer that is laid out in base two, eight or sixteen is read back from its text, with and without the
mark of the base and underscores between groups of digits.  So is one in base ten that may be written.
-/

namespace Walkthrough

open Number Format

variable {n : Int} {base : Nat} {code : Char} {mark text : String} {alternate : Bool}

/-- The codes that lay out integers, with their bases and marks. -/
def integerCodes : List (Char × Nat × String) :=
  [('d', 10, ""), ('x', 16, "0x"), ('o', 8, "0o"), ('b', 2, "0b")]

/-- The text of an integer: its sign, perhaps the mark of the base, and digits. -/
def signedText (n : Int) (alternate : Bool) (mark : String) (digits : List Char) : List Char :=
  (if n < 0 then ['-'] else []) ++ ((if alternate then mark.toList else []) ++ digits)

/-! ## Reading -/

theorem readInteger_signedText (hcode : (code, base, mark) ∈ integerCodes)
    (hbody : Spaced (Nat.toDigits base n.natAbs) body) (hshort : base = 10 → n.natAbs < unwritable) :
    readInteger base (signedText n alternate mark body) = .ok n := by
  have hcodes : ∀ x ∈ integerCodes, 1 < x.2.1 ∧ x.2.1 ≤ 16 ∧ (isBinaryBase x.2.1 = true ∨ x.2.1 = 10) ∧
      ∀ alternate : Bool, let shown := if alternate then x.2.2.toList else []
        (shown.all fun c => 0x20 < c.toNat && c.toNat < 0x7f) ∧ (shown = [] ∨ shown.head? = some '0') := by
    decide
  obtain ⟨hlow, hhigh, hbinary, hshown⟩ := hcodes _ hcode
  change 1 < base at hlow
  obtain ⟨hvisible, hzero⟩ := hshown alternate
  obtain ⟨ds, hds, hvalue⟩ := digits_toDigits hlow hhigh n.natAbs
  have hdigits : ∀ c ∈ body, c = '_' ∨ ∃ d, digitValue? c = some d ∧ d < base := fun c hc =>
    (hbody.mem c hc).imp_right (hds.exists_of_mem c)
  obtain ⟨c, rest, rfl, d, hd⟩ : ∃ c rest, body = c :: rest ∧ ∃ d, digitValue? c = some d := by
    generalize Nat.toDigits base n.natAbs = cs at *
    cases hbody <;> cases hds <;> exact ⟨_, _, rfl, _, (‹_ ∧ _›).1⟩
  have hdrop : dropAnnouncement base ((if alternate then mark.toList else []) ++ c :: rest) = c :: rest := by
    have hc : c ≠ '_' := ne_of_digitValue? hd (by decide)
    cases alternate with
    | false => exact dropAnnouncement_of_digits hdigits
    | true =>
      fin_cases hcode
      · exact dropAnnouncement_of_digits hdigits
      all_goals simp [dropAnnouncement, hc]
  have hplain : ∀ x ∈ signedText n alternate mark (c :: rest), 0x20 < x.toNat ∧ x.toNat < 0x7f := by
    intro x hx
    rcases List.mem_append.mp hx with hx | hx
    · split at hx
      · rw [List.mem_singleton.mp hx]
        decide
      · cases hx
    · rcases List.mem_append.mp hx with hx | hx
      · simpa using List.all_eq_true.mp hvisible x hx
      · rcases hdigits x hx with rfl | ⟨d, hd, -⟩
        · decide
        · exact code_of_digitValue? hd
  unfold signedText at *
  generalize (if alternate then mark.toList else []) = mark at *
  have hsign : dropSign ((if n < 0 then ['-'] else []) ++ (mark ++ c :: rest)) =
      (decide (n < 0), mark ++ c :: rest) := by
    by_cases hn : n < 0
    · simp [hn, dropSign]
    · simp only [hn]
      cases mark with
      | nil => exact dropSign_of_digit hd
      | cons x mark =>
        obtain rfl : x = '0' := by simpa using hzero
        exact dropSign_of_digit (by decide : digitValue? '0' = some 0)
  have hread : digitsOf base false [] (dropAnnouncement base (mark ++ c :: rest)) = some (ds, []) := by
    rw [hdrop, digitsOf_spaced hbody hds]
    rfl
  have hlength : isBinaryBase base = true ∨ ds.length ≤ digitLimit := by
    refine hbinary.imp_right ?_
    rintro rfl
    rw [← List.Forall₂.length_eq hds]
    exact length_toDigits_le (by decide) (hshort rfl)
  rw [readInteger_eq (.inr ⟨hlow, Nat.le_trans hhigh (by decide)⟩) hplain hsign
    (if_neg (by simp; omega)) hread hlength (by simp), hvalue]
  simp only [decide_eq_true_eq, Int.ofNat_eq_natCast]
  split <;> (congr 1; omega)

/-! ## Writing -/

/-- No group of digits is empty. -/
theorem groupReversed_spaced (hsize : 0 < size) (fuel : Nat)
    (hdigits : digits ≠ []) (hfuel : digits.length ≤ fuel) (hleast : least ≤ 0) :
    Spaced digits.reverse (groupReversed size '_' fuel digits least).reverse := by
  induction fuel generalizing digits least with
  | zero => exact absurd (List.length_eq_zero_iff.mp (Nat.le_zero.mp hfuel)) hdigits
  | succ fuel ih =>
    have hpos : 0 < digits.length := List.length_pos_iff.mpr hdigits
    obtain ⟨length, hlength, hlow, hhigh⟩ : ∃ length : Nat,
        min (Int.ofNat size) (max (max (Int.ofNat digits.length) least) 1) = length ∧
          0 < length ∧ length ≤ digits.length := by
      refine ⟨min size digits.length, ?_, by omega, by omega⟩
      generalize digits.length = count at *
      rw [Int.ofNat_eq_natCast, Int.ofNat_eq_natCast]
      omega
    have hfull : length - (digits.take length).length = 0 := by
      rw [List.length_take]
      omega
    rw [groupReversed]
    simp only [hlength, Int.toNat_natCast, hfull, zeros, List.replicate_zero, List.append_nil]
    split
    · next hrest =>
      rw [Bool.and_eq_true, List.isEmpty_iff, List.drop_eq_nil_iff] at hrest
      rw [List.take_of_length_le hrest.1]
      exact .refl (List.reverse_ne_nil_iff.mpr hdigits)
    · next hrest =>
      have hless : digits.drop length ≠ [] := by
        intro hnil
        simp only [hnil, List.isEmpty_nil, Bool.true_and, decide_eq_true_eq] at hrest
        omega
      have hgroup : (digits.take length).reverse ≠ [] := by simp [hdigits]; omega
      have hspaced : Spaced (digits.drop length).reverse
          (groupReversed size '_' fuel (digits.drop length) (least - length - 1)).reverse :=
        ih hless (by rw [List.length_drop]; omega) (by omega)
      have happend := hspaced.append (.refl hgroup)
      rw [← List.reverse_append, List.take_append_drop] at happend
      simpa using happend

theorem groupDigits_spaced (hdigits : digits ≠ [])
    (hseparator : separator ∈ [none, some '_']) (hsize : 0 < size) :
    Spaced digits (groupDigits separator size digits 0) := by
  obtain ⟨c, cs, rfl⟩ := List.exists_cons_of_ne_nil hdigits
  rcases List.mem_pair.mp hseparator with rfl | rfl
  · have hnone : groupDigits none size (c :: cs) 0 = c :: cs := by simp [groupDigits, zeros]
    rw [hnone]
    exact .refl hdigits
  · have hspaced := groupReversed_spaced hsize ((c :: cs).length + 1) (List.reverse_ne_nil_iff.mpr hdigits)
      (by simp) (Int.le_refl 0)
    rwa [List.reverse_reverse] at hspaced

/-- A specification with nothing but a mark, a separator and a code. -/
def plainSpec (alternate : Bool) (separator : Option Char) (code : Char) : Spec :=
  ⟨' ', .right, none, false, alternate, none, separator, none, some code⟩

/-- An integer laid out by a code is read back in its base. -/
theorem formatInt_plainSpec
    (hread : Spec.read true "int" (some 'd') text = .ok (plainSpec alternate separator code))
    (hcode : (code, base, mark) ∈ integerCodes) (hseparator : separator ∈ [none, some '_'])
    (hshort : base = 10 → n.natAbs < unwritable) :
    ∃ shown, formatInt "int" text n = .ok (.ofList shown) ∧ readInteger base shown = .ok n := by
  have hupper : ∀ x ∈ integerCodes, isUpper (some x.1) = false := by decide
  have hmagnitude : magnitude base n = .ok (Nat.toDigits base n.natAbs) := by
    refine if_neg ?_
    simpa using hshort
  have hroom (a b : Nat) : (-1 - (Int.ofNat a + Int.ofNat b)).toNat = 0 := by
    rw [Int.ofNat_eq_natCast, Int.ofNat_eq_natCast]
    omega
  have hfield : integerField (plainSpec alternate separator code) base mark n =
      .ok (signedText n alternate mark
        (groupDigits separator (if base == 10 then 3 else 4) (Nat.toDigits base n.natAbs) 0)) := by
    rw [integerField, hmagnitude]
    simp only [plainSpec, recase, hupper _ hcode, Spec.number, Spec.signText, surround, signedText, hroom,
      Option.map_none, Option.getD_none]
    cases alternate <;> simp
  have hrun : formatInt "int" text n =
      String.ofList <$> integerField (plainSpec alternate separator code) base mark n := by
    rw [formatInt, hread]
    generalize integerField = field
    fin_cases hcode <;> rfl
  rw [hrun, hfield]
  exact ⟨_, rfl, readInteger_signedText hcode
    (groupDigits_spaced Nat.toDigits_ne_nil hseparator (by split <;> decide)) hshort⟩

/-! ## Both in an expression -/

/-- Whether an expression reads an integer from a text that `shows` accepts, in a base if there is one. -/
def Expr.isInteger (shows : Expr → Bool) (base? : Option Nat) : Expr → Bool
  | .call function arguments _ =>
    function == "int" && match arguments, base? with
      | [text], none => shows text
      | [text, .const base _], some base' => base == .int base' && shows text
      | _, _ => false
  | _ => false

/-- Whether an expression is the text of a name by a call. -/
def Expr.isText (name : String) : Expr → Bool
  | .call function [.name name' _] _ => function == "str" && name' == name
  | _ => false

section

variable {context : Context} {env : Env} {m : Machine} {e : Expr}

theorem exec_calleeOf (h : env.get? name = none)
    (hname : Builtin.ofName? name = some function) (m : Machine) :
    exec (calleeOf env name) m = (.ok (.builtin function), m) := by
  rw [calleeOf, h, hname]
  rfl

theorem evaluate_isText (he : e.isText name = true) (hv : env.get? name = some v)
    (hstr : env.get? "str" = none) (htext : v.text m.store = .ok text) :
    exec (evaluate context env e) m = (.ok (.str text), m) := by
  unfold Expr.isText at he
  split at he
  · simp only [Bool.and_eq_true, beq_iff_eq] at he
    obtain ⟨rfl, rfl⟩ := he
    have hcall : exec (toText [v]) m = (.ok (.str text), m) := by
      change exec (Run.look (v.text ·) >>= fun text => pure (Value.str text)) m = _
      rw [exec_bind_ok ((exec_look m _).trans (congrArg (·, m) htext)), exec_pure]
    simp only [evaluate, evaluateAll, exec_bind, exec_calleeOf hstr rfl, exec_nameValue hv]
    exact hcall
  · cases he

theorem evaluate_isInteger
    (he : e.isInteger shows base? = true) (hint : env.get? "int" = none)
    (hshows : ∀ e, shows e = true → exec (evaluate context env e) m = (.ok (.str (.ofList shown)), m))
    (hread : readInteger (base?.getD 10) shown = .ok n) :
    exec (evaluate context env e) m = (.ok (.int n), m) := by
  have hinteger (base : Nat) (hread : readInteger base shown = .ok n) :
      exec (integerOfText base (.ofList shown)) m = (.ok (.int n), m) := by
    have hbase : ¬(base : Int) < 0 := by omega
    simp only [integerOfText, String.toList_ofList, Int.toNat_natCast, hread, hbase]
    rfl
  unfold Expr.isInteger at he
  split at he
  · rw [Bool.and_eq_true, beq_iff_eq] at he
    obtain ⟨rfl, he⟩ := he
    split at he
    · simp only [evaluate, evaluateAll, exec_bind, exec_calleeOf hint rfl, hshows _ he]
      exact hinteger 10 hread
    · rw [Bool.and_eq_true, beq_iff_eq] at he
      obtain ⟨rfl, he⟩ := he
      simp only [evaluate, evaluateAll, exec_bind, exec_calleeOf hint rfl, hshows _ he]
      exact hinteger _ hread
    · cases he
  · cases he

end

theorem text_int (hshort : n.natAbs < unwritable) (s : Store) :
    Value.text s (.int n) = .ok (.ofList (signedText n false "" (Nat.toDigits 10 n.natAbs))) := by
  have htext : Value.text s (.int n) = ofFault (intText n) := rfl
  rw [htext, intText, if_pos hshort]
  cases n with
  | ofNat n => rfl
  | negSucc n =>
    rw [signedText, if_pos (Int.negSucc_lt_zero n), String.ofList_append]
    rfl

theorem fieldText_plain (spec : String) (value : Value) :
    fieldText "" spec value =
      if spec.isEmpty then Run.look fun s => value.text s else formatValue spec value :=
  rfl

theorem integer_read_from_its_text {context : Context} {env : Env} {m : Machine} {n : Int}
    (hn : env.get? "n" = some (.int n)) (hint : env.get? "int" = none) (hstr : env.get? "str" = none) :
    let gives (expr : String) : Prop :=
      exec ((Reading.ofText expr).evaluate context env) m = (.ok (.int n), m)
    (∀ flags ∈ ["", "#", "_", "#_"], ∀ code ∈ [('x', 16), ('o', 8), ('b', 2)],
      gives ("int(f\"\x7bn:" ++ flags ++ code.1.toString ++ "\x7d\", " ++ toString code.2 ++ ")")) ∧
    (n.natAbs < unwritable → ∀ expr ∈ ["int(str(n))", "int(f\"{n}\")", "int(f\"{n:d}\")"], gives expr) := by
  have hgives {expr : String} (shows : Expr → Bool) (base? : Option Nat) {shown : List Char}
      (he : (Reading.ofText expr).toOption.any (·.isInteger shows base?) = true)
      (hshows : ∀ e, shows e = true → exec (evaluate context env e) m = (.ok (.str (.ofList shown)), m))
      (hread : readInteger (base?.getD 10) shown = .ok n) :
      exec ((Reading.ofText expr).evaluate context env) m = (.ok (.int n), m) :=
    evaluate_ofText he fun e he => evaluate_isInteger he hint hshows hread
  have hfield {spec : String} (hspec : spec.isEmpty = false) {shown : List Char}
      (hformat : formatInt "int" spec n = .ok (.ofList shown)) (e : Expr)
      (he : e.isField "n" "" spec = true) :
      exec (evaluate context env e) m = (.ok (.str (.ofList shown)), m) := by
    refine evaluate_isField he hn ?_
    rw [fieldText_plain, hspec]
    simp only [formatValue, hformat]
    rfl
  constructor
  · intro flags hflags code hcode
    have hreads : ∀ flags ∈ ["", "#", "_", "#_"], ∀ code ∈ [('x', 16), ('o', 8), ('b', 2)],
        let spec := flags ++ code.1.toString
        (Reading.ofText ("int(f\"\x7bn:" ++ flags ++ code.1.toString ++ "\x7d\", " ++ toString code.2 ++
          ")")).toOption.any (·.isInteger (·.isField "n" "" spec) (some code.2)) = true ∧
        spec.isEmpty = false ∧ Spec.read true "int" (some 'd') spec =
          .ok (plainSpec (flags.toList.contains '#') (if flags.toList.contains '_' then some '_' else none)
            code.1) := by
      intro flags hflags code hcode
      fin_cases hflags <;> fin_cases hcode <;> decide +kernel
    obtain ⟨mark, hmark⟩ : ∃ mark, (code.1, code.2, mark) ∈ integerCodes := by
      fin_cases hcode
      exacts [⟨"0x", by decide⟩, ⟨"0o", by decide⟩, ⟨"0b", by decide⟩]
    obtain ⟨hread, hspec, hparts⟩ := hreads flags hflags code hcode
    obtain ⟨shown, hformat, hback⟩ := formatInt_plainSpec (n := n) hparts hmark (by split <;> decide)
      (by fin_cases hcode <;> simp)
    exact hgives _ _ hread (hfield hspec hformat) hback
  · intro hshort expr hexpr
    have hdecimal : ('d', 10, "") ∈ integerCodes := by decide
    have htext := text_int hshort m.store
    have hback : readInteger 10 (signedText n false "" (Nat.toDigits 10 n.natAbs)) = .ok n :=
      readInteger_signedText hdecimal (.refl Nat.toDigits_ne_nil) fun _ => hshort
    fin_cases hexpr
    · exact hgives (·.isText "n") none (by decide +kernel)
        (fun e he => evaluate_isText he hn hstr htext) hback
    · refine hgives (·.isField "n" "" "") none (by decide +kernel)
        (fun e he => evaluate_isField he hn ?_) hback
      rw [fieldText_plain]
      exact (exec_look m _).trans (congrArg (·, m) htext)
    · have hspec : Spec.read true "int" (some 'd') "d" = .ok (plainSpec false none 'd') := by
        decide +kernel
      obtain ⟨shown, hformat, hback⟩ :=
        formatInt_plainSpec (n := n) hspec hdecimal (by decide) fun _ => hshort
      exact hgives (·.isField "n" "" "d") none (by decide +kernel) (hfield (by decide) hformat) hback

theorem integer_read_from_its_text_negative :
    let expr := "int(f\"\x7bn:#_x\x7d\", 16)"
    exec ((Reading.ofText expr).evaluate (.withoutCalls 10) ⟨[("n", .int (-0xabcdef))]⟩) .start =
      (.ok (.int (-0xabcdef)), Machine.start) :=
  (integer_read_from_its_text rfl rfl rfl).1 "#_" (by decide) ('x', 16) (by decide)

end Walkthrough
