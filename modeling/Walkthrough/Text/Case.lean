import Walkthrough.Text.CodeRange

/-!
# Upper, lower and title case

Full case conversion after version 14 of the Unicode standard: a character may become several, and
a capital sigma becomes a final sigma at the end of a word.
-/

namespace Walkthrough.Text

/-- A run of characters `first, first + stride, …, last` whose other case lies `delta` away. -/
structure CaseShift where
  first : Nat
  last : Nat
  stride : Nat
  delta : Int

/-- The runs after the codes below `next`.  For every run the steps say how many codes are left out
before it and how many it has, and then its stride and its distance. -/
def CaseShift.ofStepsFrom (next : Int) : List Int → List CaseShift
  | out :: count :: stride :: delta :: rest =>
    let last := next + out + (count - 1) * stride
    ⟨(next + out).toNat, last.toNat, stride.toNat, delta⟩ :: CaseShift.ofStepsFrom (last + 1) rest
  | _ => []

/-- The runs whose steps are written as a text.  An odd number stands for a negative step. -/
def CaseShift.ofText (steps : String) : Array CaseShift :=
  let step (number : Nat) : Int :=
    if number % 2 == 0 then number / 2 else -((number + 1) / 2)
  (CaseShift.ofStepsFrom 0 ((numbersOf 0 (digitsOf steps)).map step)).toArray

/-- The run that leads back. -/
def CaseShift.inverse (s : CaseShift) : CaseShift where
  first := (s.first + s.delta).toNat
  last := (s.last + s.delta).toNat
  stride := s.stride
  delta := -s.delta

/-- The code that a list of runs assigns to `code`, or `code` itself. -/
def CaseShift.apply (shifts : Array CaseShift) (code : Nat) : Nat :=
  match shifts.find? fun s => s.first ≤ code && code ≤ s.last && (code - s.first) % s.stride == 0 with
  | some s => (Int.ofNat code + s.delta).toNat
  | none => code

/-- One-character upper case outside ASCII. -/
def upperShifts : Array CaseShift := CaseShift.ofText
 "nK&&jm_j9T&g&4&g$&&lU&V)%&&&p.&+)%)6)%)T)%)+)%$&&r4$&&o$)))%)&&%+&&%0&&%)&&kh+&&%$&&n%+&&m$)+)%)&
 &%.&&%)&&%+))%)&&%+&&%&&&jU0&&%$&&(&&&%$&&(&&&%$&&(&6)%$&&kA&8)%)&&%$&&(&&&%+N)%+8)%6&&%))&jiqX&&
 &%.0)%$&&jipY$&&jipS$&&jipW$&&oC$&&o;&)&o9&&&o3&&&o5$&&mio.+&&o9$&&mio$&&&o=&&&mimd$&&minY&&&oA$&
 &oE$&&minY$&&jioJ$&&minS)&&oE&&&jioV$&&oI)&&oK4&&jio))&&oS&&&minW$&&oS+&&mimh$&&oS$&&k,$)&oQ$&&k1
 0&&oU:&&mim<$&&mim6n,&&kLj;))%+&&%++&m$jA&&j0$+&j.&H&g$&&e$8&g$&&jf$)&jd&&&jb$&&jV+&&jB$&&jP$&&5&
 >)%$&&kO$&&kC$&&4$&&lJ&&&ke)&&%)&&%jMh&g$F&kC&H)%8])%)4)%$&&C&jE)%jGj1&jDmybj;&nkJ)+&nkJjn?2&5lv%
 &&suA$&&su?$&&su,$)&su($&&su*$&&st_$&&ss1$&&lon,p?&&lop/+&&or=F&&loqVlGk:)%0&&jZ0jE)%$6&662&6:6&6
 66&662&6<.)666&66)&k8$.&kP$)&l*$)&le$)&lC$)&lajI)&6>&&unRH)&6B)&6+&&4t*&&^j%F&E.&&%jpeZ&Yll9jE&jD
 &&&%+&&jiq/$&&jiq(&+)%2&&%)&&%:jI)%6))%.&&%>j1&upF&&&upF0&&upFkyzST)%LB)%m04)%+f)%:))%)0)%.&&%.))
 %$&&jE):)%<6)%.))%2&&%0))%_&&%jqD&&jsI_kD&lupZkirWZ&gkj[j5&j4m2j,&j4mX<&j2&D&j2&4&j2&)&j2lj5jK&jf
 nkfh&gkjpEh&gkztgj(&j&"

/-- Characters whose upper case is several characters.  The last are the Greek vowels with an iota
below. -/
def upperSpellings : Array (Nat × List Nat) := #[
  (0xdf, [0x53, 0x53]), (0x149, [0x2bc, 0x4e]), (0x1f0, [0x4a, 0x30c]),
  (0x390, [0x399, 0x308, 0x301]), (0x3b0, [0x3a5, 0x308, 0x301]), (0x587, [0x535, 0x552]),
  (0x1e96, [0x48, 0x331]), (0x1e97, [0x54, 0x308]), (0x1e98, [0x57, 0x30a]),
  (0x1e99, [0x59, 0x30a]), (0x1e9a, [0x41, 0x2be]), (0x1f50, [0x3a5, 0x313]),
  (0x1f52, [0x3a5, 0x313, 0x300]), (0x1f54, [0x3a5, 0x313, 0x301]),
  (0x1f56, [0x3a5, 0x313, 0x342]), (0x1fb2, [0x1fba, 0x399]), (0x1fb3, [0x391, 0x399]),
  (0x1fb4, [0x386, 0x399]), (0x1fb6, [0x391, 0x342]), (0x1fb7, [0x391, 0x342, 0x399]),
  (0x1fbc, [0x391, 0x399]), (0x1fc2, [0x1fca, 0x399]), (0x1fc3, [0x397, 0x399]),
  (0x1fc4, [0x389, 0x399]), (0x1fc6, [0x397, 0x342]), (0x1fc7, [0x397, 0x342, 0x399]),
  (0x1fcc, [0x397, 0x399]), (0x1fd2, [0x399, 0x308, 0x300]), (0x1fd3, [0x399, 0x308, 0x301]),
  (0x1fd6, [0x399, 0x342]), (0x1fd7, [0x399, 0x308, 0x342]), (0x1fe2, [0x3a5, 0x308, 0x300]),
  (0x1fe3, [0x3a5, 0x308, 0x301]), (0x1fe4, [0x3a1, 0x313]), (0x1fe6, [0x3a5, 0x342]),
  (0x1fe7, [0x3a5, 0x308, 0x342]), (0x1ff2, [0x1ffa, 0x399]), (0x1ff3, [0x3a9, 0x399]),
  (0x1ff4, [0x38f, 0x399]), (0x1ff6, [0x3a9, 0x342]), (0x1ff7, [0x3a9, 0x342, 0x399]),
  (0x1ffc, [0x3a9, 0x399]), (0xfb00, [0x46, 0x46]), (0xfb01, [0x46, 0x49]), (0xfb02, [0x46, 0x4c]),
  (0xfb03, [0x46, 0x46, 0x49]), (0xfb04, [0x46, 0x46, 0x4c]), (0xfb05, [0x53, 0x54]),
  (0xfb06, [0x53, 0x54]), (0xfb13, [0x544, 0x546]), (0xfb14, [0x544, 0x535]),
  (0xfb15, [0x544, 0x53b]), (0xfb16, [0x54e, 0x546]), (0xfb17, [0x544, 0x53d])] ++
  (Array.range 48).map fun i =>
    (0x1f80 + i, [([0x1f08, 0x1f28, 0x1f68].getD (i / 16) 0) + i % 8, 0x399])

/-- One-character lower case outside ASCII: it undoes the upper case, but for a few characters. -/
def lowerShifts : Array CaseShift := #[
  ⟨0x1c4, 0x1c4, 1, 2⟩, ⟨0x1c5, 0x1c5, 1, 1⟩, ⟨0x1c7, 0x1c7, 1, 2⟩, ⟨0x1c8, 0x1c8, 1, 1⟩,
  ⟨0x1ca, 0x1ca, 1, 2⟩, ⟨0x1cb, 0x1cb, 1, 1⟩, ⟨0x1f1, 0x1f1, 1, 2⟩, ⟨0x1f2, 0x1f2, 1, 1⟩,
  ⟨0x399, 0x399, 1, 32⟩, ⟨0x39c, 0x39c, 1, 32⟩, ⟨0x3a3, 0x3a3, 1, 32⟩, ⟨0x3f4, 0x3f4, 1, -60⟩,
  ⟨0x1e9e, 0x1e9e, 1, -7615⟩, ⟨0x1f88, 0x1f8f, 1, -8⟩, ⟨0x1f98, 0x1f9f, 1, -8⟩,
  ⟨0x1fa8, 0x1faf, 1, -8⟩, ⟨0x1fbc, 0x1fbc, 1, -9⟩, ⟨0x1fcc, 0x1fcc, 1, -9⟩,
  ⟨0x1ffc, 0x1ffc, 1, -9⟩, ⟨0x2126, 0x2126, 1, -7517⟩, ⟨0x212a, 0x212a, 1, -8383⟩,
  ⟨0x212b, 0x212b, 1, -8262⟩, ⟨0xa64a, 0xa64a, 1, 1⟩] ++ upperShifts.map CaseShift.inverse

/-- Characters whose lower case is several characters. -/
def lowerSpellings : Array (Nat × List Nat) := #[
  (0x130, [0x69, 0x307])]

/-- One-character title case outside ASCII: the upper case, but for a few characters. -/
def titleShifts : Array CaseShift := #[
  ⟨0x1c4, 0x1c4, 1, 1⟩, ⟨0x1c5, 0x1c5, 1, 0⟩, ⟨0x1c6, 0x1c6, 1, -1⟩, ⟨0x1c7, 0x1c7, 1, 1⟩,
  ⟨0x1c8, 0x1c8, 1, 0⟩, ⟨0x1c9, 0x1c9, 1, -1⟩, ⟨0x1ca, 0x1ca, 1, 1⟩, ⟨0x1cb, 0x1cb, 1, 0⟩,
  ⟨0x1cc, 0x1cc, 1, -1⟩, ⟨0x1f1, 0x1f1, 1, 1⟩, ⟨0x1f2, 0x1f2, 1, 0⟩, ⟨0x1f3, 0x1f3, 1, -1⟩,
  ⟨0x10d0, 0x10fa, 1, 0⟩, ⟨0x10fd, 0x10ff, 1, 0⟩, ⟨0x1f80, 0x1f87, 1, 8⟩, ⟨0x1f90, 0x1f97, 1, 8⟩,
  ⟨0x1fa0, 0x1fa7, 1, 8⟩, ⟨0x1fb3, 0x1fb3, 1, 9⟩, ⟨0x1fc3, 0x1fc3, 1, 9⟩,
  ⟨0x1ff3, 0x1ff3, 1, 9⟩] ++ upperShifts

/-- Characters whose title case is several characters: the first is in upper case.  An iota goes
below the letter before it. -/
def titleSpellings : Array (Nat × List Nat) :=
  let lowered (code : Nat) : Nat :=
    if code == 0x399 then 0x345
    else if code < 128 then (Char.ofNat code).toLower.toNat
    else CaseShift.apply lowerShifts code
  let spelled := upperSpellings.filter fun (code, _) =>
    CaseShift.apply titleShifts code == code && CaseShift.apply lowerShifts code == code
  #[(0x149, [0x2bc, 0x4e])] ++
    spelled.map fun (code, spelling) => (code, spelling.take 1 ++ (spelling.drop 1).map lowered)

/-- Code ranges outside ASCII of the characters that have a case. -/
def casedRanges : Array (Nat × Nat) := CodeRange.ofText
 "kN%0%)%*=%E%l$%))l3%J,&D*jE%P)&&&)%%+%%(%%%:%j8%k/.kJ%L/OkpRL%%*%&Q&(s<j;&+jxG/,Q&(hkfhm8&+&L&+&.
 %%%%%%%E&[%,%%((%,()&+)3*(%,jY%3%63jJ%)%&0%%(*+%%%%%%)%+)%&)**)%7F(&uKZjrclH+)(&2L%%*%jqq]T8Dk&jK
 ()%c*&%%%*A&%(uOQ%3,j5zo.,2*xb@+@ji9j5jEJ)JjY1%5%,%&%1%5%,%&oe%&(%P%/jiYY3Ykrhhjiu6hjmlWj:%j+%&&%
 &&&)%2%%%,%j$%)&.%,%B%)%*%%(,%n5&?%?%E%?%E%?%E%?%E%?%.js>0%:kkcj(jv3@+@+@"

/-- Code ranges of the characters that are skipped when looking for the end of a word. -/
def caseIgnorableRanges : Array (Nat × Nat) := CodeRange.ofText
 "M%+%1%I%%%j+%)%%%)%&&pVkf)&)%/&%%l_,l2%*%WS%%%&%&%%R%1+01%%I%0;6%jJ.%0%)G%%%DAj@1b1)%&%>>Q(R%,&+.
 Ob^%%%).)%(,0&3%5%b%)).%:&@%&&a%)&)&&((%D&(%1&a%)*%&)%:&<+%%b%&%%).%,&1&D%e%2%X%(%^%%(*(%),&1&C%b
 %&%+%*&:&B&a&)).%:&C%j,%,(%%j?%&,1/jG%&//%%+j/&A%%%%%^4%*%&*1%J/%jK)%+%&&&?&)(6)3%&&+%5%jC%r=(wJ(
 C&D&D&h&%,.%&1(%*%S*Y%j$&H%j[()&/%+(l>&&%b%%,%%%%&.+0&%M%.EW)V%%*%%*%N/2&F)&&%(_%%&(%%(b.&&h+j7(%
 3%,)%+%(&Xg3%HjJo^%%(1(3(3(3&2*.&0%&%&*W*%0%%3%63YGkrD&jV(jd%5%jEFU%p4%J)(**%jB+jB(jonG%jj5+m0%jG
 )%0%%B)j5&4Hj3%=(jL((&.%(%)%?&*%k;&@83%L.?1T(V%&)&&7%;&j%+&&&&2%.%I%1%Y%%(&&*&%%A%4&*&%%jI*/(j_%&
 %)%zna%k77q[6(%26H%&%kM%,%+%1%I%%%U%S&j&%;(pb%lE%k9*x]+%P%/qf(%&*)N()%kI&q[)nf&k=1W)jb%]5O%&&0(W)
 &&&%)%0%X(J*%.f%2&Z/0)&%jD(&%%&+%kD%(.;&a&(%K,(*l$.&(%%=%j9+%%)&%&lQ)+&%&A&j:.&%%&jO%%%&+%%jJ(&)%
 *lh/%&le&%%)%k4)&&)%F0N+&).%/+&(T3%&o6,%+%%j7<&,%&%&ja+(%%&%,%%j,&(%%%n<&mtN/tzF*c,/)xd%g7h&%&wi5
 )%,%&kvS&%)mi:T&=q>(/6&,D)k8(juC^)X.%4%<*%5jkd,%7&,%&%*m%4nQ%e)jn/,jR.ko**kjqw5%DjEjglS"

/-- Full case conversion of one character from its two tables. -/
def recase (shifts : Array CaseShift) (spellings : Array (Nat × List Nat)) (c : Char) : List Char :=
  match spellings.find? fun entry => entry.1 == c.toNat with
  | some (_, codes) => codes.map Char.ofNat
  | none => [Char.ofNat (CaseShift.apply shifts c.toNat)]

def upperChar (c : Char) : List Char :=
  if c.toNat < 128 then [c.toUpper] else recase upperShifts upperSpellings c

/-- The lower case of a character, taken by itself. -/
def lowerChar (c : Char) : List Char :=
  if c.toNat < 128 then [c.toLower] else recase lowerShifts lowerSpellings c

def titleChar (c : Char) : List Char :=
  if c.toNat < 128 then [c.toUpper] else recase titleShifts titleSpellings c

def isCased (c : Char) : Bool :=
  if c.toNat < 128 then c.isAlpha else CodeRange.contains casedRanges c

/-- Whether the character is skipped when looking for the end of a word. -/
def isCaseIgnorable (c : Char) : Bool :=
  CodeRange.contains caseIgnorableRanges c

/-- Whether the first character that is not skipped has a case. -/
def meetsCased (cs : List Char) : Bool :=
  match cs.dropWhile isCaseIgnorable with
  | c :: _ => isCased c
  | [] => false

/-- The lower case of a character between `before` (nearest first) and `after`: a capital sigma
that ends a word becomes a final sigma. -/
def lowerCharAt (before : List Char) (c : Char) (after : List Char) : List Char :=
  if c == 'Σ' then
    if meetsCased before && !meetsCased after then ['ς'] else ['σ']
  else lowerChar c

/-- Lower case of the characters after `before` (nearest first), behind the reversed result
`done`. -/
def lowerFrom (before done : List Char) : List Char → List Char
  | [] => done.reverse
  | c :: rest => lowerFrom (c :: before) ((lowerCharAt before c rest).reverse ++ done) rest

def lower (cs : List Char) : List Char :=
  lowerFrom [] [] cs

def upper (cs : List Char) : List Char :=
  cs.flatMap upperChar

/-- Title case of the characters after `before` (nearest first), behind the reversed result `done`:
a character after a cased one is lowered. -/
def titleFrom (before done : List Char) : List Char → List Char
  | [] => done.reverse
  | c :: rest =>
    let afterCased := match before with
      | b :: _ => isCased b
      | [] => false
    let cased := if afterCased then lowerCharAt before c rest else titleChar c
    titleFrom (c :: before) (cased.reverse ++ done) rest

/-- Title case of a text: every word begins with a title-case character. -/
def title (cs : List Char) : List Char :=
  titleFrom [] [] cs

/-- The first character in title case and the rest in lower case. -/
def capitalize : List Char → List Char
  | [] => []
  | c :: rest => titleChar c ++ lowerFrom [c] [] rest

end Walkthrough.Text
