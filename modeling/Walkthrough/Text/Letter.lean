import Walkthrough.Text.CodeRange

/-!
# Letters, numbers and word characters

The classes are those of version 14 of the Unicode standard.  Below code 128 each class is given
by its ASCII rule; the tables hold the rest.
-/

namespace Walkthrough.Text

/-- Code ranges of the letters outside ASCII (general categories Lu, Ll, Lt, Lm and Lo). -/
def letterRanges : Array (Nat × Nat) := CodeRange.ofText
 "kN%0%)%*=%E%p()24*,%%%jh*%&&)%%+%%(%%%:%j8%k/.kJ%L&%+Oj+A))SQI&%jH%%5&,&0(&%6%%DCj>1%>G/&)%*<)%/%(
 %=?,1*>%+7Pb](%8%,056).&&&<%,%%()(%6%3&%(4&0%.+)&&<%,%&%&%&E)%%9(6/%(%<%,%&%*(%8%5&=%1.&&&<%,%&%*(
 %D&%(5%7%%+((%)(&%%%&(&(((2<%Z.%(%=%6(%@(&%&&D%).%(%=%0%*(%E&%&5&7/%(%O&%6%*(.(>+*8(>%/%%&,bV%&2,b
 &%%%*%>%%%0%&/%&*%%;)F%g.%JA*jXQ:%6+))(%(&,()32%7L%%*%&Q%n.%)&,%%%)&O%)&G%)&,%%%)&5%a%)&j&K66j;&+(
 rI&7%@*j0+.,8394843%(5ZI%)%j&j>,*&H%%*j*0EWD&*1R)@]=/[j7%jBU7.]D3&0R@JO(0J&/,Q&(O)%+%&(%*kfhm8&+&L
 &+&.%%%%%%%E&[%,%%((%,()&+)3*(%,jY%3%63jJ%)%&0%%(*+%%%%%%)%1&)**)%Z&kn8lH+)(&2L%%*%&_,%6=/,%,%,%,%
 ,%,%,%,j5%p4&P**&)j;+(%j?%)*Q%jC7FV6pantAhjiyaj&T&m/(60&:U6E&j*W/&jL&h*&%%%*>6%(%)%=CZ4Xf+(%%&1B0=
 ?C,UB%6*%00*%O=(%.:=(%(X%%(&&*&%%%>(&1,(2+&+&+/,%,%Q%4+jXCrra2=)Wpm&nO&jOL,2**%%0%3%*%%%&%&%jQGnL8
 h&]N2jY*%k*J@+@1j>(+&+&+&(I2%@%9%&%5&4HjbnhC(WUF3:%.+L0D&J).VkB8J)J)N.Z21%5%,%&%1%5%,%&j&mY/<0.>+%
 P%/j)+&%%R%&(%&=0=/Ej$9%&0<0@j*_+&h%5)%(%CPC(CI.%BA]0<0938jSj.^Y3Y3Jn=P+&j3C0%.<P8T;A=2[a&&%3SF?@J
 C%&%.I(%2V4);%%%I8%?j9,%%%)%5%0,UL.&&&<%,%&%*(%8%2*kB[8):(DV:&%%k]UO)JV:%cQ3%j+AK,k^RjYhE.&%&.%&%>
 5%%%jC.&M6%%%B%0N,%;%1T9%8j.m(/%K7%WDjU,%&%L;%?+%&%F4%n&9kc%j4w2lIl%kmJjF5yElq9qgpo[qW,E7j47D8V6)E
 ;*9sLhjgj0*%j%3h&%%Bnm@.jj(P/ptD)%,%&%mES(7).o+jzGjP*3(/,0nk0j:%j+%&&%&&&)%2%%%,%j$%)&.%,%B%)%*%%(
 ,%n5&?%?%E%?%E%?%E%?%E%?%.js>Ep@S0,6%meD8RjjG,%)%&%5%l&cj(,%jiH)%A%&%%&%%0%)%%%%+%)%%%%%%(%&%%&%%%
 %%%%%%%&%%&)%,%)%)%%%0%7*(%*%7lw$kir5Flrb,lA&myP4oogktVq<jn1mlh"

/-- Code ranges of the characters outside ASCII that are no letters and stand for a number. -/
def numberRanges : Array (Nat × Nat) := CodeRange.ofText
 "kV&*%&(jm10k)0l(0o<0j[0)+jQ0j[0j[0&+jS3jX0.,jL0jM,,9jR0jE0j[0j*:m.0j*0t):vJ(lR0+0<0mN0jg1kI0+0kZ0
 j;0k)0+0y+%(++0l(Y&*t1dj3<rSDjl:%tf%?/4(n8)k.0D.%5F0M5jpm@0kb0md+k>0L0l(0<0j;0o60jil50pLS2a7&n6AJ
 )C%.%k)*l,0wF.?,M/j0*<+kD&&6&Th/Z&D(j0*jM.>.O,n*+V0mHEkB0P)jU,k)Djg0d0k40,:l_0n70j[0nW0jK0jK2oD9j
 B0tQClF0j*0q4;yAjTxnD0j;0k)0%,u8=jlyg:jQ?z)XkiB0oF0jm^/jg0u1c%(%)j1S%5wZ3koa0"

/-- Code ranges of the characters outside ASCII that stand for one digit, raised and circled
digits included. -/
def digitRanges : Array (Nat × Nat) := CodeRange.ofText
 "kV&*%jm60k)0l(0o<0j[0j[0j[0j[0j[0j[0j[0j[0j[0jE0j[0j*0m80j*0t)/zC0L0mN0jg1kI0+0kZ0j;0k)0+0y+%(++0
 x,/1/1/j>%0/%%rS/%/%/jruA0sB0L0l(0<0j;0o60jil50jlW0jm$)tG0mH/pH/10jg0d0k40m80n70j[0nW0jK0jK0oF0jK
 0tQ0lY0j*0yw.0j;0k)0jnv/XkiB0oF0jof0ju.1koc0"

def isLetter (c : Char) : Bool :=
  if c.toNat < 128 then c.isAlpha else CodeRange.contains letterRanges c

/-- A character that stands for one digit. -/
def isDigit (c : Char) : Bool :=
  if c.toNat < 128 then c.isDigit else CodeRange.contains digitRanges c

/-- A character of a word: a letter, a number or an underscore. -/
def isWord (c : Char) : Bool :=
  if c.toNat < 128 then c.isAlphanum || c == '_'
  else CodeRange.contains letterRanges c || CodeRange.contains numberRanges c

/-- A letter or underscore of ASCII, with which a plain name begins. -/
def isNameStart (c : Char) : Bool :=
  c.isAlpha || c == '_'

/-- The digit zero of each decimal digit system; the digits one to nine follow it directly. -/
def decimalZeros : Array Nat := #[
  0x30, 0x660, 0x6f0, 0x7c0, 0x966, 0x9e6, 0xa66, 0xae6, 0xb66, 0xbe6, 0xc66, 0xce6, 0xd66, 0xde6,
  0xe50, 0xed0, 0xf20, 0x1040, 0x1090, 0x17e0, 0x1810, 0x1946, 0x19d0, 0x1a80, 0x1a90, 0x1b50,
  0x1bb0, 0x1c40, 0x1c50, 0xa620, 0xa8d0, 0xa900, 0xa9d0, 0xa9f0, 0xaa50, 0xabf0, 0xff10, 0x104a0,
  0x10d30, 0x11066, 0x110f0, 0x11136, 0x111d0, 0x112f0, 0x11450, 0x114d0, 0x11650, 0x116c0,
  0x11730, 0x118e0, 0x11950, 0x11c50, 0x11d50, 0x11da0, 0x16a60, 0x16ac0, 0x16b50, 0x1d7ce,
  0x1d7d8, 0x1d7e2, 0x1d7ec, 0x1d7f6, 0x1e140, 0x1e2f0, 0x1e950, 0x1fbf0]

/-- The value of a decimal digit of any digit system. -/
def decimalValue? (c : Char) : Option Nat :=
  let code := c.toNat
  if code < 128 then
    if c.isDigit then some (code - 0x30) else none
  else
    (decimalZeros.find? fun base => base ≤ code && code < base + 10).map (code - ·)

end Walkthrough.Text
