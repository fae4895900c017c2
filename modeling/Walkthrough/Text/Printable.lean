import Walkthrough.Text.CodeRange

/-!
# Printable characters

A character is printable unless it is a control, a format character, a separator other than the
space, private or unassigned (version 14 of the Unicode standard).
-/

namespace Walkthrough.Text

/-- Code ranges outside ASCII that are not printable. -/
def unprintableRanges : Array (Nat × Nat) := CodeRange.ofText
 "jgG2%sh&+),%%%:%o,%L&X&(%^.A)+7<%kf%V&c&jJ4c&W&5%B&%%1*E/j/%kE%.&&&<%,%%()&/&&&).%)&%*&?&(%+)&&<%
 ,%&%&%&&%%*)&&((%,)%%,70(%/%(%<%,%&%*&0%(%(&%5)&2,,%(%.&&&<%,%&%*&/&&&(,()&%*&80&%+((%)(&%%%&(&((
 (2)*((%)&%+%4;*3%(%=%6&/%(%),&%(&%&)&0,<%(%=%0%*&/%(%),&+&%)&0%&33%(%Y%(%+)6&@%(%8(>%/%%&,(%)+%%%
 .+0&(2b)CK&%%%*%>%%%=&*%%%+&0&)Fj,%J)M%J%5%3Kl(%%*%&nZ%)&,%%%)&O%)&G%)&,%%%)&5%a%)&j&&F(@+j;&+&r^
 %B(j>,</>/:23%(%&2jC&0+0+4%1+j>,Q*j*0E%2)2)%(P&*1R)@+1(f&j$%C&1+0+4&EWj2(U%jY.d(5(d,Q&1.Q*q4&+&L&
 +&.%%%%%%%E&[%5%4&+%9&(%/7>.U7&&A%3(G5G5k0)s3?1;jra&F%n>*S%%*%&_,&4>/,%,%,%,%,%,%,%,%jeH@%j>2l9@2
 *g%j;&jL*Q%jC%j92U%jpiQ(^/n=:k].l.*&%%%*>c(0+_.j*.2+jY1D(j3%1)G%^/4&0&jL>B0+&+&+/,%,%d)je&0+rra2=
 )W)jvGnqDnO&jOL,2**@%*%%%&%&%jd6o^&],%FP+Y%9%))*%k*)kd(+&+&+&((,%,3&&2%@%9%&%5&4Hjb*()S(j=%3(%UTk
 $C(W5B)J/D*Q*D%K)4PkB&0+J)J)N.Z12%5%,%&%1%5%,%&j&mY/<0.>+%P%/j)+&%%R%&(%&=%j,./V9%&*G(A*%h_):&X%&
 *.%(%C&()0,/,hFM)2/](C&A*@,)2,j5j.^Y3Y,T.0mHE%P%(&&j3N.P<@LB:=/j3)J/f%*3?,0+[%8.M/jE%:18%Rj$,%%%)
 %5%1+c*0+)%.&&&<%,%&%*%0&&&(&%+%*,&,(*k/jA%*Dj,.0kJ]&LHj)10+39b+0]A&5)=k^djIj82.&%&.%&%D%&&2/0j*.
 &T&1Aj,.j83j.m(/%S%40C(F&<%4j.,%&%R(%%&%/.0++%&%K%&%+,0mX?k[%5X3w3jKjT%*1l%kmJjH3yElq9qgpo[qW,E%0
 )j6%0+D&+0j*00%,%;*9sLj@jJj0)a,7h*1&4nm@.jj(P/ptD)%,%&%mES(7).o+jzGjP*3(/,0&)mi>T&=/jYdlY0M&j/.jU
 ;j*k>:2j</?k*j:%j+%&&%&&&)%2%%%,%j$%)&.%,%B%)%*%%(,%n5&mF&sZ5*%5yhElD,%7&,%&%*l8S(4&0)&mdE7b*%jj3
 ,%)%&%5%l&&6Oj1)0)&u*j(j1ekh)%A%&%%&%%0%)%%%%+%)%%%%%%(%&%%&%%%%%%%%%%&%%&)%,%)%)%%%0%7*(%*%7Z&m0
 R)jI25&5%5%K0kR_C3R)/,&4+k>x/*6(3(jY2j>,2)%52)_.0+N.D&&j3n524&*(*(,/C(1*+00+..,/k7%^K0x^kir5Flrb,
 lA&myP4oogktVq<jn1mlhjyikQlSrnt,"

/-- Whether the character can be shown as itself. -/
def isPrintable (c : Char) : Bool :=
  if c.toNat < 128 then ' ' ≤ c && c ≤ '~' else !CodeRange.contains unprintableRanges c

end Walkthrough.Text
