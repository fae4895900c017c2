import Walkthrough.Text.Letter

/-!
# Identifier characters

The characters that may begin and continue an identifier, after the `XID_Start` and
`XID_Continue` properties of the Unicode standard.  Both are close to the letters, so the tables
list the differences.
-/

namespace Walkthrough.Text

/-- Letters that cannot begin an identifier. -/
def startExceptions : Array (Nat × Nat) := CodeRange.ofText
 "vS%ko4%jf%oxh%krk&+o6&jY%%%%%%%%%%%%%%%mA&"

/-- Characters outside ASCII that begin an identifier although they are no letters. -/
def startAdditions : Array (Nat × Nat) := CodeRange.ofText
 "ni:(o4&jxV%;%WI&)ll*%?/4(jpz>0jjvS[p*%.%k)*piRjT"

/-- Characters outside ASCII that continue an identifier and cannot begin one. -/
def continueAdditions : Array (Nat × Nat) := CodeRange.ofText
 "k[%qhjU=%l_*m*S%%%&%&%%j,1VE+%jJ,&+&&%)&0=%DAj@150G//%>)%/%(%*Q(d.P>%G](%8%,0&&07(_%%,&&&(/%0&&04
 %&(_%%*)&&((%:2(%1(_%%.%(%(:&&00+%(_%%,&&&(,(0&&08%c*((%)/%406*^%%,%(%),&1&&07(_%%,%(%),&1&&06)^&
 %,%(%)/%0&&07(j*%)+%%%.+0&&e%%.2.%0j<%%01+&0f&+01%%%%%)&W:%&*1%J/%jI:%02))(%(&,()32%5s[(//w8)B(C&
 D&hF/%&0G(%1k3%j[2)200jg1d*a0%C&1+0<4%6W*U7107/2(D3&0R4V:.0+0j[(%;)%+%&(l(hq^&9%jb3)%(2kt5(k1%jEF
 qH+jN&jpu^0j)%)0F&j5&m2%(%)%=*)%j8&X800+831B.?3R)U4501%00U42%.&&0G(X%%(&&*&%%O**&lO.%&&0znS%t<666
 (&>(kf0K%jC&r:%lE%k9*mG0jl&(%&*)N()%kI&q[).0nR&k=1W)ja([5E1&&0)S1,%S0+(J4%0*&R%2(V4.)%2j72+%kD2*0
 +)^&%,&&&(/%0&&,(*kf8/0)%j6:20l8,&/A&j7750j63.0j85)0lU5kI0j*+%&&)%%%&20j],&,(%B0N,%).%/1T6o5.%.60
 _<%4ja+(%%&%,%%.0V*%&%*.0n))yr$0j;0L*c,?0xL%%^,)j6%1&yvf&mi?T&=q<*(+..&,D)k8(jlZXpa^)X.%4%<*%5jkd
 ,%7&,%&%*m%,/0nE%e4jmh,jR,*0mj30kjpmVlS"

def isIdentifierStart (c : Char) : Bool :=
  if c.toNat < 128 then c.isAlpha || c == '_'
  else
    CodeRange.contains startAdditions c ||
      (CodeRange.contains letterRanges c && !CodeRange.contains startExceptions c)

def isIdentifierPart (c : Char) : Bool :=
  if c.toNat < 128 then c.isAlphanum || c == '_'
  else isIdentifierStart c || CodeRange.contains continueAdditions c

end Walkthrough.Text
