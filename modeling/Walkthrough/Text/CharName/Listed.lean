/-!
# The list of names

The names of all characters that are called neither by their code nor by their sounds, in the order
of their codes (version 14 of the Unicode standard), as digits.
-/

namespace Walkthrough.Text

/-- How many names there are. -/
def listedNameCount : Nat := 32647

def nameDigits : String :=
 "$_K5ljMVi@k0FCy><)=|v/Gz*1F8,^quUIFT9OsPwpGkNVFB+suU%^xh<dj|9khU_@2&z;V)O]qz4GnD1Td7tEq,Lw6Ix%jj6MYRZgk&i^ie<6^4vRg]$JE5|RuA&(j/|FSUO6$.JR+e&/~o5@=Amy@=Re^$sJJ?%*Z,vf>C+jm..P@w.F=FUj_=v%qU9mTMn,t<BYNyHmM.~kN;^cQ1[3fY1pseUwz?vk8@aXjzG3=^]Q+a^+9zmaqKqj3:r>C4z/Ct?s<nC<j<w^I=God:W/n|)|T+?ifKCS(JlpS5|UN$BCaDxp2nF?=AQO,$fHBEwXMHk3R3M3O_q733&ORH2GxNMEUpa@w&op38S3K<IO<+E$D?z0eLRLQkVylq=9Wa*&F]*JS^$99H@HaI]OG&fD>Wp)(Z;~DOAV(>5@4&&&_$^UMA]sE$(S,8@$YQ(nHa;(6l>3h5;*rc[zh)J[8,bqzzwRjytNishLIAE35Exy+w1yb2Ek
 4[WSnMLUocj69$DHt)]vjms)3XO7Evl=H[x=01BKlVmRsI_)T_xs+]<y>$.ohWC@f3j*>B.rNARhr^[QN_|h3/$E8c^YgTvuBf5w|zmGcsmoZ&Rto|vN57DUQ~s)(Ie&0B:ei:)<qnquTHFt4x$T:_<w8jRQh_sId_Z[c*HHxYU~2dv$yNp)I>V(9^)*EcVGxJQ+vKAd>a%SWr.06M8)YO$^n^uJh5;vyDPOeHjwP/_^+zVI8n.Q;CP&oXwAx4fBYcz)LS_VF28S12N?z&5BU:;3t_41OzLK^p[b58MLejr0_bfypm7(IX5peyWov1MpEF4Je<xTVhY$I_2DHXtCqV_HYM[WC0r%6KI6&8G3p8V0R10oA@nUhGQF+dSl2Fl<3EkNLav/~:(9w&bbbkfr9~V6<.L==?KKbG>u&C78J<h@[=2BR|/52Gc<$CD*$Yn]@Yp(COx0%.CEdTgydsAFpcX1%Amfc%&5L7m<|G7Bz[Q(]4?<B+
 ;X$e51tRJZE,p1Vyb<GqT]t%fVsBe5G8>wG*Y]GJ^%YNmNEzJ?NbWHtyHa+Gf8W~mY9FJSk6_9Xe1ybbE5_WLaW;MuUQ[Tvqe<uU*3CR_dLhWHwv3Xt0>o6U]?:u+gs%mYdm;IF2p_ZURcb7_4pH>j^upiu^_L+==Q+zJiR$olr3p?5go>ndJ8boKS:*m&UZi|E1@@:(~kqSaomj:O<fLSQM5n>5Z~[[@dJA.61L+[QtHa&;D@TX[d:nhfGWT&b=_3PZGF@eC[1gUS>%<lpE33G=dhZtOKPTOm$[DKl**A/gU4/u:dPuQhWeII^_<F6&0<4mlGvoAO21ZPx6Lo.=oH+a$onbeLsUAP*icYYf8nQAZZ[b)0UN;MmLbyT4pkE$0v[/Atj8wM5?&NDLvD?q=34l(7QY)ToQh,<Fxn2oqCgBGJ1jW&3d(sf*>>a[1BYn6)I_7r3_3[z[NP3pyOQEDaxgX@zsP_fwinNy*m~e_92:E7>%<V
 ^m7Jx_+v64[i</Yy]QC0[~7cjv29t7<*t|Bpv4PI*ffbfsd.W8vMY~B~d3E@7NtubxJ~@cE:&7XOvw6]gdATX/H5M%1wlr;g|H1MKYn)v;0t9G8IZ|_Jxard]>,H0L?(F^IX%(Z(n;zZ<mlL<&49H_?r?lT6u3H3gp$/m;8aWg/n)vF,$.=$q8=N4^20.*Y9O]uibd&_kahupaCI2_uA$hoM=SwaGX(h]C7+IEBGX1cRz@l+Kg9lb8<|m+o^e+HrNg?Wka^w.]CxqhWM,wgwWy+h3A2FxgE^~j3P9EN2go6hKj+JkJSqH*(PcFQQgypO^E0ESV6jm3$H7]B7L*SH(za@d8OfcdtOgcC.3inD?Bg5~(3%Nomof6sMHeNdhEvvLp;ZmX0z:]m6jC2~iJ1^@9A4A^1;~l=VZ/~zPjQDmRSW,fOs@|=$2^r(Y^UA?zfaRrAb)Lv%X7y6ydW@e>Ff&ZV0B[DWwi_/rmR~==<Skh9Y<UStyJ
 [kC_PL.W0L_5<__@0y9Nx45+,DPr1]b>ThyTgpD7qQ<72FHc6TRLTkDRk)CXsK.3.niCGjEtCsBPn8MX.lyfsP[uZdVGqZdHjN_b8b=$x?d.|T%U(,>PcH$[zg,E9.PW0<f%,,]=y@l%ioE*2CSrMY+Dqjr(=:XoJ&rAJ6cl=o2fV:Klkkor>]n;K)E3~g.>U25tNUF%e7|;P?VKU6.DL02H+vCy6Yi(_3SM,9g&RmINo+@%I>nU|~2FodK(9Qy_UfWD2A,sU/$7ev%yp:Kfcw_QiJvad+u/R]G<oAtM.5nich(%|xFs$WM+@v1]6Xn$1dem6l1N/_:a0Cp^k+fu1L$u6eF>P;09DC~oG,Bv*TE65ElrpHQ9tIZGCgwV;)Z8Ew?I&B3NYW(,M>$aXFA$+7f8Ver?;91(:vGS_J)nYf5Agq5Q7>(??rpEqFU0%x0S;ws|0;Db/e5+LM)]Pw*cJl;A$c5~Z.f*s*zbAPl1CM]gbIc$eW
 ZY<jm>+%c^@lAJ4_,2gImc>_L*BK~KxKN@S=Bgvy~8jxc/Xww>Q?ayQeb>b|z_fM+)^k*(Y4CZe|_[i(?]^ey_xG7/&1Eb:9KTIU6]*3YFJT/Le[qEJ2,OHJ~[0r^l>txnh;)Mmv3.I$;(O0roH@J*P]>[eWV|4HY5&H%uH?7H:tYl7;]Mh5fMRhjPU,|65mm4feQvM9:L+L2aJCn)~n0ret6|E/CAGevZ1Q*EHQ:][Oj.pp6+ILbqxMy?63nhpcmF%,.3[n%>,GQo_j3JRP+p$d+df<.LqX)3dOyRBA<lu;VyBwzn1xkiE8[i54t5K>_]U$@jda>XrP.VBqrR,aJ1F[iJ(RrtCZ5j%mI^z5s)na1B)zCZok&vbU6Gs>gt4fdY3uYRsm;IkrZ:P4*LJH^lWCQnG:(M.k;a2;i02ss[rxNoTO2sGX>4doC1+.%(6B4(ii(M$N)I6Xu$8/Wpi2*m+h9:kAh>1U>Efp7jBlXEue.M|NO+
 %q4C_rzS4^(1@@M06;18BD2ty=kO5?[cqd.%4IT4Z=c3p_V.i8J<=zU<?ht(^ljphh<_[_u:H<$@s<K1TJlJv);~7z8p<xk]X9n0w3L(zl5YL%)G.)^YEv,dcqU*D56,.q;P(alzHjTBe~_+pTJtQlnPz+?I=^.>BfWAJ@kxcgf3Nxe1&Wx[e(g%pTiYcE0Iu4ZwZkQGEDrnW%|cWyk[,YjjQ>VllE]LR@V(ILE48JATH*Nu2dPad9,%pnJ6t[/R]_uhHTN1[E;GLIMG9Pd6nqg2Uc]%0^M+Oi>A,KD*UrO%=uSrj@Wxe9E~f7_@*JoH7AG^~vT)Q?l@xC$Pn<%TDH,CC_L?ysS(mimBWUme|AmKW?;JX9zn>AB:lSW$4pBHu^GawKjNC=XSu9~_&LKOn@TVdh%<;&;B3>G$6o<A86^WGf7q3Mg?1KfuPPza.riFuiX$_($(wv~]4&|6WWD3zvM[J>sOi0/]6[(~nZ<L/h:f:SI:cW
 F=rTJRQgKDCyUE<@DhDj874b1V6VNN$CjeYho%1[_E|l;HoiI>2FVq4)W<X,F$Nf<XJ9oXZrlStBj:6OP>lA/Ja)c,S4Kzx=@FQfwtR78L8&B)Z9^nT*)E>J%=Fd:F+xBdzBG]8W<q2Ud(asjro)]SNnt75*J3?nt>Ni;MR@&c16KV)>[8h|33DMZ1^88P|XjoybH%4NmO,RxM+&%9)@wMJ%r=Q*/cv7Q0Y/7v,Bdp)Wg,J50mw44yp<dLO9:;Kq^V<&mR097/%Czvac_Z[vm15,X:HPB4%Gc&pJBZ8.DFI<gK%133Vz3S(54rxZ>fE1m~z5pR9?S@_nO&M;(rX>I[CW.ik/.P3Fg|jGi=1M]m>/g5VZHub_,SJaaE%rSZDUVepm(CID56v/LrgDC/b,I=xQ?l:boHcZqI|6=;8NWdfHU9_eX0uMrcLwAgyK|dz=[@pk4$BF~Si936UEGP/O?t|X9/Cq.juEuHBZ)GWWfg=S[RFgIe
 ipNOdG.Xhi%DkJf+GFmB@/zR1o(K5,f)$3krTLTJF=V>C69wQ)U.>TBn[hiCO3*:PlcI*y0_V)yQH5a1+*XH?y~*F_kT_;W@TSZ,jyC9gkiFaRAuaD&OMQjehOs0dFB|=sStM$h?b8/y&2nYx^df?UC|?b5VQ4+5cX1IBSEVo<<7^NQ~5gLHW$sh2TdIr3UkUCZ~qye/|~|;s:te;;R:+^~)&l|k0JE5g?/%w;w;EGGmc>[,ZQ@mc[EZCo@&JEF[a)BU3UNaM+;$adN9qPwMJhYzvaCW&T27ZIfiTYdLzqC*N_^KC)7Lf+f.mMQ|RNp|mrqncEE?3ihOAaIB96|T/%|_,/q]L0Sm8xlzY|74uS3cP=]HdO>UJUMb&k[n%0G[Nm+%F&*pFCP*1>AoV~~B|*0[.p:Q8s<:=<I)TA8h,Zm[qZ*H)S:1([XlQUX<Z_bme(C:wl*enSy&1e6Z>9<6>k%7i7O)oD^+?k0uVTY<,2]K@qz]&|
 w)7D:p<,uKDuTkUSupd&Fh?CqP7YUa?G$^VxtoUxp,T|TcmIoiBqw.DEoW7Cm?BQ:E2:IH5Mkx;_KffmC9)CKp9(XzHs>.C+8z2HHhEV1(kLuTvu6IC.na&5n&6LL*L+u&UD30mzK:AwvGDc2RPq;[e0_@9u,JSlSqsiI8Y)mUJwY<vMYhm]eX5G(VUsPYVVww=3wSu:FpV)fx?w,w,4&wB93ZKxVhr6nGemcO[U18wcG&t~P^:r~z*w<V%[_$m%=;vo>PdHX<L&8bgEREfE<s.,R22m<cwjmYM7HTN/k276d$KJJt6s5HmO==&iP9=WUf?MlXl@80r)fNeyu7*sAE=cCN/3OUoo&[e_EMbF3|p;Xs:?HB=z[sBZqI]MgbBXQ5&u^+1@0?P1%dj9(+/k92jVuS$Y,<|l/[;*EIEpiaH$y06X<z_IOVxczYltjm/$JSDi2fGDX*/;1TdOuZYAK5)^03$j0LjYxHBf7@GMhZl3YU|w&7
 [bc[lRZrQlA+o;UozZQuaLHg8sQDR]6:Xs?1(OG:Z]6]Hrh)@K)PzEl:d+^>GvByYiLK+8b05f$]WciyTK^YUt.8Is(L8|L&pGX34*Q|SB,[2N8kC%P$6su/gn*lsrRdd]|UuexZ2s,?6d2AMF/J_]_aFEN>@+)$fLcp0d>@];.IlK=RZmmiL.%qmI=ddn/un,>xx/YcA,VYbuNC3PdmZ(y&00fnH@:uYVOp>f2(.<oXhs~[EI7cPn<CV^ox,sPDvck5=nNU?.*/QkJoaIa&@&kcSfCZ^/Yf.Swv,<AC1,V^&LAvJlQ?WYhfBP3_.KWT(5Z[6ulBQKGsMGUlu_fN)peqBg>(,2g%L6mBF>+;D5+T8Ljt>K(5MtS/yRY$(,PsF3~&^2(vXHjUBfQ,5fp[ZGkX6F&<j>2c=ZmuKFG<J?YoIS]yI9P|T6~2L%6UPJT(X:E9?5]FgbLElN2vhWGgI%lr2J@L)&<|N5b[&S2Ic%.<E,~JI^
 x,:_x>a<x[/L:Bk6^_45$j^%X/*C9R3S8r2qo$Te0MbxU3s7q6X4RN$O5o5Hyh&_cvze2%[o4@PC<5wKn:Fg:O~ua=ABU1/T=ZEZ)~Eb_4GVWH3E2+g2R@z2*oP,u?7IX|@FLl(6]:G=KvZWxD:@%I<+QTxP.V..$>2V[,YJ3QcO/9t&@7B8ON^51|Lw8@uUTS~PNO0/fZy_3,HjXsH5bPZDu/i9.W$:giVr/>kQ6o54yKBix[4e)1b+?2Ste9HUe,9b?]D.@i3().7u5~oFgD6wl1/MX;DGa%&8kX7tnuw;P5PMc6z3HsoBjw,YD$2$p+pDNuT(&R3s>%[Na+=mZw32T@ePM]9bstPX=6Pib|sCeGP3vZVK09~2m4EV.Cd?gYl,)J)8CiNzHCn.]k&|A>M[Gj3==UbD[3_BYFr*|T$CEi6Fr<9.qWK35O4cfE8~J6S=<<J2mvi~muiSuj<Gu35h/@pf>=RTS%0J[U[a7?na|BS$ch
 sy62uP=,MP+n>Z8(Y3O/sAebY]q;yR5^uj|/e+QzbrJq|I%@S1Z~J8,3F5*nWI]MqMgPd=R]QsoJvk+K54F<^M):@$>xbX_gB|6D7~Q*XRK&Mt1OUnNB3O<<K(U.tIV_oH%9(oD6U=$_R@(su,ft<1DN>9]mP*9Q;sOmJER^)dRB_w.<M6J[Nk[5Fd0%PVUVPqY^,rZxQ.L</y[lq90@G;glS:z1:3/9o$OF)r>v(+|<Yi+CIvHYia9cH0t@Evtk0JJ~JCtMh^B@*44ar$%nqGW,7>$U@~gG:UK7/|?01=.o&1rX3IpVwdVFxVg*(w$b3cqO*hYXg6VQpSwZaVLGZBMV_x?lSt^a?OOf9]klt*a?YQxS@Z(C4zoNy>tWApJ4stzT7E>.]A1~(1qbv^|R3[*XbygplKkI47Uk)kpRn_hI/REEzrvK|[9yEW~CDx1j<P_=|)q$m.7xiMUiJ>E$7<DQK?PmOUNP,XLBb(&1;T_Zj]]&Wj
 x<_%d(Nd]:J<VVHyC=DzmwuK0@AV/N&$pWKOZIr<UZ0eS.GU,*gTOh^>:W*+LH](;4kUb25DdTYtN.y..qKk[KwDAh^AdJloGL2pZX8Te</[~S2hMQmX%2tM.O.|(bYD^<T?S6pJ,J[M0(O)J:6:W)mt)/d]F$,4umwwgvHLOHu;jx8Md;7y[EHKBM2wV2,V^Mf~].Kp$HYd6:H/sBP&P|/ww5,5f>h1H)r*^>npxG]or5bf>_.qP^LKq=T6MlL/[aO)w_BBaQIKIu~pqwbLxaSzl+~ttyJrM^h;P;gLl<,0y[tVefF(fS^qs@1&ZntIr~</<l3zL%tn~ywWUri]Qk37^_mWE.uB@u;4+^uvqAM5X]L)_sCw*WDRh/T5l)Sl<w(sDei6yFnii)Qmub[IYKc3W0<][FxzWev3M+DWo|7?(ACtpH~<npZY;dN6S9cJLPdWLKB)@YW^YmU<zK.peY&EK]=jOnrRwM^riKxjAvUkd6wP>&
 NyoySH$)Vi:o/<3DbnYPT9>T.;0,lv()LW(Anr1*sVsFdw0%V6q*w3n__m1J,DY:Ydo7QerOwS_lG4@li=r1:~SEf?B*dw*mJt~AJ/Yqj[@+uYo|A1w$1jdWS=S&/Hg1PL.qu,z|QNTEe27r<UXo4,[CJwWf=cztBh7_k7J,V/%nB]aYMzG6AfTO_U4qjUQWhHlFSMj5+.d_,9uT7j@x,t6WUoSHcsF0U2@=]4>oC]wnaAYnaG.t;BoeP=A.Wd3<.07U@XF2v43pB)&*RjdvC/*bfWz14SABV$4T]DSM+FPEltDNqn=shr47dVf90[g*hz>NP~_vH>t?Oo$LNX~/_$T21^39ccYNe^+<&Zwn3rch3;Z4,]I[kKk%U^|4@((Wbk5p~LsUTAHPztF.pWG~,qWqyB_R@8:qKL,w7M9X;/C%e1CYL?Y%K5euKE5aj27sm6[@=[?n]XrAZ4q_ZQ+,Ms>~1CUzjiBismbX_K;:hHe;X24c0&
 inCgi]Bx.Du;@i[pxg1I$vI8x/wBf,8Te5,;nK0>fea3zYw;=VNWGVj?A+A>@RIjuAAamE5cHUOw6MJ4lf?.2Lg4s^3.$%/Z]w+|LtE[_I[;HouJgKGFF0:sGfmu,y,LUx4paVE]SCcPj~*%<,p]lppN@70xI:/@G0rUmJ$|4XhSOV[kB$~NoNn>wTJg6lwM?|wyLpvF9*y)A>vyK5tU$4>w*XC9_=0uf5imfZ$>5v]S=n2&3kFZl=ODbus4;YPH5uP(:TeY7tV]nOO0@RwDi8js75mWoOsV=m:<KuYEZc0Dn4.>Vk%5BI@8GNWZJGjMx:x[5@15Z[Cf=lvlrzbwprR<5$JfTG(6;Z$)+6O$w3(nZ*@/v4::3Ja.nR:578Z2$Hvzt%eVJD<c4L_bxm>v,?@$|24BgY)N;WLJmZ77(uBvJmjjLGQt[=6tE65ayVY=ICh<3C10rzEP.As55FG||d^O;QDW$zL.aXA8cWzV[QCRamzyzA
 prqnvxqCi<r2j]PT_8G_NaB._Y<jab74:KwvI;.TJYvD(f|^Fq+VP2seLD5j1wCMuFOY4W7=75d|sPYX&JgW4RnH.yiC/WJ)tTr+jZouCU*mQ($;p$hO2dvBZ:206[95gzy0Q&qLg<RW17zWqCV_/tp,3vQNDe3IB;_*aW%(qyvwk=;1c.hIk58WJn9R=Yur)?T8FpzgA@3CwR_%CG*AV@q^.Iz6I?X>71r3$X);FZPd=YM0oKV45sh%^)|X(<^9lj[D[$FlCrWs8|S|O3H|CpW(HWkLCPL7(x6rN7o,KI&olJ&r:+@ch87XGg*D5U+Mn>3TfR^dDT/6vyb)s1Y,6dPzn8RB0YLQ3)ugz/&:_5lXNn;y$t8=J,wzzoR*FUZ:P$acsaEerJV<8<Bm7jf],?mtAD:)gBN7RgUhL3P>kzSZ6rK;rTd?:C_T]>q|M~$gNSbH:AgS,H8(MFpV3j<(M[l/m||]j<kJnB8/Yh%*leun>Vl:+7
 n&gbPgT<zFh/ZgPo?T.6hy7G6Qfv<ZNKs3q~W=Ekj7b.pRchI7d_b20>M35c]5=f<AG|CraQys93X0]+&;<JVupt6_K5de>$ZXxKv2qmzNNI@*(S(Z>8)]UnU=Uk9hybEi&+fDO@=?BG,,FJFvhs8DER(4C~OPm,MA^5qi618R~^7FJ,69=8)DyR%r$8NbJpYu4nX0|N@Ex&D(Cbn|ut:]z<ApxrRht)Fwg<H+xJT.N;H6f(,|qk/tYGL8jYSs452BaOfX;LdONx2r*8Qbo7%?z:&nXR%e4O0Qt4y7gqy^,&k[A%1~wYHvV8vpxd2Z/KjTDZ94K+_0q:GKS.w^xsJxY=1E@TObJ@wyae|(W$FRPorJ(pd1q,i2G2x[Y,PeW[p./E>:SE=$@dVI_2$jWtIUOA=q2O[XAXbci4DKgO7;kV>YZ|I.4nFP$%3JuDOOtbbwCyu<OcmQj:J5^]]HLhe$LZiZTgEkhwFUkfuiWoSH,zjLvp<U
 Ii&4nQx$xgRXSadE(d6,I4x.$LCCz0A2S+LN&wjZV$xORXhtOjT.j<XT84+<5U1]SwD~sXJTD8,+fWa_sEULn+M_HQow|GG?|S[&Gf@*IUCcR+Vrlam.?7&*&LM:|Q=ySgHed+lKA>t(RDy<Fe<xVx2;tC&l8BsVh^TlU$OdP,We6?[|rL1xj1[|L2:VLMB,eC=ytYpWaokDSe6)MpUE2u;J31oz=0Mx2pG%5hV5v.leDzM((Iqy>lhQN?5K?H7JU8r.<YjV^zm:y<+h=ct<l?K=ifau_.s6~JkN*3Idu4CD).VOi9eJ8;xip4cYTXM<~v8+P@TT5W>)fs8|CNXGJApWW/Z]3(JAT<)ehSw/uQEXvd_aK2]/vK0^_lsn+V~J%Jun<nSXebtBQnrx@WJ1w?u*jU|CRgz2Kv_7^DRUek3:&<cxy9eCh(yZ>)RQ2aHy8y=4Oj*xQL5L9pu7K,Q*qehAQ0aZA*s]NH)RqMpq$lPr0qmgjB
 ub_~*l8_las34DXynQCUK[NR^ox<N.KqeGK7~dV+Duh_8wht4b.6@Y^I7;(XaA:zhEBioRnJ&wJgW=%,t9=gyr25SjS^JM?E.X/Eu]9k<izrpa+A=@95(>7<jX$>Q]iAs*oyTXzswNf_S$5SkO6gEazrXH>GzpnFivCt,c?7m@^9tsSmpC~=i+dgKq7g,PTCYlR@NJ+tDn=[nC&0%Mu9oaaX01kIRPZuslcoY$^hTm6sbYW7bTtkD.0fkeYLQ2=Tsh1R>WQ&Xa>V7D8Uqz60P+1lXiF+hm:%>IJzHi+1zzDZ2t+5ogKcqkofSuIf7.wH.Y>b0_:/i5y(3|X>n3P;K*uqc4^AzT2lEbnufz,(PavD(XzVNwHpFy$N;|26cxk;fvdT1v;?@cA8|bhy5ZTj4D(/+)LkL^ng97,ycL)w>]R:E.VPQSLjDc7_dttpQsSW4aU[)]Xq3H_dkZ7U]xkg0N^$o=_l<:;R=y.yX?L/<;O4Ou*E56
 $287QW+Y~R7&vs$pzba|W8&VzAWrp8g]HeTS<U%_iAJRxfol|ew.HLX|jwCvS=>]M;Y,]X28ZfesIx:d@K3:%)db*Sw|35hzG^jZfSv$<NZiM2I%SL+P(&Fxr|3upyM*]&GU,YtKAl?$)JK4r,KhtS[DkdJrgo//D|DkY1fGFk$Bh+^qJnz0^Q&^p?f:lR]dmcarq$i6mBq]hYEFVsM~cEb_GVkIm.k6)lLS1YoKuxY;v$s*pH+q4fpJ~r[pa/+;vfU797YT<kuFe1/S>Yl^~:MY5>@7=r,w72yCjxN*jiI^~QB;Zbn5k0FSl[US_,GHGkWHb~=Cu/>ra5jo;*R8:2(9JSkE[K_@Z2jAe&^rDo?kd4&0A(>.KmcZ^1=srSiD&26e<ew_S2[mD_,w<9;9QfvJ6exC@.f,6TQE:NB~y/V0)_J&CIs(AHp+l$0VRk5W*S%04*EHOJ$s:+(+x(0.wnuukNu&p,gHo@l66I7~YP$g5T3PC2
 Eh+e_|J6IdFhq(OH0_Jc?|&EG9uj,~p7V?99FQyh6:8PxR|V,4fC3V0sYZCiQQk.A<Bt9cN&[yiJnc:vwOYND?VOrCmTs~Sp)aW;AJ);?wC5Uj4,Na=rR&PKJL_8qJc6]C<eQZk~4G]oS<>8?jFpkR0nMu)(Zh=[3Lw/[&m;n>i_.$8PBKGV>4kwVVYeN;GhOcr]/%/zw5K*&]f|I5t_Y^etJcuqIJsc<_(B7au.m8e48YZGevRlD*bSZ3;b@3ALO+,_3?1Ad:X>1EVgQ@/OQbWOd++?XM;(Ps</9HS=l/JK49TYcITMV_KCzfE(Kto<^a,2>vZH7.UNNAg>?)G.|@u|UjwmpQ5ag0o*B=/x@l,ShDF,MDM$Iv$Ni,a5;E:8;[8FQUxek+Hfi>_6CgXAO^0Z9(&tAAgQ9wLK8B(~unNA4)cIOdSlD9H|C3o?.=;gM~+]%QsZVuo_Ws;vyDXCDm.^+ZIf?,_vQ)MJ>QwU>BW^vMmQIc
 xMw>X*J0vSZR^?Di*JPAno^_7aMaU]x$^xKZNk6SP*+wq=_;Qdw+=&P[Q%RU|ASY~s.WVNta]Li9*N*vSm:3CVVRe>K,cHQ/S5+sHZaZ2PU:&Icd_RvQ,hts8x|XBHj*%t,.k9u_</TfaKD(9e~:l_Ws7M*<;]<l@s@v6^ac[Hn%YlnFQ70Bw_$C@r;ONzZG?W_kG>r6Ar*S,:fpjvuz%/baGg|@k9=Umx4Ahal]]|l=JmskKnOpqtWkdTb0@w(,YSYzUG@13vB=B>:IBA@%gLJ3l0Slgp<*qE]4.cGB*AS:Pai2St[BTTyOkXx|RLID<|0Z;Ayc/0y/tBBIY%rn+Wi5[(kac:$?rjX&9)Va&zoWNk+7E8%aj^K9ouA$mo;=>kHValPDB+.^JW$w]8.x_<ee6O(86&jHjp_,Wa?2k>5IpE<,Dpw*jaeL;oGO2xr_X3,aG>mp9>p|@=[a]+wKa5GwpIO0(b:nD>Ln1QRXiYx2:9DlRo
 K=:jPExkssZ~W%DPKCnW;qYpSS]3Nd~pvA,Da(0:Przj:Nd[lTM)(Uj3ye,9a)i0L>,10~t?lktV.,@WK~63&^gO%c.$3i0@PWP)Als=rd,AA44(|uKa&hPusJA0NrI0+e?NWp]i8R.:qwW$kGxdZ85nDDin8KN:ci>.92gVC/]^afn*s3:SIct5PEd,4W=@)SR?AmYI*N4xw9n|MW1)ns$B/C:^OVJ/z$rGUrqsK(xwCpdv2W*G>E*X%yc@N^MSNHE(ni)?qb_L.HxxNC_^1lNJ[[mwwU:<_Vn>lrpaY=d]_].NdnBOdX0,z@fxIDuF:0~Wgl)pr1L$c([K^2]4aTbt(=h|wP9ALs6.0dDhh=O=A$/[%1LK2]@L[G5%rO5%6dMZQanju<cVp]tZ6Rwa@.Oty]Nl2vt@C=B?]c?g?Od([hPlRYSk:^4^G4UVwE1bdA]/sO<qN>^?o1cxsTC7vHZZn5.2,_rBci(]~Bln?fk+kp>Iha
 g=~PE]o^uvTJC:,jf~LGAAZ:rVA=9QDnQpFcW?j;rI?O>$.N[~(L0J3*e,hqKT/LZetM[p<TeLk85H*p8aD4w@JwZRWf~R:9I=&VP91e@@ljDHMR/jfvYunK5xD0qFk>Cy?kdB%UA6d[WRjGeh1;(YCpAs|rIw4W8h^eV8AadD3jZGg4egfia7Da]Yj@7YB(Ll7j[lN.XAhN$g$$B6+B,cP5~;HnC_Icp.r>lv5gCAibkb1I2Ff.diy$UNC=V*KlEBV?.VIn~rc9SJW&S,SwS</VNUCSU5|[qvl&fovA7=^+bN2>52~|47b/H8w[[Tv/HD*L~4zWxhH=+nErDa>a+80L<v?z~y2V[Ud*X0%YuwuiRtz22WEV:=n=BQ[+@Bv5[+9la)2Rr&^=($(s70dtUcN(Hg7Cxp>tUv9aMxf%Q/fCUYdqBvBWbAa[oZFN@PdD>U@Ky*?NQ@+2A$9xgB)=G/CaI5r2/F>&yh@XR[8MtL.Bz6GLsK
 aC[|L2=w>uucaPz~M*:OXdal~xC@*HWOt1OnJp^b9<r^@Qp1^Z;=$g^~O?T>~a/<:q]MU_8G=JDxJkV>Z>(W^f;YMAL9fcCIO8*[lb8)oQl[*:h%r<uq^*sO9_K17Bz^E1rwV34Ad[ShS:0=/zF]TDm?ULBDxRdYDbUmAzMQFn<QunKN(ATWhR]s(@XTU:249fbxy>%y&zO>ht&EgM1B|;h=G+C8jKeL)9Ij9SCp_JT4,;e+^~C%MLpjMIAU37?T>DmdK17NjVk:W+7Gu7]7W>2lZ^<e3mBURR@)zzgXcmPAR^SHi:~pGSm&%L:9Wa,2sN,5bv8ux?B~c5niIY[~H6QZ~1DWK8K%7As8^FR8n.dnPSWeeEf+wY3<_wLd5As3.H6<ykAyI7]G>w?Pv.nPYUgYqE9c$LfY~AA6t6+?;MWV,,68OpVkyGPKULs[mQUw9YTZNU[3ZrS9%pW8$,H7&J[FcOg)yyr6UV%QWRr/f]+Y3OC*)J
 |zUkyjPzoa%XbMx=(%R/2(g9PM~IHFW|Lw_GH<$d|K<PkzX0Au:1pxy.o<iQ<2)2XjA(dp1nDLmB]tNBxCJz334L^KK:n0pTmvHTa*d6qycFomAeJ5KM,@^|G6KrL_~nULFtps(D1(9d%k@^<m*sc0cPtEO>s5R(@xLxVBmetMOSV1]^;*jb>]]>S;wyZ+ax/5Gbk;4^VI^jBCGA,8khd,[(//^<dl%CuV@gKNj:VG.9D,aB5@LA|],ok2qf)yKcjkpiqr.[:jq+O79zo?k6:o;kJDtkWCetXcq&ZTI+Z<I]Y+^.7Il]_=a?UJrfS1Mlh|R<u/LG=(p,[rLQ,r&YWV1?@*[ZQrmf=eUlGuqfL>)8(YJftt%<mzq+>z0*lT0(_Ec^v*xiec4j9xup:.C8=;YBlwvLkvl5VC%k?4k8vF.E,<&T22j%/r1mRWI7]$[d0>V6)32bwgcSNV?>vqnd%XY$LJCRa~Bhm3/;yMUatvbDDfb=++
 ,m[2$T*.;(qE.LI+S^@rBDL:N3FElKcH@GyS*S7A7Kbm9cUF98^Ko?(R$L7KOF6X5<k.H^JMe*KSK2kezH>WHrc>y~o%?[<tN<1d;h2R0NU.t+@~kL&hh&S==Yy/_YU:2YXveOaXp%E?stww%T60DNhEn5,qeyh/s:7SfcQ0A6USL;dni,8;mIO)%.)/u_x6TL848~oRHQLR7JzU2/?.U9RRp7t)GxI9hjBv||Q47L=?8U?Z,dpcywvYLp$CCj[d;h@E~R:F:,tki[:tW[DragUtEhSPJGaL.aKHii3vNR1rSBb;y|G|I|gSTnZBaN9lU03Pa2E)8$&+nv9%%)dWj,8*Bm0MNv9O<Jx.J8FKkoi0?/zFu7l:7*D^2E|zaAT0>.=2|JPycl;l>A;QA&_G&6|@f8Tpauv+@7.:y_Yluz<Mba,Q*FSBlh$w7RVGRy)M<@YNbntSuh&R[fe~Uhb.AE+zqHVB%=XcWQaWb01k|7vHXIr&?[
 HBlM$?0y@]Jh0zR,UM^h1Kwx:bt,oy<(.Fps^ykADEb|x.2oy%pPdy,1O6cY%&hptQn,6~6V?)+M6tIA^P>3$n()(a~YBC5E)B2v(B5z1bRd]*H^h1vz;@*2$6K[@q+c85nJnwds)4U/2Z_%./0LRJ;5c;P?<BH17)Y7?(34fF4?JvbG8^U^mV^qBPb)5J^UNv1v18L1=idy7G6ILSWy=w]ky~E1)bdI4JqmiI<TQiTBrFN4c/vsa),LnufZ/eak1QHI~$D27m6/N[5+7In)7xpJYXd6Tnq3nNAPBDfnhRQ,iP*wp;%J?Z=,KZR~el<NpS;KR4i^7N4Me:r_)?sa5Z*05^8IFV6P|R.vYzpi@26,5?^n[?|xObV6[oJPAb+cVunRA]6c_gb_r4l:A4/o~J7mf?<DF~;H3]VxD(H9OGVDMgi~R3Lx]w_T,8qr0rdYoi$+g0)?lfK+mojmOsP>+Vh(2a9z%jLOpC$JOR/eU7Ra87%a:S
 ,*MCyHP2UE&$guikY91[7(m2v?PH=h/v9:(A:>&9Bdll*IdB5xHq1j]|&Kt%A4F$BkjBMeY=1ome~/|)=:/ByG&6yW=;fWfb^KxlG]iQFxbXDZc=slr|0Y=xvLcn@Ho/sm^BVeb:b,:3ba|wHt7=vxI:DhrP;nv<TJPajwQ75UsCs[Y7@Wgon;E=xU4USw@+?=uBszIqV_=L@mKFYb8rMRPvQZ8N1<3uOYZ(NTQ?4iGTMGaRw5ZAE;>?lYW_Pct8ErPDKcdlG7Q5I|;,Rf3D0,|X)%&Wl7$f2y:VR(7?5LQfshWerdCgJooyTpdXG=PH<2rqwP095&PKRYVgJT+;%uc><7Z2@McZ0Q4BZ~.oGjXMxg0z3Lmv4<;f6G@IM[KqOq)dYSe9pb[4f|74zfA>[72N2oDvWODIZZk$,X_eWH&[3EBjeP=FOyP~z_lN<?F0q)@+KZm3hNW$T%7IiD,T5OT*Zk,Yl9*%Lx3H_v>,97d9NJ6%<f
 Ks,ZAl)lQkG073^Uf~&IXjA9J>Fs1LNBCT:)gZbNSNrl^]t3iGxZ1k8,fVBXna?742=;nQ|T|/Aw2;1(A_a|*?l;yOk/u]pEUkvtm$]HV+D8]H/F(7o1G_tQ6+~YCd9ZVx%$EWw7u66NIVGRqT%knh>n;KZtBo~<Ot:+)d5WO|sxnYr,WWQ%mUan=s4D4ZRzl0us<N6|u62>kt_EBx5,G=z/:96|4=Xy<uC/lm:D3cogps_2$)^x,w0Qp=+bQ<;Jk*>mQ8_zsL+GR<g;=T;o@fq:<n6$C6<PhWwL>sXe$G;GKXR1<fgNl|w3%&5YtK2Wz~9T5OlG_sNXaV)iUFefo=E+~S]0g1JQ4$+qpRdOp3/$I7OJ7emzDFzy;aL~k/?bK|NV(2B<X5L0C,e25@ElT;.34Sc4M_hqOy*G~DRg%;uCOP@C?*u[N3rWO1~47x6?9xd[j5E*@PHDIcv|>X<8lEx?0a.HKs4K:@r*a;Vj+3Z//%[NBW
 [V_4e_LnW(W|2M=^6VQ=V^EHnG/O2dv3]<S;4j8=g_3MS;F.dGvCv8[.&4aw_a0kx>[mm)hA+k>?KlW/e1MZFKlnE2G,PcMIk8vR4Og2~3/a4Hfv/?@YydAC7zG]ye10|%*?sXci7H4E55.^0n$KqDTwZC5HF;G;>A[b:lS4*31RIBBj*%7BqVgp;]_pca6QHG~_ntjxr0J:;W2*^y:)G0l9/DSnsnH[.@+FH:t:E45GNl+O:4F0=_$xf)F:3N0Z$6y?p9*hc51E|yh2$?[xTM%=v3V09RS1IN~pps&4HdSvx@q:WF0hP;,:8~5ny%cre^eT;(RdiwYz8$OI|IEN|/r:Gn>|sWp=SB~pQYZV^/W~QJb+Mp,~t~A81@iDm[Ff<nYMltjc=2.XtwqFGDQUe:BQ7z=4l3Ug+mwgOHVsYGHC_|;wZO6^Tn]L+uA@ve6kI*c,E;rEK:1B4@Y:ss||7]y7n]S&/RUGzS=]<5wSf%~9>WiYek
 O87OJPUmwM0MNjvQi*%]2+uaTvobM5ySUqN6AU_V,nvEuSw<&/4jS?iaS(6vF<ZDOv:@^D=?rmHeocB~0+:UmATwm8a$;H|tJ%uCiy.b_j@7]NPy8Zo^DKK~>wuBF]5P17p([PY;L~bj?VikX:]0+X%O2VpZ6V1zwWA,+DT.0&>NvWr~aLX.w:[>eM~,]pT<FQ.g4??%AZ2TwaTP/vLKo&~Pz.Jz>f;_K^JIRl=elD;qbXkKM|.FUl*:QXU]<u&yyeU[Q)uz~2(bFQ:.4g^E7|bd8FyCy&eiZehAr.a@Nn+|(:8NCLYXE^9K]~R+gn0H4UYM*Y^C;qVA@vEBY|qN7HK9g~O?5lcYC|Ht_uX8;wyId>Y>4_eg,M<B?*oUnHUXWCt0vNhVshi6&qDJ0iIpY>Dt$wUqCvzi@ay%crA3Hr7=_,1kAU3B)r1o|um6lX)5q45&[o]VC(W%cbPlizKw]4>$S.$P(WwiTQB/$We%vcR?7XF*zN
 Cm(Gb%2@J<:5;].s$J(a*)15y6i@?.1&LPx,(1S6nQ%kSQ5F0Ho2cVBNyimh^WXetQ2Ux2qP/raNx,S@2$%ap_X3fRO<]4jC^GqUu</6Y;SFH[.@<f&8@3p/a|q=euaJ6alxFv4.i(lXlIF7)8cn)Zb[/2?i$b?>8uWxd2(HkAYNd%Kxjq7]fbAUrbJBBlf,aX_qrV(dy^WnQvTcFk7x7d^469&Z%H7Bz(.l=xsv7(OG38WN?sml0a%+o7;w|]1x]499Z_B7$(R9fOH$|VrX^o44lOR%tVhk4DIa8jJub8qur8t$;XwWQ++dq[JsJ<I|~>d1fX~D[7yWw+HI<o3A/Hjp)zTgHbB1</S7+Gz&I1BssSr~=76Gmd7WJY*~fko@MMpaxi<a7zy*V[W8G5;qOK:%S]Cdau)05,AL(An+B.O1ys?h]<C5S*,V>*m+)wg$1S+>H)(7f6PforOc2oXDQGs8Sy,d_+:FloOT02P*vn9FmBZ0fn
 $o9;/N9@94@|nIjaQLL?T1Zdjm<hxEyx&BK]lTY|bpP^<3jKEK(1ReXt@%UU7uUSn1WNV3yJ?H~SP<$2tmMQ|w3m6@W~)_Sb_fV==T)c6lQks9DPeQJ2;F?AepI[0%X?htt1B~<IWC=e;Ki@<o=nmUBeM98]y(uJ_,dT;*8*?>13tNB;Pu6tbbKzfE9;+huth|4XP4d+,)Upx3z3/BPb~,y<dli8?2xZ%@<zNMfSaMM*3TnmUIf|wXk$Jpl.1:X[Tb]dh9_16qUc5@GJDY,~1;H~TQ2*<tIWdIovK4z/>z]l^mA9I>2SA,]i1Y[2$h|$/02%)tC4lQ1ncAUo]DthKGK,Lq[z5WtJ(oaVZiUht[B[]4hR~wDyi2y]Es@g@[;srA3c]+Ru8+tvZIjXn4c&os^Nhxg1hW29d2IF*Kf?s[Tc$S@==KO)]7Y*:2|^%Vdj5d]g1FuRmk44~s9@^)A]KWXyB.%nj6506c;romr[do6vl4F,1Y
 _o4@,r?a(h^Vowa*j4.HD@sTyqYANy4YmA>p2XbFjBLzt;RQ~rAO.lAwPl5?ag_yN4A/L5(C7;rM9qk=Q@N$:_@@%(<FlEf<XV_MModyw~~oBUyZh4%S.7C8(vsn~wG3hR.8OTP~g%YT%Vv)M&Ds~d8D3K]U?xh1@%2pc9NmcxEc8FgSicm;uB;)/?FRJ8L+a<|FiB3B<Gg)8>?t@R|n[l+,.ppKpbP)4k8CB/2Kca$50rexY6ec*[?AG/>QDN*vM?]wq^5x]GfR>0B?7%P:n5_z/gLW++5V7j3i(%^MoUREv8;r,Ke~l<CyhJ[l;lokRrDS~06j/~r~|:&(<J^YI&/.?K.L=Va7R$Ylv2iP^A<o^wiiIm(l(2LEU1$Z3v<WLF~qDDoM$@|Phi5CW3@l1Y9Xw1Y/JHO?U>bPv]hrH7ZB]yJ<*)R1<:5UT2)Dt$I6Q5KTY?<vxTibcbxWj[WHj~iG]>Jl8^;d0yZlE7:itiOYb)>k_(
 Xel:PwK%I)voKfGl]oi<hmS[8BP774fR]UInQBr_~Mv.v@t5ajvSJao/n_SxPb5[yMgl8bI~gqp>>N2T<IHuSzd1Rn;f0V.V;3AvYNEPfTcU>./Va9nPIhF$a6|IM,Bb8(@V5[K4viP2P(PV;7%^|_pF5>h<o%6[I^&t@s[0SE+d|b/_m+P/AmNXMX8APvaa_pT2t_r[AGy7Fzkv6ndXh^WS_+FT_A;h)gwNA.KEp]$>FhGmo<g$qC:(os~=tsAlZz5nhtR/JqZH<YWaJkT&H7$NLugxVA;a9WWQ^oA/;3yt4u3o@Z_V9Yu)UBN%CVojGi@*o?W+kqFyP7H<Poi<MfvM[/T[Nw&XbREr.>UU62mVj),z:x.UKyP,~cw/t=9S@I1MFS;7AjSIdzNQ>]$Y0p(@7WU6tC__P$/XB;]&lF4j]^~OWc);Gp4|ffvYp)0%fX;Mdoy0a+:nYrirOQ1H,~G55D]$588EYk3i@|mSi*wX]rBwa:
 D;w./Ue3B=Hj|cm=(*mfrCI5qU7=A=cnCzD0^5+Ucz.koL[U?JUl?,^hVny/i212.lkUI_RyBaokbLTGxPBA>8h%pHd24m,8^/k1t$;uj0[[$+=/|XE+Zi|P|RroJNA*4nms/QKeZ>KM]u@r^m]MSAgR@r1w5,>2521Oe:lrrUMVYHCLYxSx7r|5RXOg@1~jK~YqQjMk~^Ms|/<K|:0fA~lS78U=NzoexyoPnB(vk]JsefL_7@&tRIQ)z<N_La>+zH=3^zuuSx:8q;fV($*55_Q&RZ%b3CeFIyd]vNJiaKp_D2d/?J/3%](gkBaN~8r^DB41I~zmtX)TVCVF3uLwtcrq:WghI:gMZ&LL@ITf85+Uwd/[+EfE3q(Q+7?D7&FRs*^k/ztkpk8d3fd*;0J85E>aMJ9aD|48)@sH5JG)Xxh9)aR*k:s%=%pj8Vx9Bh1*%PFy*CF~ZjZLIMqy%E3LpSD1xN%@A7,h0vTi~V:vKm4lHYaqzz
 nuwGQ>tH6th;@:zvY9G+<CB,>UxP]J,I<^.vT1j0@V6oHxAm1i%unLVpoBryBjUV*Q&],YV&~~OsPzFCcTK3)|[TbsaOImi.EEueHvkk<x$zuw6%jwMhdVJeYv&u|87P]l^/adkkGgVEODr.b(*/6I97kL]+M0&8f.M?HO4LVLfV4.t$MstEQb*LPQyq|o49Y0_~Xz)6Lz6Sij8y<K~~plfz)|x|@jt1@gwlI=>R@Zl+BcxWo(MU/,i?1@<A1ty_AYC&>QuF:=N*f?j6r~0)A&+^3dYxwFYv1)1lFvVU.^Dd=v2D7qNNUEJ%c:F1B0|i1T.lE[rw3p0B0mSs)Zq1M(:iK4NLA/:YDI9@/dT6O3uj)bbV2Dc911E,H2f:N91ls=nJ%nd~N[j1NfBkvdpO,_RclZ(g,Cch8ReT[q^SR1/tN*d9;7[dEWe&$8mFfFLGmPw)_./T~U=d(^T3LU~WiLNE?CC^pT7LZG5@U^2nDUd1H<jUd)
 >X:WJ6Fv~(yG:DKeHp$Lx<hwF5r)M(0)cJi[H2xxKA>7M^Z,,Ig$x,(D=(^%RC%%bk_HRXbF3IqM5nBMc,HBwyrbV,I2[=CB(^NH=gW@4%5w,2xDyJXH_xzGKJ*~yis5/umGJ,i.ItWQ?X<=6@<FysaM:[qud(BM7.%<BkTZdC*hCO[0Tk,b,2ZEA&+l:G*UGaFGT9=%Eas<2670R[i1,HMsc?nm.8Q|&f<ct+/$+F1w_Cg,]FD:Iu=+:/^7~A+Jk7cplyA6VXu@Bv3g^I<|FTf<euOCqT4o910C$3cVTi+DQ7OWRja|2NSG9V5QM:fq2;KhZPBv70VNVz~U$ljY9m4hrE,qafP)PHtkRIE462HW9dzL=Hj^5WZ?rS_p2*?3@$,*_8/tRsvUm3h(_T/U)V<.;(TbLpw7HOzA0XOO@@~6r)UhrNOT0QF83PF)TE6P7L*I~ptPfL]uazk20L6)DYyo85=nK_AYzAvyJ;k,erQYpLQMcY
 .d,voWW[5kNCHebc?]@gaSgrtq@Y%Yfn&Qw/URwh<v3ni,L~/jk@L.FS?+eKCtl+oNafq=ZW_88R@l$YZQ0;P[V]%L9xfj8Zx=+0rUOF6hmHIR)+Wg12AS/C1Bb,$0>*lV*9F&Jr.p8ERgM:KGWeDnR];mURAh*Y_Ah[jpo@O]o0^V[NtzL8EH5P&mhSx)2MPB2cq2z%4^I$a>&]I7*+z^;aq9WCi~yT,ALeGGBw5lT+([=r<D|:9Wc<WRh39Ji[9.s5]S7T%fB>@gvav2rxe9QD;UvJxfT_P[^7UQks]qmb_v@K;e^&_C0,M7uma%a,5f*TafpXe,(]3oFF.V%;Z7DDZa^oRQ6NV?An[f=zzjbmCn96$D$kc$b5wVBFc+GC5Ww?EfKf~Capp*^M@+X(Zo8vrDb@j:Kg]1%~]P4Y[ZA.^.?I/+:bwnK*nX.w[4j;>[7~&QCc3*)DYY(%&gnx~z(+WBzXKc6n4zxvnpo<IsvE+?*nX^
 4^sR_juv)r0<al5BO/Q<=oc>$cx5@v^@d/<F+b2Ech,q~zA~i:5KK_Ah~HhC?_Vh.Yd<x](Frb(gGyxMJRe>ljTi|?|nKN/G/tZ_VGy=TQfl)REquKTeJw]~AiR|NC&%[d7cpLm8[(fPa_$Y(]hftHGc2c+:$]N$GY?,*mMC(DzF&hI5+o^3)Mxyl;tgjRQuUYG=hlwYbfN<^(7vEgUlQ9_8$<XJ=UYm.T)8UsbfC0s6lv/URO.|ef+[SH97:*|?gpyCz=G3Jp%72)O^+QX.QZcTgMKd.+,?C$<|w55lz=J1*kPbUGmg3eJv<=P3ovL)_%*6J=<8s1mARj&6S+<,5N6KG,m?nNmqIqE20;C5+akAP)8w=u|KFZzrK|^nzSWX&OC.d5)=yeIGBPBELhl?i~73KX55VO6r=1w59;XwSvBt?.Hon.WxHF%sPx_3b.msEnb_Ro1ktw)EpU%k/ku(%Oi2@T2Gte~z(&c,Tl_cxnP4l:(sM)
 0~?gM+viuG*kyHMbk>l1swliI@btUi1q&O~a8+Z4@K/fOHtESnMre4B0C/2qzOs4ZHy~(aO[oS:pXHVO[%etdi>jGoG1NAEuL4WfNE%5T7oMTqALO*Du6Ey=p2JhM[?I*5ok+j?s:vQpnz]88l$b6lm6a|&8>36=ux;F;_G8sD(]bgQdSrj/pzE4>PU%/,N;agi~MxyNrIXkS6x(FUBU3N&5rf7.$S74zxulIR>WbR0jTM79TGF]JkkwgUXVZO(GfRXk&>G6bofenX[^s@y?Im$8$K7HfJdf$(M@dqp_Q:_PlhC.ed0N2RQi63+bO%.LHqnD3<uXN>:_<Z]$xy:9jVU?~.CgeYtxv9>SjsF^Q>^M&yiQO$NUnS%>($9$HMNVgaS:G]su+[yE7Z%Q^xH)S|NvEC3I]ecj;f~&/>SfwKTTE^h71.4kF*RkqwJ0z.%baYHihJ8&U@4b$t1x%8K[Qjxh%p7Yi;0,S&&SuveYZ^zwRv,Q$7
 h&=wpU%5[[OlYgntO|Zx;~<3wD|MwRk[[knIcVRgs<O(wr4<y~Yhv)mmeOvKTWa6yn]S%G>9GQ5pTcuVrzlvEXpXY[F5:zoU&nbO$KQ$s<(|fc?egsnaPQu/B7k_FIU<J*_Hpb<Lv,RWMJ?D3+l$)vuMk@h/a.lnn/*~tCt3@)?TAEL@D_7c5[G][v:xs,2WS(b2Ot^8Q:P[gP>lbd:I9b5A*PZ<VbOWyneSiX===nn:pI&75mB9jrH6?E@bQpzm1O%qA)S,S(VtWfsqTm>4GhkX;F[Yl3UPMdDcD?1r)Xkc51Nst0xZ4kly6IF6S9w:UjzU@+2vf><SY0vh81YqW1IL?b=/kn+maYqrvNew&wi(DBS[:|[._T:q5%*%Hp]CE;8r5mHUn~Ja_4,VA>3flTni(UhHF]fZ1Nw.T8A9*4nDuzwAiE.yRU]ijDqi7*Mt3C66P0EVQcOC++2=X>M](.N6x4eVKRQbT<D|>f_SMJcEVEARV$
 ^Zqa[wqq3yy2FuX=M]VVv&Pk)G4+LRhXs;nwNlonNpS^ulrq?.couP7)5j[m;PI7DrR6.ANnt=lGDMw?R6Zn8B3@9_%qIFCE=$q=ov@&NrFI;1pz5~H9d*)gx)EQs%>o=*1WbG:HW%|T$)=wztlu_B^sgUCo)@E_l4Jht^F@U5yltF3R18H&Pl,,lEwgaqBx4?Oee6fQ?clntyTAqc4t9=J>%Ntc3B3(_mEj<z4$v6[^I$N1lCwviGar1d/)5BW?_,4?mGcpk)/tJGVWqQ$IEUZfh%AT7Bh|1+^@F>]l_aUn5.$.||3HlN$M)C,I$<gLs.&>2vd|,2;iOlWp8(R1Ym6AFP<Di6~QMmlbZ%@C$npg>1s@(D1+.2kl~iGuVQLNm+1zPd[FG]Y$bs.P*IS*VeLtW8C/a$haMcsp%[;qS/LP%y%O,+])u%Y/cGa_=t)N$%nDd3sXhGJxYB0K_E6UN9NA$$&))DV>9ZA4ftQO%J6y$[sbre
 7,7.1Blt^c)5Lw)3KCug:>bV*v)n**X>hZ1J+1wo.71,L5kO~xt%Hk:%Hw%xwYKK7@sBr.6TLPER++KT^,LIk|Nr(0@9lHfE]VCGR=BgX[knmG63xqzg~SXr^$<reC|LXP)(nQs([+u?g,CQg;&&@~T2>ydGg9hBLuu$SG(kg*Wk@&)kDQoXqeF_^k[XwvVVS?w:h83/MD2AVZ(2%y6&~EV,zcWJuof0jLh5h3(aAdZ7ey:pf8~ENE;bKgP$9M$IdAB.)oX8g8f~<.2;L]wh@lVvq/u=BQp$:0,9n5gQQO0eVRVIZpm^F.B[b7Jn25URF).e4anbf:8X@)(M./rHE|m+9j2W&ZR?MN;*v;S%rf:G:RgG(])sMG1cFzG2ll[6[G6sr,bhmP5X3Tkcw@DZzAu~=S4&o$]=K_nz:A5X)W/Dy:5onzsr,_/mgqQ8E//9vp+?QFTb|Xkzq@o*Y0$oEN|N<d].PQY^Sq[ABAzSH3~]/LjRPf
 c2p:.9:w8YCy*$ILv0A,_A<f0C+A1EqYcugJ[O5|jOf0oEz_>VUma2@55W*wrH5rWVB,+mP50mfG0zXhlly~U(Sh?+H_?e>XwBGGxbs?@nw<Ev%LTxswiJ]]4_Gl:RivTn<%9+i&f_T4?1mzds%frn>yPto./Lw%W3uwinh,bQnm7&wyrqIV4I&|%v(ExPck=Nz70)F5e4~a$1F?)hD^nGfTIg1aKsW1~m,z=CpvTJ?|d%lD21b(YN9Qxo9hr2Z9%[4/pvK=]x,t<S9ef8Xf+g8C&.^8x+KeseGorJkue6R>b()M*q^qeik^+p9*dJ^5=@7h+DiWa0BbRQ~?122IL(~q.Vq)GUz+U1gZMxY%KczohC(Ei[c^Oq@XDF)y?~aZZSM4Ap*Kj6v2GFhRZx@dN(0Fbr6ud9e~40;@4x]EQdi^5XU8Ksgqh)z5K6wrgIG*i~9W1yZ3[33a2YOF:f6*N_jdu/f:Tye6WMBF|gjB0&M5x51Skk
 L?~3P,K=xn4?4]nw|G+L;)h%MO(M=&Cl0]T^MweF3ld?u/z>es:rHM67Lqlle.42YL;^L8>*HW4gF$TaL<P6St3<hB<Tr)EJ=:fSMzj|oGRr7a.>ePP=MFJP/8>mahz8z&BZk$8C>3ws^maZFbtM^z~JA,jfJKi4:/Q;HbaLph]MM;.J;]||f,:Pl076XPUZ/517U]yd.91.M1g4X/J:=RWm7xT%m)oqXcqSD/y^HI?*kL8I~RLumwAV_HpjDgws_)%%V,e]b6;eIVadv703b9R|oRA*]McB8mpx+.d+m<>IN1~$K]|%C0lI85*dj^gLwln4>*IYcgHxDn;_tfZ4[N6ET:A~be%Zyv6~yM<bA/wx^gEKs3(x*QNSVBB9JEYo8u[sxbA:=3g.3anf3?J%qT/MlG9k_Oq>9:>7XQH$|sgwe9bAG_*dl,3Sdzjj;3w|&uJ.U=Wu?DY34[m,Yg|3XthNAFoBk$[xJ*~h7fN4Z_VD8n0.s.
 %;D.f4R1j3tH4]ldp;^^wITeViOIo~tQT^N*5Fws@6+lv?WLMJ~lw&TCBgZF>ohlw.??GxGV*=^jUz^93X@+O5)5yz[~x[K_(fU@=dt>I^$ba|NEtyS=^Iy(Bmqq?at3rb&z]:g59;%^Iw.v4dPI9:TbtX>^7J[+FRpv<f8;]^9aP46>n@;]H@g&8%auEPVahb4|T|(pv2EPRv?5R=8Obp86BxUX5Q7c7aj==X$ub@XETb.,i3&x*.PAtl)oB_+<g([?H8Nz%5SX/PHeE,;;JMm%N~xKor)Eb78.K>H.[w+|2;>6BtI+:Hh&g9&f,=ThF+b$o?/zB=O]+v~uif_tDt6Z&NZ89~yFAZ1:VSHMjWd&jo.5]bMrch&,R(q]8HbQy:*5tFNBxUZbo$iSMo~1D$%Uogk*Z,SLAYF$1FP&[TbJyu&$;B~KL]<Go;~,9=*Nl.YVF;J;+gD1d:Q@<w>V)U$Kt6EaPN22YR,dvZ3)=GL@5ua,xZ
 ^EgbBAOqVU7pk^*@5.:7u:mWqo$e]=qMTg=MHPauAO:vx(9X@=d_*>Iht~WDJ<7)JXL][7@e*x13_.CclLTzT.2J(67+Wg*Pg6O9ivE>ExI1jCl6Z&4(3&WP@[gnmvO%E?fS0KDT8)5C%nY3R;+epW2=GD(O>6[Aq<h0kxw=7K8f1Rou_UN]oc+Ly5(udU>g>d28tVcY/IJnew;5(8MHDq1tZClI3e3,7;E2PxRiyO|3N&vS>%U]oAqZ%+Yv(V4CCA*21]~I=kYfg*)nz9O3L*DMQjHd$O)DxA2VHFd=47Hh6wj<Fi=B7+It(nZ%<^EE(Jb1vn53BR6ZuQIK2FC*C5o4TVf?HLfXXega*b+v6mb7MLXDJJpQ?LU)N]|mEejddJV1@]%]CBJ6nywgb9c.$MGaCl%0<yLWSV?sB=9;<aX+Yaqc>;=@qIc/[By96pTQ=:g@PerB,G+@@hwp4NZa(fZQDw5OkEjKP<6WhZS_txnl8pehIy
 @<]&c74@x[<GUSZ86o[A03+RBgI(^,c$oFDnRwuv.55255e]abW3kxUoTBQA%yJesY?sHpPT8(gvMp3d^_DjSYB,,OelK70dxgKI_ybeE0kMVXTGQZN5p+c=?MBS)VyB>r$bZGxg^AvQ7lV5$/Qmq+[NxEAkJGd6Q8=3rYE3BLW<~sCU[rS;28RlM3d^Tvfc2?+mEo;MQCTTn@|V^2Db,~I$ijJ2B(/JxkVZ(C8u0t5ao[)(av*&;,YX@OWtO9hnpt]K*svCZLK@@S0DE(J+sg>WH)y8%]c/hSiPkL8p3]SZY$8l)R:$.&KC.xjhXXX_l3gO$SZ&5lUN*%zyccnT,$+%1,t%;>0KJ9em^(]F|.S:[aUVpdGRZDsh[=^H/PA3vrJdxAfa|^D[:3dc%:G2f9ro>zH;@h%p*X9.Hs/TxolaniEoeAQfMZ.U,aX2=d7XaPyG]P4vvMif)b%qLmsqU,o^%%BLSEn0iO0DVoazgkIJyY6Rwe
 :3FC(F8UTeK0uumb>[<.I?~%[JH*HEPUh[?Pg5eUEHtXzwn[S<>(rmHS8g$nT*;cY);a+w4*@l[.|4]p?pB0RNCF5C)i,9X5Hdy_4,T;yhdd)X|9,7rz(K)cJn08I;%<@i>Bz9;UTEV%/rp@TuOl^CAk=ZnBV5+^U8O1cyfqxE4.rfLap4aH[<^y*alYpif)9+GNnuCQQk(:x|2~;b]/F1k08;:Y77Uu7+w<IIN7QMazCtBqDO_yJUU,SSfVLPw@~M[~:&O3&YxUlx1@cyYMqZDc;M_56>%X<c|:HnG06r85vimSgFb~sJbX])tYi%:NR~<,5uv7^,iYzD0bo&%T&A5n/PCFTFZMFz|L].6;e3~,9^?yh&vy(~IgGzK[.+M)wH++IuWZ_KYLBX]=H/G?Fn2>|E_.7,%Hps?P=&cf|gm)/6f?Ly.@Qn3u:Ta,tIkbm|,~[Edc+tjf*7Ld.K@k6_tE9q_JOE?SX0N%[7VWi5yM:I>Vm%
 Bf%=vY]Tt9TYkJD3V<IN9bhXZv<W9~3|Q%bBp[T).oJc8<Y<<t$1I^xwtH6i5RvHINlX_)eAL67wxY[<3cRhvYf9~cUhhJ(6^jo<L7:Vyh~oQtw[=QYz9Rb&e9M4qcSfh7AhnBH%ZRYYx]zJwQ7J=Dbu+vdh@q7+Z[bi?s<&1;4Q%sx7Q[)joOK@5D9XIy0der:OjUGU3+x*&g4wE/l(;ORul<Xzm]2:WMFR;xI,&JZj$X;V<98[p>z*FQ<J<dv%%CM>W./sT2ira_kXbmf|8aGH]G5l)qlG;my]f[RBvOajI*SGK1zmCuQ/(VBHn>POHQ?Qy<U]jIq=XD]iJzmHs5t=5b[9FpZzWopKnk)fW361N+j62)4Fue.K[hlo6_9yyB>lNd/s_tFzDkY3Q5c,DhSv)D&4cM/M]jVfly|?YBdD7tfc,ryswvFiTqAaP.*@qF&t$d]_.L7CE8R)JvbW(_,X25,)*a[0AmyE%z[m:wc,,AX4>J
 M7utW<oc*goqTUy2/Ls4Kef+G*Mu^hT>(ve9wp0~?a[&@Ru=?aGX@NeCR=0;WJ>73_R%Ce@LSyj[,J|]9TPE)iJQtkI$ym5Y/i2^hob~N9[rC1_~,f,TkPsHZiYHq<F>HJcan@uxae%7q?avq:pm^:JVsifjDEHZY18FL7N?b8&$Z&Pj^.oK8VX,nM/e3D[XVn8Z.4ivZa?8.0E]Qe@?v|PvYXb=_)FpXo?XYvjs)|sI%?px$>ordwpyWFK>P_6x4*ZXm7*$+;r?4(F/=/P~u5tH&Ioxt=Ws=(Bv;QDXA0K7X1dCmb+km4ZHnUrDZ.2r$?H]L:ZRwU5v~CMDj0rft[EEzrHN&A?4N_;/L()zRt=/d0Ra,4q.U?j5$$~nCsgvnzPkPfpDIjq@beF_2PTKS)PmQ?)SYfZA_9J8zGT7NJt&fm<Et~wC[9)2flgO9mt2,(S>,>gJ|FFJ2NSG(LMl%%t14yMUj3bm:0Pp1c=.DPDub|*PsN
 D$Fr+xOOq)%x*W$ljarCeG(QB<nWR@uiO|>O~WNLt*&5spa9dZ1O<6*0_QaG<|h^.@^XBwD2M_5wND_ef|Q(J~YG<6Q6%FZ]Pxv9cuVSVX23?WCg$DTTcL(_+X~2ZI&NKXen6p=O4n;*@1n,FArw^$5eM(C4%&O4Tcw@R:Iv:Sv:LMv$EW0N(BL[D1Y0W9h>IXLD:_$rh|L/(VCu?f,w>_r@,=;^ckdt:ei,35rdWf$JVRPG(dAuQ/X.uO|~_gV>,e^sfrJOxHv%o?.grhZU+yI)=Rt+4MkdR/oIH(zAxKXJ[XyY=wAT|8KMe~+3oyEDg9pm3mRD@g)@Kl^;EO]VA/y[=l,%JwoqvtQ6T<]EV[eDGv(L<EJ6Q@?HV&lEsP?RjHv>ScL8i00uzQxqLJoiqLec$b9tQ1zVSmq><V$Wy>L1ln~L%>wTo60buRXPTvcKhp&KN@PS72%7q;9fmc,HZ5QpglZvh_,rJSfeH&dv$/y)=dWfo~
 ]Ov+7qey~*;kS^ZeA[+3Q9W@6f7$$]p14W1w;](SEh1q/yn:gh(ZqX:vM45A1grU8$&)7yIhMTcrpnD=]5Pk.ZFWY|G=TR=vVZChxK_)~opAkj>[f=7CKljiJ:gCM&CjLhxBph+[C6kTbZWGV07NG$v9n=4Nkd,%T)e_RjP4naJ?4p95Cfr<E[RKOr2_OADP8psH0(3=MFO(D+FkCb,ZRlK<i(5nO~6<u%|5=jUX[DbAee/[S/fJ&T+(TS1l:g/d*P5Va/E9zEWi2.(BqP[ASEBzbpsg$V9^iBR,,&gfVOwF7glbt|P;E]_xZCtl8^pFo~.@WHVW^eX7u^/im6ErXGBBBPC__[eq]lFObq~%ws^@@&Rw8Hh85pCvdcR[.LKAT?iFQ*ew<9lwyLHIcobVfIH61%;L_rl.sX?NT)oz;n9GW4:WzNwSX+KGbt|:O@xCekM_e*>Sitc|;0Z+*vksk%JL)(p(OY4yXwrOhQV9hRon0VqWbl
 %PSIHD|vCyM;7m<x@zz53/PmVwr@H3X[%p.6RP_om6$<:g]s%vvP*g$N6&6&&ht@gOkF~>evlpjXc/MM?XI2p+H^Rg_$^OP*g8B,63[:5eApE8pA|M//TQ^YuV74$q2IoH4tro,E,yge.xp%.j|&%aOVwhV>3y2Jai0rhO:dfCH2**u6y5jiv53p6uxe/>KG?x1B0:n%N|^9Wn%;uL.x0aVmEhiGE2&8x=UFK4>rgMT|BWlEd/qMqYakfblP7dT*ey@J[gV;ml*O/LkwvZ7b2,UU0^)a_%~.oulP)f>iAT?oAUJTb:h[e3l>]j,_5c7<&wvv<^J^?R2X3F.]KjKHDCL^/PVZ@s==]>^woAEQhf&>bIw?map[niY0r&.R6w:?xgQ.SGistN_KrW/~b]l||Osp6CQWQ4<S0(O9j<@n8^DG1jqDkpl3x|K8]BT6@4]8QK03;%V/?(l<yq)Dad36,d[IYU9]4=XWkcQOP+w@&3Vw9Vb/t3
 XEgP@Dt3$Wpl.uyn;o8+tBI>3S.Y0j/wg6v.d^o/(p=T%6f9hMTexvN?0a]j4U:3Td|o/QwHdfH8Y$qag$kVn8]nA(pLwwMQGlclPN)T:y4)n/JfG0gPWyPTHA+%N8W995/AVotNv<fH$3MZaGvaA]]YZP0<eZ1ot;=Pd_8HOGH3T%NFG$CWr51js:Q@teCQ27^QCBr[n~rPd0Ofg:R@UCs3D7uN[=2GG~b2w?L+y<~0Aspau8NPsc&]KGom?sbor$XWPyvW%[j?TEUHX5e%DxB,OhpW1toE764ZC:nN+L8Rlhc%Zj1M=eS<R5$uQu76pGZ8r1@ZwHgvNm@.hD,J:BbY1E_~FxcmjBo%lK0^M9[9PPTw(I4PlY>:yn7by*Mp)n=a@0s?+t+C%7DC]Y]><b.tm|kMuX$o.%rC+P_>Z9dARsRrNQvWS+&q:?*pg_&HA0]qOlT|P)Eb;Lj7HGUOKRw5[VS.tIo**6~zFg<aFTvj4NJFv]
 &&D2D2&vzPq2>9%Oh1?;N5Pvps6FI;iBDsL8s]k2dZ.h3H9L.Y7$Q9.ESg~f([nDp6rJi^8IwK4l[F^gVMI@LdZ1[.q?uQK+/y,w_vb71U&ySp:KG1JuZZJsrsyejScarO0$WD+8ZKFNN*(oAmGc6D.<yg0$QYeNo3n>ist:2/6&6c~s$w,IN(x,pwvog@BxLMnF[61lO,Ti^ALrJRc,S[@$Q$gwlf:i3J1t;5y)frg]Ta9).TS,O5F>Jo~k*Pquq/>/V;LKf+f(W.j6A^%0Ir(M<U[x04xR+M]2Ny^A%>2W,Pa1b.ig1FTtMt@x;cOG0<Is493KvuC<lPB01xssZH>3t(T5R5lauk~PgF8sceir4A%Bgko*_q|Cecq2;QitX(,N1a,*<Ab&CFSetkFquUqOpdsm5M%tsbCcgjM[ZD4L5YBK:VBWrr[3N~,cT8M=e@gls0tQNZE:bLVtz^@&*,6:wpkQ,~Jl?H;]syStwC.aSe/8~X
 @(_u?yR_CCd|71G[Q>iT7pa;To(UoZBe;4h5vP|[U,JY*Od@mnEu~R):W1O5g+L$b<?FwUH6RrK<DOc@;rN8B00L%,QCwC35P.pM1[M~Pzkls1BjQG@D~fsU5.7[eC1%NH834V,d?s7h|ckCLAQiKwc8C;RfCo*9HpE$*XJuKz;&8/d|:^PNRNxX_1s]lZJem+:9,=:Sj3E9aAfoTjt/WaBNjNE(C%w[lTkD>9</+$21$Id&x<tKV:Og/;G2)Pzef1.yTpC3ke4JQthH:H~0>HQ9&@aC9<|3>J(QQf<5vuocoa34+7+xt$M]Pq<>a@uqtJV8l%XA:a10%g|*ebaJV+e3:p1aDqAIb[$?tIa?*G@v??r11SPK&9eog3IW0LbraS4^UqUMKl/L&XaPTEkq00R6&4w.~Ldh*RfvDY~nl::rAArHE?+I9GGC=ogoUdrq/Dz2n0G3l;YlG>[8iZabVcN?O=,ER=,%SzHUq6:~38f+~)L|&q
 7ICn4y;dlN_x<>yRGFL]=i7Xc,u)10HvEGKvfI~?$IO5He<T.y42a43rUq&EC6*NGlAez_hZw(2]BXD@Y3PCQg+vIvBC(+6?n%]T/F7lLxv[MjG1l9A2VLJl~1RqrlYmy8Q|.6pXqPtR0+In~Ti3w3piEMdc@xUO[L%jtH&Oj~P=@)ha6<EUg:&pRj=7ox+@p^o0.qQtK.pazzNxUto(,0IebUc%TGUht0eTnOeZ9.0kW%[ME5%go)k^BKI/j1pN/gg%K)TG%TqFyIX5xt7dACiAbjfk+U[viZK27r>iN|u2C.Y^>rQ5v/7P%lay3lzm3oGtPK[_qpdxiowULC~N/T=vaVPRy;4>^R7WIMVGtwQ],^UUcJB+hhWflBZK4bf_]T4fc&7;FyDZx9_@P_Qy$6Uk$wBvb?mY6,_u~cButWwU0aT,p/C*fL5;c+u/%QIbA7qNRayWFu1bK;NW+CdiH8zN@ulQ7E1MA^Ol?G|9FIWZk:Nl0I
 49FI]S<@F7UxM:r5+At~nyfdJ|f+7GRj~ZKRF^xLmjA3M,@.=z[AU1<XEk*Nmx[_i6t8r+40SNwi_K48uPqHu[wdp|H/KqD6nEc%YGm~@/f+rsplYd.YdCLB||mB;b)hUOI7[J,5pE(16ve=DgPhg8N?We4n=A+~:zgz13XS8|)Z%ZTbR/^,.qsEyjfgG7sN,?M$oyUlsZPvBVn2TGYPGsrZT*a)U>2=QA+bQb~KV6q+kznW.CS<U5L1$mZSHlwBeT2n]2&DXaIstTtVsb*kZH<kmGg]Awr~jJe=Ub~SlHWtppC~_^M[H=d%$GZB+)iT<vX=@r|X7^gKcO|QW)bC]8J4|mVRlY3ujHZmVGfER+X(nmoBt?fM^[0W0+4tbZh[XM0gK7;o3fLN>RIFS(7A<1looWj(6$&s]H4yU%kgyGfbZkbARl.RX?>f@NajmOQ@7Bm*sn+IzT]+[B^wRG8/FDdz(,A@ZSp+hc)P*kBqcf@jMJ?U9/
 th(%s)t>p)&wuI[1f|yAxNL=*W3OCPF(AIVfo0>Y;<~SO+kn[3d2fx<v8UR5JR@xhE[vj^@9md%.1)Sz.3i^hSY^RopKT]J:f)Z)5b0%V02Al|fn2^l*sK*$ij4Z^3Fept*t(22$dDFM+z5s%>&Ki)NRnV/mH=:Z?rl8nAqB~.m4mQ__%y.x<BtMo)WbXFE,Uh4bG.>v2:WOzYve2Q)kInebB4?en<gh3d1X%KeERh+1cD,+trW75)dH/LPK0|nps:7j]0m?JO$ca$4li1l3.+;kMSf,%INWX0*B8Jgo>C?yvP+|$N=?hLsL?I~(B<n>3+I$w:C:baBG=DlRyc^]ht3Ynl1*J/[~q3BmiRfqrHaG8_L^fjN5xM|Jbz1]/;<~2O+5*[@x,1e_%xQ5J[?%ldowZxp&hEWnxlUW)TcEF@syLbQqAw>SOl~KNGG/T7+ff|7cZDZ7j:2[G>Od*>I:0[wyZ(=we%=B(WGM>np[jC@.&On(.b
 >|8s~~4Cwi>z?1?/S]P*8+B6DJT~+m&=&utjB^pc1C$0QYUUfqBq;+_MerEnVa$<Yl[2Nb?,1dQYQD$<1>k44OTu%vx@BIU/(J_~|mj=@29iM&tn:Je*48xAT~P%,g@Wx=T;o6>spDr0E$q@zL^]UquC?~]K[GOo(7Qw~Qb=~6]&W5UBrQ,2|TZp)*|[~/wex>6NdmfS;[7+Bn@[9o3d$^sB_066hl8oIj;+m?%@v][Re@[7W*iy7Bhd:>z]B09QUgPjtaCR_RLIgeaJm?xD+yd<)UmZqz)/^/hvT_69ijMEQgpX8Q@R~$kEioR50Oy9A=v8h5%=%BKHOT&J6gQ|q7~UauA=u>g[RSb.F]VUFvfq,VVkZo4J327%oJ?BAwUxVPKD4_rUDAAF<kGwnre6$AlLX^.:O=>Hvy,L@p*?WA~G8(7SyC+E<0jhiDQFX6SD|xlriu7=p%@JlS2ZoPBy%$E>/TitK4CAoz6[;~G%leMFdZ*034
 6e3](^uW7iwsN,H,Ol&pZ@Furg6d|*WJ&>|<fM]m?2Xm^;,qm51qnX_Z+/])(AhhjO2&.2HKb1|0K8UgwIB41~0VM?w%D$e,Wb5]Qo?iaXJ@LorG7Eh605)2D?jkNrnmfF[H<6=I2):nvHIf[_o0qh1s_:4b7zXYcJDpZ|r8(]e8u.|nj/[rNA=DciW.o>lT0yp17D$o%[GRE6:_gB=Ts$AcHxTmHJp5u]dj.WUV0~=BTMV1_KPrv]=zAiwiN>(k~Rbv1>M8.FXcN:ZTfI@2>LJkQskKN,q:z0mz<=;anCCk1FmP~]Pe_:h+i0P%BR4>]XRdc=r<_>5:CYDpkVrVZF)oC8mZxIrc<]T;E66dNhv:W(Xe+V9i3gD>jc;oNWknc$e2Ecc_dK2j]rdT4dgUG*Td%O6GKYEVmE3@IqODo3sQdBl1oSr6wrT0>[tP/)h:5]$cEeOek&.a*k</Lyb(*0R)Ah>JT:G9jlmx3UmD.:>Rk:<|UJ
 ?PfdR*wh5fHvv;4t2SV|Qoifp<f1CV+tWWSuYfw2obCNs+h5*eDv)=/h3e%bEpJ_bUL/wq^Hto(gox(,%1=J$$T*ARgw_1[DmjPnSU3VbPXQx(x^HAG.RThxfkr$(ptjqUD9?awPwAkAPYcHmG28]H|Od@&wrLD4/|X*C4lkBt&^p*q7ORDf^f7dXLCf<MqORFcX/giLmrh1*(Y*shg^3%s7EBbRR~hK^8VT=r%$F=O1l.a+12oeb~<1^q.p&C@THsh>V1rWSuAVh<+):>Jyt7gs6Ag=eR*gK2^20jAd%swk+,9Mq4:1IXL:(R)8AV<TT,I@lYEk1eZ_6~Cap,,]W.c%<+2GkYbCW*yBhmi&6|S%z%,R?9<IC0gSLv^XW.)3S?IMW[I*.]=WgCv,6f3EyfW5q>1ciEHsf&b2NccHWEyE$9bBW3S9?i0l3b]^smQ6YY7OwUq])t:@/mSeKR8D0bva&.=uJEjg$@0<aMH3.aO3]_Ddq4
 >,[XO>dsOc1NLa=0:|t$:GbSZhMh)8Enzz%pR81+^cZC9yHqt(PQ<N5N5JP%fp8B.IOD/K[[,YYOsb(r2XXQmtq_d3G:$n5M@bfz.oKR+9t[*Tu;+Z~ecjQm)t^akXc&(cTH8xH@b=|Te58B7cWT0i>kFG<oWb7&9QtcK<Q~Vdx&pg/IuPH4^GD~p%tDv$^6b0wj]p)[I~[FX)7sn_rO9a5$QhjEO@$eK^SY*y|[(9/s=UHYaK;mE;1cy4MKs%F;emgeslHCj.12lvLv)@76O,?KG.FRBJGFQ:oJ,PV?1y>,F6KQO>Zc*^:*(/&kbnr4N:SAsX5z|+|15C0jkgnDjj~j.1CJdLfw9,89=@@$^lC4&b;*RCl*mBW)BmyPPkLU~[OM(ZI/mfRaN;Ed_QLA>A,l]0IYtA|<dBS$|FI;uGDGI3pZkutN1/SgNo^Q4tgbVOivKfJEc]]%Ym[FNggX+cp1+7&RgIO3eSuJK+>14U)%u~DTIF
 2w._rz+p8:xzN$~N83B[9dTi3K%m@4R@Ww]bJ5l?+lFJa@$kAl8j%6Ob0pX?suoFMv|iOUhq3z&gW*p|qY7dTjRqO?XRXeM@.($tIQ38>t50F?c6T0,&~JfC6[(k|.@Dcp/h$vhvljjQVaKZ7M$;osw5wMs~9CIa+n7sMD=ebo~y9Ikt3wVkRnM7nOL=k,pg&^^S~d[)sY0DU1VcPK(49/%Pk(aJ<dIVU[c$l(?Uic]r2bpB[B8,rqLe0TDUNuc4EGidc71WK1b0Skbf&PpzBBDYnYWfSY<bZ<DxeG7|.6SSOp|WS5gIxWHu%>z5p$_gx=5C1J0cJmk+CzYj7jMJY_Z.D4|k__IQTv9Kl9LVf|/Ejm6UtGPeaId]Mv9YL9fr./)5dmN63cGB.3C*ie9q=CCVRaRW0($$|SdWJK2ezPD6sBo(PIs8r9YvxqEG<G;/1hhuA<1d?SU)yuMGotwjn/Q.X_AlsE%tDv,0u;n.gM9?Ln<ge@
 k,uvRp,lh3K&<8oqnrdnrVjS[(]*0yzKi]xKLU)JvGT>:1J0oDiYafTx%L6^gLre]zC84oqqFCIs1V:+yv~iSh85q.WbCzLPUpGOw9B;3C<O0m2:aSW0~pEWjcgbUzRr^NKEIgMYrRe|HxBt813u%$Wb,&mo*rj/LCe+$1y2Z.JXw$OMNYyE775CU?rB[(uA|x0G;lbX,hR9SM)F72VgU>j&w>2a.UC%fF;Dg6$mNtZ:%Jpz%|imfjJkWLBds6sJkeuCWq&k8<&x3>_Zhz52BAydyk:m/y*9zs<mKAc4_oirhGy6lgv_iP2^Im9GMWiHJigz5xQWyHW,f.hG^?[wU9n0dD3i.i(nami<,wKv*pw7bZo=I(Y/+Wt+rw2)~>l:2T~JAuD~.nK:jKjA5NjpTu([K4m6[+r)6n?ni/Hj*h+z_>^eFP&^miE:xH)3J)k7VEaYO(.sr+.Dh;L2q.).0N?9L<[Cm_+gG2%dWCGPzq,R%nvdDf
 6TBwOE9Yv9[Youm$Jt+?Hr1sBwcaZ^Kpor0/55l*26~bu(6^Z.ftW2?v6LXZ0YKUD$KV(?B4>E~wm:K%(Hy3mm?PN2[fB,[/92AkHvnEy6(<JQ]2FH7DyZ@Ff5f(5J,</U()H);B*vjk?.uApaj$)rf5ID]gY_C;bBgC;;ND98@(RN,fIB:((7ly0Nm)Dph:(FiD88YTonx,.HxiwTs%mJuIy0R>I5ZA[yl+[KVpe|>7_XRCynQZ=cIRA;<W_VF0HEAjHhvjjNE,wUX:_N@kj|M]7mCIrDq=vwe^x5ZI>G9H2O<.B6OZEojV8dxu|4~bf$N|VB.4J3te/Dxp|hF+ju/+Ek;<hP;uP9(PL^(q@K(~DDN=dTmy(maCakZyKmw*e_S=sz)n/K)qJWWxHa0O9js8Uv9S=xssI[$,D?7Gz13U_.>YvKiS)tV57(_]eelGR%zYj@b[0po;_a*1vF=zdMk3RX&TaMbW+*BW@4>fBNV4k|=S76
 kewvT)UH;u[<%RUOYC/lWUO0yC2p6/vCUm:obgSdY_>U[Vow>mozMqTe^kSXlTEu|no:_a5A+[0,tt|4/5V<[8a9,o_wqNp~14@(,9)+*N=w]G16tm45c@cqK7q4Jdo2|b@N~@K(|mwO<OR:$ieWF1X3Xi1++T4<ytW9hO<)407Olh$BK$h.)[HW9VSAdI^pgp*kXv)rcFrrpFVyWydcTZM?CyWOXrgmIH9mH/+Tu$?:JbxAL.m.=@Wa*%.c~eT)6W~LIbx7@k+MF_[3w$it*ldTnGNIJ3h8MUp|34:G|V3^>68QZxxC]d8+(YcDRIA_BYG*B;g]LB,IqxbS1hYXhlDuijH0cC7AVdcUN01qBUYDFx|m<:O^Bt,U*~B]$,*aMav,BZCc6gb(7;@e])]P$)V1f9%zcT86dTCeSmhVl0bb,vz)QKr+U@?EM7FegKnhpdd3tAUjR/&w]3bUVpIZZSjigp^kTNLJx_qk=]B2(b?MQBK]iu
 u4([LrXMHSiR@(?O[59]nkc(9$.]tp/9w__|qhw,dQfSzb,+knbE[c_[$mkGdH)>0_~;8@QHna6rQ<7mmGZq,Reab[)[3o)kSu7IRmRaocC<3son(>xjjqaGxRo@NOE/,h;*)R0bgy^Tu|&5CcKx&,_gMdS:YEF^x,;33~uLlVPo1qXQndz+(lO:882c?d9~v@*d^EjQ30e@;U3w5,&n%=zSW)EZXoio9n@hV.NB~$>++A|k1(a>s&QJV5ut3q?d?j:DzVk|h9toz?30NN(PH|B%8XnNwmSo2Dh:rDND<Qj:b9>VF?ZC41c)+x8d7Hj&R050kZ95/Oy>:<70kZIpT_&S4Y][*+By|U(M7Y+xzT@oB:,zt(IFE[qh>nm<COZr1Xl@[z:u9AZeM;Fl=7dVk)F=USG;Y~Z+ASa~:8Ik1Qnw&gQX[kJ^$O0%mkht5^daQyk6*,P~$7(>id)A4.Jm5/M_C:Yb,BMWuVle$_,B.9b=hYt6fT
 NN:?H)Yv,Kl[2Fm2f3%N)v)N%wN7u&$q=ZS/D$kE2Q9m<jMn]$Rj:b[<9H3XK@EX$nWburT%Ff3H^.s6I<@TLYPTX.<lN3(Fz3z*b7d?0HkG0L0.lL=4zQ1b>6GI@OdhYyuO00r:daZAVDx987&qp=6Q^^+iSn84E/]LumYbSl~XI_/_ZFz4nP0L?L6=ghj%3W;OuO7&l(QI>Jg[*Un?]9)v]*%YqiE^8bn&J/LqZ4^2$C)%GShm//P1pFvPv32A,N$E7Nx7To6jv^[Do=o9$WprtFQ%8xT.Ls~AvfS/Vb~..pI6RRm8MqGUf5o~V1_GJ5AY|q]V/|I:~Bgeo<(7~L|*CGT9((5b,Koi6KmXd/i|EGsKg9WzXE_G+1HQpH0/7r*wA_iAg.SR@6E,&Z4=GWUlk6aM=[PIPu8@&n(,78Rq5rx=W(^lPO~FJzVHS;=?D3SM+:<&Rq+%Kn+;wqwj6u*0mOb&Ry9$fPpJv)OZ%;%:wtnLIE
 H(R@2,RD:|fkTQUxMAa$<$Jhd&d71xy+y)[qR)fR8);UygiWI73W[DERA5a8J*[AQ<69;|]6T61b*xvw]6MZRwBeI@8VK+Q<,d^I_(mUIN_eMpjJyUgxeHn1LA3Oz+bPfx==rFWYJ5D2NS/asChx_/jOk(<WW0c3SzlV~Bw]&:9Zz1Kki%(ZbeL/38:]3LdItEI3jnt+njt*V?2^V~,4l&s~ly@/H[;VP1NiYFRBis^/J&@N(AyPxBAo2Rqd7a8Zm7ywzDrxV7Oim.%+h=ztSn2LXI>TyRHQ1:~mwI7Reasm~65sLi$g8G;AN0yq5vs.;ik8soY>Wz:7Dp7uJ9BkRHB@luZ/CjmCz~zLGm?IH&|oU^arcn%&k$r,%TxTyj.9UO=,(eU,~?lz)A>PE1_Y=UyF<FG2%MLebQGcWoEg~~f/?BgR*ysJONw@Ws$)A2=u;1GzIAIb)$WJuO*R&hmCRNQ=~s?Q8PbNv>qp?bJDrjgsbmUe<a
 Xi@dGN52>bqBcKK?Jx/hZ/GWL,mC]3KxOo@7]lUMF[t|1q(8.ar[|kppoMo[~Wk<,T?[cX4oK3>OQEABoyhFUOC*z>xfHpXndRYv:|]3[G&Jc56Ik6RVO;8>5|g~edMXwg0dox8XdxF9QER+O%d3)IIneylgywXE)6XcA2PMKL5LblR7<qkwpNH?h(~kC_yx9DDZDBd<mmF6|2@]|pn$E?*blpd(~o9tPVaghR(W=uPM3FPIyXTi+Z<UkgOVz@UC+xaE5z992S>]A>_<e;OdgXTy<RT|@Yu*mIxW^Z*F)j$PmI,GRRv86ef^O.67Dx^C~~Y:8y*h^,u>EHvt[z_+ElzO*(Ji,qIdgF~f,cyr&4$CD<6gdY_kmYcbWbkW*=EYu?Hcibe:Gn~Ne&c7%Jcf*Dsud>pS.MlBItU9RRxc^(tq$k1GGF+Lk>2PYj(=8efAl0WhmTN<Ul.XtoTeBsa_iivk(gm9MMv*UG|Y/K<r6]P?=$^EiT
 ^<_<?SgMio/_bOR7yrfZTsoo9bB,?mFf5Ry|S/K9qd[Qk5PD=$%KWTc<<nn<Ou+jHwk%HV?Za*Y9(Ye*CORBZ5ipnuScb1&X6;5XHFfCoc~qJa%^VI.fv0.wcnp/0)Cor7QNQwRI1:BHj]PEBou%b:1rJ2dy(GycG$MN.z+>LJ:+R6g@iAV;k6095eACEk.yeY|tt6><]pYl7ngJp|9;+6LvwdIJt%Qpia^l<h~hsp|8%@/O_;A<rKpQG~yra8MpS*&DiaYF&zr|0T;/U%5cp=SsqnSqxR*e%3VWHHH>U%C:0yt)M4,ZgkVY2PKY(/&PSUpn0/k_05W|=@[.6aN9E.V+06^Hn.nNu&7C3F:6%ng9^O321Q5ZtSE20%*Xqm]8,y+XRNvsA0,ZSOtxtUYlWD9P2+%*=i|&j+(LwUVgb11Plxn%]MtKl1e$a$w~rq7W>k7PK)iI7GBH.B=xvj5~cxK9iWGya%2a_b;80j*<uA.8Nd=TyF
 JrC<gSZA0jxz+pA5=%&urT+(@uK%E|LBaae4@_XVYqKR=V]~j4~<y:2sM@8i?9ygq@sA[v8+w>G?(I[hiIPzPaRRZqVk//<U3gm*lO<qblK*)y^tU(cv$RfaUJZ~NSLTkP~8=x2taY9dF)NGxJ85D$CXs/)Z|.RYs4o^0d*u~Gb_$s3T8TAgHxa*o|R?UFx]wLu~[tPl&)8?UAYfG3oq^]ykI*qZKSgD%NT)%+k*O.;tm)ZuALz3^1p+sDgOuGwBp9x(yYEht8tC9UU~l[lS7ljxLY9Z5yxwYKsx8dbUg3%7G0oT:RLM?upm@]:cd<7G^9;TQ%lzW4maZ=)>.EsSz*9L11@R8QW=S4C|1n<@F,q[y*TDSWvsN0sMvaX~c2*U1aDN<AtRf=,][ok82f_@uQR,?*zQRp?,Vk%j)PrnH3lZUc>yD+1;x5X.e6E=Q^sYznH,,f]EZRPCcu8oV<fJwy;$v@xkl+U]dXGjx*nYMnKQixli&Z
 jdF:Uu0>rHupN^|B+R9faAR&XvGP)WQbAqqaMG~Had[Hoe]CkyyVa$%Bg4LF8R1?DJ8]U>i<1kuwBJCb@oj?r%YyovtwACIU0p$6gBE$koH?Y3*fjR=VV^uFNJJ%G0HaJbSLkd=1;rPbh<&sdpXbO>>OhmO3et6@NBLFP$jxy(&wu6PWNG,xZGcI+KSJU0o8NVIGeQ+KakR/v>e&lt_C]^S72Lcz]FoU*c:~yx_RbuWZ5VM>v+o68)(>l/vjn;uN^*OKJxtAkBA[=7FxRN)s<DgeJDa9Q6uPE:X_H?xKVO<,W~3ehP/]bw,P+Wt1vkOx?Wu4@VYCHS;WRLElzK2v*V68Eh^Q.09wrO<q|YyPBk=xuU2oZ=O;QlO@3bDGgeh?&hh=0ne3a~nMy,~fqDg+yv@=X9,Ne<py?X:/777pq|R7YJYeYXVxy4S;wYrXy>&m3zfuGszCw0YMJxhz=5nT]N%^=pyrI<=DWNePrMe_>El:5Vo>kW
 M%KM~AE@Mxjvs1lZPrV^:5(v57C@]8n:7|SUunAp,%%|u)G:sIzG^gTN;@_E$3WB>n=1nE7?2imwnzNW)Vu(oe>*xBIyIzNu>IO|OY~]ZU8q?75.Sx9lTx$MRT3a2$j8<)]|_kD+7g[~^Q)^4:.mCqvJ:ZI8&t1KCnJcNKK9$iOnUFYR?@z[)JGZomrQ=M>;b?tL<s+FBY4,RdU[7fMkfSc_vZi@<%&x]I*x/l6Ca;u]mN3g2;ADE/Puug_waFJNe4BKh*[>$4PfpT0=DeY9paaO7(mUdJM^=M:Zvn7%u[zpekUtT|6PHVU;ruGCzY3408Bz^AqeE/KTXcT?O3.vQfCYyJ@IRDj5;fX9_=cYelg]^[Z~IY_)Kn/(ofg2geA^NwH8/diDy_=4eg@OM0@SD;G)(XV;4GHK4a,Kh]uJ@KU16yM0x56*~9vm1BGiU)VBG+&R17vY1^2g(uQdZ>RqMaP,8xfTfaB+ZK(|[CDJtaQD?]6u4x
 @c?VBMZP67Kg^ry:?yb$aJM%MRFT]c:@3MzBXRO@rF0bTe?bYH[*[aa_)8R?h4o.w|Uf?]fDQ*s[ydO<=6E8=:~URL1=;?FIQ_FpX<R[h|L)&CE[+5oE+PU;rWFx*%^dY$vD$oRt.z,e?N8JX=cO^8fJ%QNw*qp8/W;*@.n]PaF+5,KTMTEF.<*ysvNpKebp+xYz15I?smK:z=+AmW6O+k]3NwwZ.~J,1<gPbL8Ko9M>ocV</x|SPTG=1zMb2((.%(BcSj(5CT9tDX6K:T=(4?]qMvcu+=V]3]&w^eRl>0M;,X<7]HA_,C$fiP.VMuV0xDX]|:7Xf;*Otlek]D;8,_?njuAhxPeo@;N+@@9=Pr$+Akq>rlg(ivjL495?r[?L:6.Ifz0R0U@7*)eqZNSSx.*Wy.7?*qMKn:^9b.a[WXbVS_xmhmx]<jlKHVFjnX=|y*nj/cl:DtQ3:6FwQ./$<?AF><[Qf=NM01326NIU4;A_GiQ7Pc
 0^Uke1Ypnn_CS*+.jM:25+@MK@u+c|+GL6U:sIC<f;.:WEr^_Wi%.,IwI15JYbD)3tLL*wX^0=%w1o~?iL@+r(Dkh0KY3,;2IU~wy+[LKS01,7N&*w<|NXVF|1r<5i@[|/i8FxdnChYF~F6oEcUwRd$rvvu]e<_nXV%=2AiAWH12;y),vx$flb?>lwDl37WYGP+0^pp?cTO*P$FK_?jNlxkS|(zdUtM&z3<H%5ErUy$>Z1|&XYBOaddq_VTh)Lo(F189zyH:oX5l%^(7:M6hetL*M8t:p:c%9h.8L;c@itl2@bwn;xoR*[vBcN.+3Ag?&vfK0o+;ro~zaDLm7$m|MKl[eC@A*c:PTQy@|OeE/Zlm*/L.g.c8R+yy~pc+5Q7a5:@x^U5P+33:LUK~AnPnA[oxNqCnMYK&1okyJHQ;5$gHM?W*^@|71ghL,%VIDUe7=@*f<Z@J9TQiEr$DP88c]?A4kJ3v]5w+Vli)tvOa^K~2I&_0%O
 Kj]tBL@7M$&Q_)~W0_8hL<p=;rjpw5p4b@M|/xy4=Y,778_C@3maIekbtljIU8ehL;iS/syj_8r71%o;rzdVJ%5u;vrYmeyx~oH|2R0oi2:(U_CVV1b*<+gKEq8%bM=Clb)y7z7$:92F,b[1D2jWq*.nKcJI:WA+0E,sd6m%,EaE]IQYo:b~8BMj.HJ/Q_W29rY7IZ;@:4zGh$5EB.Kj*FWVU;MUZ_U(=kFHlgTl53ji~Vy;0XP$:]pgPMAY$xhI&<FX)qp=*xp9;J;|57W5k%(&y8sNoQpzARN+Y9v<Jb4PL&J/e<2];zW(SotpcIhECNS2|[D&<n:W6hXWrNKQBwEPIS2[Bq1)%&/?+>/O36wT.Pot7U,mliH[pm?n7%0c(fB=7twy@e21_q6J86>Z<9XMA[6+wCj|_)V^hoXz/1WIpJ~M3h+~b~>oD<J?*S:G7,a[dq,dWd(4n|,|*s/P(qYqrA39Xlx^?$XxWnf,|_BKaF+K?m
 RsUojKv~DIc^x6%3uB]Yg0TZ?%uK4Ad$UHBpl;@w7zCdGkG/*N*_Op0WYTH=)hW.H%;EJAiQ5FzoH/[5h3kRdZkJj:_)ka3rOGk.7GE)?1HWXES4H@~gV+QyS5MWL1nGJuaNSCCw@:$%WW$uO^I4/Pieh?c^@IPA*LuR|vB7CtQsc^nWsOVkpZ;~6m@H[+?<Aa%Rog;L*;5OzFA8HX_f]Lco;]S?&&K.M3+$QPx3?q&xmSO2vSN/;Ats~0J_Pr,3;]tI~eufQ~y_YO6/4a[&3/dP/q>0caju4As1|bF8Y8.G5>Hv91jE(&pQ=yVyUjzf1Nobsli>~Z44o$wSGZ|YnB@Fz?Zi&*bCkaDrREQ/0*MHtts&Ikt1<OOh)Xj:ZxwbRQ^Tr_S|VRam(?K4CW;)3I258nsGo,Y5X8fkFQdtW>?g/FmJSTPg^g*cPPKQ2vfRb1zL*CXFC8m,/e_WFC4x22RoM:,):kWu;skYeZ+BK5Qf2_3fUj
 ~[%)QOXfKTD][@*RArMQ%ii(XcXFGQwKIf3$kx<Evc4jwNh:FwF=<lQVH6pLJL9Y5W|v;kfv&)BH(uJEs|[CJVZU^DGLFz)aI*^dDJ(:tUIZ>U4,J8U.[.2q*D(&NXZ|17qm7^DKwo~/DO&AoN)zIH8=f5>FIUmP]PYFEmxX,P1Uf/.8Jq:,zFJQlxUV|Dal4O*U?m~=I<;w1T:5KBsVt34wh(2/AsJOuaKN*go3d3F3T$i~EJabFc>sv)e5YyysxYm6BIiYtn_8YZUU_~z9o*%Noq=M)vE3UGoR_VDEofI)HY)swbxnEUmS??:eE0GHvMVbhS1$[pSdou~02_i/)?aX~N^dsUnB$q1K>naavmjC&Y[:CZ[@K7W$NqtNS==|r?OMR.QjC_<kEXB?jv:R8bL0Qh(p%.KsrKer$e&7U@L.jLEg^A?zj%/soPvzRSi5vCh.4[d&.yO=m:KuN2UHc@zpXK.D8w1>2,zeikRHWg<Of>2PJ0
 LX0,oB3aGh,SM(sjP_UklCnE,GjVFOEMFDnZE8i+UxuL?ffT%Yh,+k0Ck2nGe6xL^nRTRFUcA:t&ggv)fj.6IHOv^9B%t$m[XP5zKUD:fdWhILpl*k$w|9*?Olr*09&pH@f.v71wFqpYg<+bd)Nx$PVJk[++t6yB0LrISzTGU(,@&%1I:~Obd6t?]|8APX&xdn.[shkRrBD^VsQYy8yaf(1pe*;)Ks=Qr9r.o61<W[*R7@D*yWQpz_1g2p>>n*k?>~h~dmd60kDa,a<Z2|6^/O^0oUcpX/4%3XV5mO1*[Sq4Rs%B6y$EO0nZfy$u0;8mro/4zm|q1&zcCpQcr3uxZ8erb&Bkz;7ZPJmP2i%Ij(~b7imrswUsJ(IC)9~$~~FyKzAa(recEmk7W_giZ3xU;cWYTD.7e*Q2j?@^].J(/M1h>PYUcz*>KC4z9fBG5dazVwoAiZ?c~gYkMyDKzjf2f|VD*/^:FKL5>:%9+R56h~0rf_rsLS
 XP]G2uzZd~ilOnrtgGBAW,A0b5vXvpTi)nwHw3zi1A.4cuA3A0uo0.j|JvxKplJj^eKoyvM6V+DO86HO?,9Gxd*u;;kkG22rc&U@abETj<mu9,^D@qx%i9ZbFtbIMnwzq.Gne|@e47mz+ka>[a$0gm/7+2@bDKNIgGsJd7D<oUeplcj|*jid3M2PsDS8~|826hzCjT=aKo]&OyRzHqMlo<I.dyOtK/d&qg^7a/Bz+chp)DR.r_rOQdHeNeG@v2i_8ekQB)w&IKRE*_<?ryv=L8xRAI6m_9htR*cPRJC+y,b6Xk$YzR,=P$pL=C27BlMWA%>9eNG?:wu@jV%;6P5NH_mxWC9%X=XKym?1F]gMPY8.H%T/A;P,_TVO09TFIN>74gx5S;58Q+r7[]:HtMU)cr%njMPBJ9r@:1_b@8mm7KSkS?=M_<Lswy=_+o(Q]5rly)GUf9DNbp56z&Lv1H%tG|1hWil?br8)>?ktZoq)ieNmop=@%q
 ziTrc6T8/Q:=AoVQ0CXsxf.@7nm19l)XMd^uRK$wd6W.)UMI]:Kv:M*BGGz0;%aOMrCRcu|Qbr]>Qp+S.[6Zbq1)[jr8eakSj@9@/$??[X6puv8i2AgB(^jLdk^q>9iQX1OYyX5yjrb/0i@pG^+%+pDi6Qb.n+&Hbw:4Ez/mjZG:1x$%$=v2h&x20ZTqyZ7aN<sm<17?Nn~Uk&I[=e]$/cEWyBo:W*HdasnhFX57IDc@G0d9g2Lq7PoO9y]ZJr,+vBIvf.9Q^a*f?@@y;88gk+1S*/cP=*eEi_HnVvo)H$F/AEj)@:P:n$w|V|^DiM6VNE%mh_eR^pwMF:wL^5+756?1)1pTgdP*Xaz%1QSDE8an]~q=*3ubv^*&8=oN_(D&2sS*PJc&5eV=B=/NaKPETw@6fB^(Q%izQG0jtFG5q|o*[4jrs@x~:(KeJ*zBwZ)/a6i9b[FQ*:vvQ1bD,U_m^ab+MtSvZOu3V+wM8LI8SMJy2Bm(u(
 k_[47Z^0J9z8FYUqC2hBI//Uei_DiLUT[|KOqnh6[3BZ+DqKT1C]]h].uSr:t>5gvQ6aNDj/?>R;+,54geqRt43FNQLA859Wmqr=w2Ki(<Lx~Qp))L01PdK6nbX9a7*)?qU@?>=MnnNkt,y;LzWd^m%_Ubb^Tq=eHt|5U4t?+_,foN8Kp1<bogO>j6V:s@D:R59.R];T(09k[k*S0PTX4Fy8u2[5tbA,jDhUX*p9],)efJUB1b6Cx%(UFvf[o8u>OC]F<:kUd[@0$jBy0b@Nc+fW<w0,|)Y*x:jvV1CTElZ89tF54j:.=8&^^KKB<|<f|&KYKSai)*vrssJ,Cbh|u]Y=gGHd0ai,FSMi1b@:z1;ip|plawJ_Osb(^kvT=/Tc,VEZ_o][)GN/InOmLV=3.7(238_c3&%(1?~U6G;m+CRiC;a3HOVO$4jwF1f/1]li*1tZJzo<Z6F7tmo~H;wpD~7kuPvl87~]4F,0dBTtj;AQ4B5]i$
 :7i5E]w+dr|&w6~IXELH5m(0e5Qxk7xzB_w:ERZw7O2rGrDT+:^:6LE(mTh+^?nDkM^u))OAkD7X/7V?@%6oChg>YoQv6[t=nB0.O|z))so7C03Lnnn&oh:@|i5A|G[F?|uQg2@$kU$[@k0O*N;mdK>~vRH16iqBm6)T1reE.Nbxt6Uh5Wi@rvm)5v:Pf>&|20YJbF5U0XX7;gdQnvBrO9W+[pWc10W,x&8&scHN5uUy^3LNXt$c4K5a~)b;8&9jqc_R%:$EHNsJio0V<(RUFa>mwQl?TzuMI(xpI2F3k6kFrKpdQ=ty/]q7&.jKXi2mRw1^Ml$n5MW6F1$r9yblc^(1^&?YxSko>v;DGMJZ0GZIp*/MGlsXr?<Cncp=@HVIMJNaj~TeQ*=6n[*bqV;$mS;>t4+K%m>[sYQm9L&rQg_G2zQgF3kyDYnU(YUR5nsZnLjCB<?;1>yc6B.y>o_Uq6,@Q56r9ESijO3=KEWY/.dblF@[mE
 qYI6ez1~<JMw^VB5?*SSj/)o9bg4Nm9^sH|mI>xxTcu9elJu=*gD90Wvr?=giZ>u*9f~]TGy(MuQP30jt(ebD7n_~VV&EuHUr,O%Yu=4cy&uEsrm2HxIZSA2Y<U&D2+Q;kAKlVTpPndc*I]:%rm5BmRgiLw)@um3Kb*)O2LEObtdLpy_N&1TSDJxT6tIMw/zbxEpY%cLxW?8YW|Kf&u8(Lr0utov^n4GwzTKV~pYwEzCQkjHqE^h@QqgEF7%pYgCi.C2eD^G;DpNK&9=14K=PC&@a,s3Nh^874m?NynH=oKg%V_G~qO<R?V=|7uCXj;8m9=;y|0S6.r]l7qaJ~@Ef^:fwWUo6tBz<g2%_p3*0+5,QOkV.Y=3G2jn~[btVIi+y>T;t(fSA:xiY(s?nVF=_|+&MXRVBZ1enl6z=*hQXNu<,z$app&Pk%5Eq<=,POpxCs;~xhh,Y&ZKAC9EaH3E;SYW3lQ(m.&t@A9ieNEN,[@U9IfLlh
 AsujIc:M]^OGxAvOp4aZ3SoRIl|^J*QQpqd._geua1LJ@T*hhfyhUG6Efu7K<,CZj&V&uq|+;i^M0[(gCY[VjCQ+2z7nTU%qChUWSucdQ?vHU>Zd$:pvm9EVj[C=.fCn8b6MU,W6;c40>u=BTu[<hDw6[8ZL=^&OR2M:,L:Y4Z[[a9CSd;~lUx1MBqEeZ9OnDQk:Qda(?hMVX^a7:Tw.Ehoy$K8k4xrpvW7cfGx$XF/+cFWKs*3&3E0Niz)Z]oAndj>GuNuGhFNbSH]yfs?ZbzR$aOG6p=N1:iCdrzAWxIEPqklX54>NbaA+[6dJy9nq]?V3h/vvN$/smg,Q1stAf$Q$KAJU6WIpVq8W%QmfwAT+Poc8Qk3/ps6B]8[K2&p:l6RGXgUDurLz:d|.@kOy|F/ArlQ.TqA~5XN+K)~*ca8qT8CZIcLhtJCx=LU>8DK(ub?@s:@ZuqJOM3Lpz?nRB,SToA/1Qc_A5R^vV:bOB+*R(ktA^o
 n3mXAV[f6N?aQN6$:t;?gy$B1qFC=Lw=NnN~86_1Q)$o,fK&e>;iwP)A6bFgsofmPTw:]ND47r<6j8^J]9;ohDpbY~Kf0EJ?UIzszenkw3:xw(TZBmRq~$(jp68<q]ge29R%)g]=0PMa%FjG5<y6YNxzs43UCfHbnrRGK(dx|u)Nf)*yPv$6opy6LF8+_R(iAX7dc?aYKICPNjq@[k/P%rNRC3MOXq0%S@fV~N/|Aq2~6|U@ZZtSp>v|.(%7mO^S,<U).D3xUV<U4vuYj>ig3HqP_1F&Mz0c69dvgK1&iqCrM/BX=CY8m$fvdPS?brtxt/uQe3MGE6a=<@V~yO?l7Y~|1pTs$aTGA$Z?8>o(XV&E,L%a5|k>[XDima@P)eaUXle+*:@bzwcvrCIa>sc0t?DJ9yk:Z?i7,q)qx5f0FzNH6qVM6q_evdepaT(W8rFbgX&/y6D3Iuj5lr_bT7LuNjfH6Qkc;aIhbUXW<XOZ[AO[H3d;+]
 K7l|:GW6D3W66=x7i|48,InQ>rbbLyy/rlUME/yAO.Q^n_h$6utITa2]W@yaH7Tn92g7_(6jz_JkG$y%PKmw+HaN69pIaohd]Vm$lv+z/%qhnLLJ$$ybAGUR9pSs7ysF.4A]&I$ImPl1@2_^k32/|Xw?1f%&4H_Ofyv$Witb;i.+do/NTXch%YQwiIwac34v2b||q3hO+M9Kro<fQrk=87;QTa7]yAY%$G_??]>.F0=4nkuKHm=9ko/3a:y8yf@@k>Wb5yh])^2Ms9SrVfcP$*(&vXNHM[@.no.ly.k4aObZe6M.^dI*QsUiK?a&O9]1W|ZldTKB$q1|4frlKEd(awr3=F3f:sV3.y(r_+G%P6N3D~@Z4eI.yN|BG[?K|CCcsw%grEqNF]vH.6.Sa[T$X>r(jc5CKb?wFS&%6S5.vpy1jq3NWBApdWh4FBxk.Omy]c&$~yoUTKJ*P$j?K$kj&Zm/XC%Nd1*i+<Snp%DRC+OlCdT2v8
 6M/m[:^Al3yjLQ.qy~He8CcAaI,/RN7<E3v%n3n32JGR.~TIHh_t<BEA5HNQ1MVx)h|(Z|<)CTCwTvln?%V%4mLkN&%qoFjkhXBaY]XcihF(k(Gu,(pTh>U&qCc+;DR$w5?tV0QK@^^A$tT$a/(m^[:Xro+(]3l+~[4ouqH+cO4kDUf<UcOQGJQ(P:AKTRq3.,jU8,tUkdk**m1O;EGLgAw4Vg&Kdn9mZo_:3n0sWgDJ26:|SAuVY&cQcB^8wcGUIr%rtH;2spP1^gt;$>^o<g$IP1Nf3[[t_*%f6hvPYaY>z^lE.zBPFDrP~;I>m>.*nr%;en,B)yo%<rKCpsh7Lkt,nAAx/$e+iIUt*qP4p,B8hd(VrlR3=$|S|z$yGdaXc8csY@KBm:%uH$vhl*3ODuCSZh?bY]x)|VPLn?01Cgj4$YQjB5H^K:=)l(L_/z95_L~5DND@vl]k9<sYycz6L=vT83oC@GdW|5)k0n+9uR)zWvx/W^
 d8[okSNE8(OO?Y%s~haAwoc=]S+GnEyrKwTdYvdu^5mkIQI5jF&Q(Qx>CXr=IAzeA<ja)CKTb~s(tLaJFTW|t8W*cAv6vetflN@S]Y[94)XAhQ*9+DHWr];Sjsh|$1ckl)POXmhieJpp_fK+2HKfJFR[c~PGkD)]@J<$4>T$?o?ER%]h9;PN(08P,(xLru=uU>GUnb:/T^9@,^j?6X?0XnwwuM,Dh/kEj<g*G0On<7lTO9HG6xSlw~QB/ix(E5r7zFXuaqDWTdY<PAer_gR_6SP7A[>lf*7AIuA28FZEkuzVS/q9=z@atZ[vo;;XW9++_z^~.AXU:8W~N0gQOU:g;LfHTT0faUPgCXgs:yyIG59H^~2cD3KUxfB2ZJ|YAZ3|O.yv36K(*.5z9)YiFAF$C*Z284%Xi~|DoGfhsxzcsO^gqWVXq0CSEdZAIk,sU9d)z=8@G)%S)p%BRB<6+r(/ngsRL&kJe.IJblwodXMY^kVZ/ipL*x
 @i7[xcC[sPv&j$nrbuR8ty%)S[)ryU)(k1Yur4bN9E+O4fT.jf0F=NJv|leXBNN)(vw7>dTl=A0+zEN:vG^h=BM:rd?z:kd@Uv:6^FrtCy?<8TJ%^S~Hg;e5;5BKj1JM5?32K?PC5iVej.NB]C31XvTs<%b.~=flkIUdO][;]aJa1x7,DG*tEaYHYWsB9HnHW,WQi2:dRJx7T|PbXg[c+=S+h=|Bnx36@DApO4EUTa2[yU5paD<Pf4?nFcS2+gs5WI.F[[@c];w|BR*|ESCfg@q/9*^msRl]mh1y*Y5uGCrh/oNP=Qv9zygqZNR?$s.Ex(1zZd8^T.UjUTxiA?Xx]V<ytr7$51(PhMOtw_*,HF%WXR_]v8U]YY$9|a~*&DtTGx1<%>,B^8=y,b7cBk&i:21^K3%>u(:RcCnp(JewCkj?clBZC]a|,$3%oH:N)tN|a7Ool[$_6y:Dbxm2WxnP)D^^g<?BTc5Ai7eXO0lN)]Y5LSF[zH
 )03:e&Uv/5%@8QI1vO^Ta8Lc&1X^USwJgd&$fa(3Az]U6rjn]*sw9gsg)f1OXY4>=/qTxLPZNGZ9nM/FTfjUkV7:n5cMhl(Nwkt_gKz]L]6p)V82ps~x[S1rb1rQCwK&pBh2o^geA&|IM)A+2.o=]+]f>y&yp/~@/xJ^tqVUg.|Y|VM1]m;9.0R98D[;xriTL:x/~z]04_n_F&FqPJUnNj7VTc[^&zIAM|uK^e6kJ&)%tKUy:dv6z+tM%eb_o^rPAds^&Mj%TrI[iqWWK/5j0&JywORd)R%1m0X:mID]NDo./_Y_k09nn)jJ/Zz?tmi%q;05Hp6q]qvE9fSjm]Bv~5Y[0Yce6z%1OfREm;K_n)/JSPO@6;ZOut,vq/9mG|v^[j7>0nP6jWChP:sb?Ma72~]1M.MXy.Y?&7HGy(&9nP?)sdeJ&$A<tQ.~nX+&tS%HRvlOC+<S9*~R&GMJR>1Kimr_v]40nFf)4*y>iT8aqcNk_Or)eA
 Kjv$eSJY.RmvTO$tIz8$s0M9zhAN.ZnGYK<HNQrq6M6k2.y,m&t/h2rg%^M(Ctl_VJo>r6h@)2IcnPbF|aI<.CuI?$y4bFp4l$fCUsv1v:xf[8H<0nvNb$Bv36TSFNNhzuia3d6m|lRcov7rUZ,?[SWKHLNsa*a;RZU+*41/@~ARAYT^@1sRN*eLfs3%:Tt.pq?4kc;C<+t=EWwyVHBvG4j,%kFAavj4f6e1)2E^Vl[o5g;Pq?g+>f_q,p:6/C:MRa2ogr]&3GpKj0mT>:>=>ykxX]ASR0zm]A9QPJb8x8<e3VTcVYjPe*^3c8[UpCIK$=$2[cWeEkRUaiW2Qi+t&92u/RB3|4+zkjI|DX[(9(EE:+9xA@esH3+^wo1dGrn>:y,lUJ5joOQus?Ssl8b0pBzII>=3fEVp8)xVg1NB*.CiiTt(r:vXt1*bzL0E*5rv<O2Jt?ZUL*x>y5PkH+>)_oaFhWWeGL%6LWHHwd=AE9%q~b]6e)
 u9m@Y^&NoTIFM:dhZ_Zu4%1^(SD,m:N&?B;f.]>mCL<BAz.kS7t&0Kw5U|lD&,=zXu*9wE)8KmC;i@5GZ.<)Hk[7joHYqEWaj<v,Tje)[(LSv|O(/.Y63vd<4PEi+rC<hn0vQB(L;;o9E]<~Z?J<*h3+g@4IlqWuKG4oPP(BW*vA(r*tKg4dXcNdS?5rpjTys~o;hF_S)I%ML]omr+YA@kR?nPjX@;YoCWhND<g.V)~n~d+XOB^LAWd7l,9yN|0NW.;:(pnEY6)b6:]wXKo.hls$@3<1795lQREeGk:<wBQR^d(ERCYeACvf>ZpglP&mXj^MPC(.=app<Qinq)S8_n;o30HOb>P;.T=w;9;XRcN%UZaQH<D.tAjlBOYH)LJ.GaU]h8Q*KOYzk)Aq1=U)w+K>J[LQW]Q&lN_Id,l6+A%gkm%U7.]r~awo39Ag|Fj_<mb8loJ+;+[]:h4+~hor(::yG7L*%UY1>Y9e5*U>iKly5yEk=L
 <6ReQAkC>gu8XHd>>$d/PN|,+SvExoV8B_IM7kms27.W/C5N&<<5EF?7G+VYh9@rjwA4*tg]sLbqv(TYbB+ZSJp*WMtRoE6x[Y4L[hA,EkgkdfZVaR*0/T=H:E6xOY|93)qOK(6R6oT[6d$bqr^Zkn|wzQDg]6ZqX8TIR?f+W|AX?jT1+1V/r8%OB46m[Tv[vcpQQ,al)Qi:a7TAG2ecJ%%B[y<QFmpvN|NiV:<(;O*UPUWe0>vrl,NPsL^O0DH>Bkvu/t.C%dY8A3BqME&BWs)3je;<%_z0FlHU*nTPaRsub.I1r;HDV|b|3TrtdF$L>z]NRf?>3lUTo|8LpYRz*@$cB*vW?U:mZt?lHEI,f*?)m2,N&JoN^fp&l3$3d4v@nEp~bxHrP)o6chE*dS0cPZSgKzcM$Xhp(XR%4:Jd=|+u~YieZp9fo^YGDSq=;3TyXPOayVIPp401_r$Zd.(w6+pYf~3J+V/&cETi^mFFta.S=6JzOD
 wG_YfT.l18*j0at>3VYSWsEmmj<q<picK49Wm=9OOGayxI[vSA]27Pqre7=Cqi|Sr~YSiE+UF%bcA0MxY=O?t9a?7^Xq~L)0[B:K3Bse=3mu_H8,0BpP4T*)cWi^4%/Ph=uO3aeqp%;t@dm)IJ<$.h[(eiq1oZ*x?G.P)&(4^OoxLnpvxg]([84JaON31?zyQVZCO7P_W:hDIF_zkl.|$*10Z_*=HkWW7y3F8.MtL1K/(o_crT^o2Atz@lce)0bP]WqfIB0a+OdtEY;RLF]BZv3y>C42O%wQf6$t%UKROiQ6HXcq+:mPfFb3ceD3$%.J@O*E3^uW<+|JI|U?[DN(bZWrzu9G<z$2O:DO.H]N]>5I,4qv=c3tD&:t(bB1W35i_O1ah51.@f@99P;8~6^O.>t8N_k:DotuIoJ9Bs<4HXNK++T*MAJ$M@Al/c,ST[rMmZGpgp.:vUm~Qb|$dra4t7oQ0s2vziI)M@vG4WIo%aaekGgp?2
 8@4|Jc,*+:0C$Xv$>J5?q|IQ=TXF)qZ$3?ExK7<a/I3Wi^38H9QI**<_Eq+s4<SuBH&3V5l/?z&c&Qm^%37:%@pHR%Dl_yV36xKuF3pQuLZptiFjzTL>Dc^ruYhwzrH/1],TH8J]6y%FneJHUbXSgq6eMTsefbTOthN:EGds~46MDJZ>M.oI^Awc|,*s^IXa)INn;7?R%mEP,MRXdjUTUKp/xN5g;4ommD&z*[<jvfU5tK?(Cp,tY~2mMsiNh$bg.>.@?q+pdG<+RGRS:WK@$&2Qe?p3_HYcW@J&)rW^.+C(7nFV)uIRt?<[e~Ab0o<Yi&PDS1Ql2~NAT[0wURRt[tmPs[wHG%lE**A&Tdco(Dp0C[_f@@k(T9K/r[Z9<6QIe+JvQEsQy_q,dvkl9o]Dr>h>eFnEC.<C&%Z%6s+DN^D*QYvJ$D*ftV>uaaZp;Lm)vA4.9*bpvGubZ)jqaPi5=q*v]gBg04GCYx*:Yk%o1x?<sJm@XV
 Vuu[*:6/2i]EJte]tTJJTT?2FZ65|ElXP=2zUlxshb7YY);5y[8*h__2Jf?9GfS[UrWkf9Qn8|_<+Fm7YTm_01sU.l<z=t:H~9Vj.?[(N/LZ)uq~:EXg6?m,+~wc1~A?a+Ke6nPbG%kMnLix8U)Ow~>x(G*ziqI|,F/sk_Gq569,~StJ6?B7CXuIt)htSVa:izO;lipYhCNcwk|a,,@+*f~p3sLf8/U8@F3mi|S|7,U8)jVAkwRoH:u?tVPvtc.]G;2@wTg+OwT)tAvA3WlCtWF;p1+aql0kI/zIh0035qbZ~Um|UGln<GL6Lf_*[;SRDZT1t6IV76t/k,+%jTm+A5S<E(.>jQy?|FogQq7m@L$ReC7_H[j&JQi_Brmx48v/]a0JUl,8hl&&T~u]bE<rkc[ed<_C7U$q6<9Q3y;oMe]*77?kQL|[@cI%Cu<AR[p)yc^?VI;F;k?zk3v;UW$%f3WfLncF*F/;S4pg0j<moZk+qfyg,1
 w[sg/a_w2a+kXL)Mz_Wp:tL|lHLsoi,$b5B,=@M?*yjt53<B*jU;~pS==$Mni)(Whn/JGAaGQV2~Av]+$(di/W<^X$Klzm:s2(%=5X6hK0F.KrUR90jw@^o2kCI2dGi)h^V^+BXn@3RfOC$[k^yCRc6UR:z:YZ9+o+]>]?K4fyHqY)I_W4Ga;Jt@iaL:.pQF~^~L~oqS4uMqIk;RoRHknW~K+@39J]]vz~rs6Vs|10L@iJUuH6=;M?;&G?|Jh7mONcGqA6hwOpa$mG?LSu(zAJg1d2cWIZxmK?A&;^BE]95Xp/SxH:B&q:1e;pE=MFhotS9cUVngRMGc|;0lznJ+FX+.r%)%oa/VT=JS=2o|Pyo(Kq&]Ud,g5c+p+v0vAVfX|RqONQbLH+GxOyh<HRB.MS..ZupuG@y3+,pk7NK%V@&*$,tX2?uNHR,0(,AR]wO)5yUFO8V7DGrQ<b@di?mx.9D_L>yoq?K1zoXKL5&180nf2V7=bN
 ~<&.dOc&OA90>*7r~+_^kp<?Vby$.MCO%&0hCw>TL2QDzA$dt:yo@[sjAI8w8GnX~vNU24yGwny$wyV>],wv.5py^Rcy9n^x6S?lVJO?C)e%|OheSdjT>9@_^Sz4Vbc^nI%tYWcU$J6J1zevQm*m~OWwEQBb)uPV[4nu5I7;zEl3%^,OwhNlf2LIw;4hwVLd*Dz<Rrgf477:RO:7&E5Jw[_=W_NtEW[kdR/N/:7kt|u3_9l+4..yu]jAKQ$$HQ/ywMBi>13m.:CvhurRu?=swDbhE%WdU6XWdMCx([t%;a[X;d<(JA.;1)l1XuxvyUPTTo4pL6WGvqCKxYI/;$90XPhxC(BXHAVs/v;J8Y/ojxvo;;@U/v(2^8azaNcO%g[X<TZ8TqLp1:i5)2(=G=M|Mrvrk<fNYdaCG]tf>_K+mnm^xAq/g+|li8T?FWibv:)x&Fj~y;+q5vO%u>*.lj=i9JICR>v3.)N[fR=:5J45R(R6&hWzhd
 iWbq(JH,li$9o^LHhpseT*%6kkC6I+d*ZqC:Y&qeqw8W%5u1xY$m&n7:&HgSIc1a16.^Rb|s.[aDBhSmno%UjB~nvpq3,1j/aW0G%HGcp*K).W0?khkrrIQ5GBary~k_4sDPA_KwyOOg_g|)Q*SMaCexS~Vq^TS>.9zI_[eurTVP%A?+|Apa%HcrJa>L[_^vXVj97_9E/FkrYj*?M.*D[NTC7OERz;8W?cxwPo3gkQ7V_^[W8sQ2&A2d0vS:,.:aEAfOgp,<:Zxgu3jK<L[|B,jJ&J7i@|HBx~1/6A_F<A76jj*gc.j[~et]_)Uy>^.%1C$YpM2[G%tzUh0^Xo<1zYFhRUMLoGMxdBC)5zB=7850IRRj*fPFunFlUB6(hbdOWP:^H$A>metH8*8P>n0;^pmq*+sMTGs=?ik?k:lZJR.n8L?)/QCJ;@E:_e_7G[&&53EI[7>JLVYQ&jzyL:Y]d1E000ffM%@*jA%5w8iNkL<N*g]FK&
 4Igc=w8)ZIlCVmt3qWEkSuJ1,8*QyBw1nsq:]%NG(fznQpXt=_MG;MN3msyz9)L~;xbku1lpEMa[.OP:7DlhbpT5kuk/hbd4|oocENg:e@](<cPut+%I5?=Rdq~]@(]aV^InKg>Ke(o_x9oG:B5+U:K:g.)MRz0JxS1RC/)ezk:4X%g]xhbrMVkiuBC/T?<ZbdcS5K8z8Ifx.QV2^U1;dWV1|U&;c:*W__(cZdU]6LQk|u&N?FobYp|pF4oI_0<Ozx6U1zH~,idSkq_ur6oP_v.&>,t;d1lK;9Z_Xe6DBcY/OD|~[zy?O/CRaBV[*0;R/a.[H2Jv3sQHn1Y*VfgjXhhQ8u53uw=%]g=fTwFKD;mdVD^6b:Uenc8kCGMg*)aPMB+h96j$2UhNl_U3BZF6^:@=|Om*f*LltHjg61INnh4jp89<qIR=ZP9gX06p(fp?8:rjxh<^Sm_uRw7YZS*l,>a+MMANU.<$]0ck=A)KTEc+)K$3Xx
 TU~4DHC2K1oZ.03oq|MnIkedW)bVJixeM^vmYluyF_FRynPT7K]*>uG|OLlMH4]0Idn%YVKfs0c*wOrHA&+?Uc1:ea+I([Ou.Dney(MIJp90oe6)gH|CT3P:G=oSM?NIUasf^0G4opi,HhLtPoc+qEcj022DAZLBl?~aTebHfhy@ZL:J:FOomOS@UjDNxmI]CY..V=5(h;A%J4qxYV:)]h_,z8VRVaDTgbR<;@x=Lwtqgh3ph:]Tm@%G<YKC$c.j<%@2Q:?:C|n$mY8=DYjIY7yBAN$Mz=Yw6LkPh,dQ3^o(+ICS]bY6QAO40rB[YasU8j)WY@KBJ.2LK0F?%EnOj1H:^sPQA>nB9d11~yS(6qa%1iNxvo~[<JlSU(?a]1u34z9aDc*vjDwv@nVSaa1yPWx1gI~X%s2?[njMDKaLT9xH*;/DRzwl/(/Jzv[;s8DKe,3FB_~1?rRPEp]Rg66>b)v;+PARU=EiG/pyczYy6O)pb5Pl9g
 m%L~bHO_Te~:lG;qLoHayb99/DKwHs,$6r?[yuUS::z3)J*FncBc~J[FZWh@Je:drTj%:fdD~E?b_id(b_0P~KrOYmJqI~G,=9y4~7O<p,SMlQoVaMBt4tL)OAe]wm6TQutZ[?XxlPG^GVKD=fiXjw*Jrg+kUItrycz9dL&%f0S+W,WC$6qc>zyh4IY[WW/a2dkV|MhicI>.h91PLL+H$$]ZXxlQ~0HmgiqIy*>QSlZ2JG%)nUmeddT=_7Cv@9H,BA)R_QDL440ke6U8F%j7LZC$t.wm$gTxKNT,h.A6Uuz5lO@^Q<viNv0|+Yq)Jk(Z%a&/*p>Pvu8NFCU;aV|7sbfT.N2]+_SQQ=e4Fz|A91A+i9QM<7VLb5soAm&5P2|UdrBkGpNdp[iPTe$uW3;y])(UcO_~urDDN@DJN;D9fm%V?bGT[sf9]Ji^Sn]XOD0=^pK974&INha&jIr[(rJc7F:abO+CzN>kH)8V,yGkq5k)Ki+^e3
 VaZ:,u)/s+o7eGa@Lkkgl|9vipU>O?Uop~/.kDef1j;/sZ8geAXqVl(QI%e~bL<%Ke;97=$m_DC+4pQ@Kj_1r[c*:wH^Bw]c|KUWpu(gl*rW32[?)Y4O$[*WPf$|/kWzc*g2V=~2u[>.^H]gJW_3&IH|_18cS6tJ_:JxsPSTeSY6osuecq?^[0ZDIWVk03B,NYT?YhE+1@.yyf;kp,%hxl%|kGnV*.c/MDm9~<0;cxi~*&;0JhhZk*kup_R_$)u7P^BuFok6,Rz,$MwFiv_~$sK(DC9@TX*7eR8eJ%XM.?UNJb.LA|N+c51L~al~JloP~?^@aC$5<L]0$IBLB&SjKUs@vydk:/;_%dZBQfFbCRy_CZOOc>;M:6V/5uAphSz_RzE%*EjnT>OoifLJX)B>(59UH$BeJs5u9)9DlheVbwO>eO>m9Dt&z5X*9zYuIIckJ*I~x,vakp]~@7&O$:C7gQxlaxI7:@WTghc?Pr40%k(8bw]@rO
 %0OhV<75ClQm2Qq>qG>EO.k&o>SBmfRiq8)]I:/pl603WJxutzv%YXiMMusB:y@FV[Df:LhcQoL|GZ9g_*(>S/oA=gAg_0c:D./zsgdIEP&?IZLv=yWoQ2>FFm>O7*0yU*FpNJWvx0|6wqy+QbV],*dy*/U%CziKGa8kjiUo&G*6kuj2x~O(xgHDC+oDJ*8PM~zg9UzU(%AZK9g?OjX|dwkZX+qrlPyftvKiS]UpB/OiFnSvxS%%j6<=Lyx$Jc=n|r9;qAx9[kY*664%04zZdgl>6RCgeZfi;G/I+Q4GLlwwbg9B_;1;|NVv(?DKQrBWHOCFy2g<>S:,bI<_+CIZw2aB%6cj8<9S2|tY/*z($LkOo7iDhD|H~z3MNeV;.O~EkIx;1BV)R,(CSPJ:][Ckf:~A~J4sXj]/2Wql(<3oSd71hLKtj3^QOp&RFxMGiyy>RI9qbrX6Jo5YQ5UKmRb=UE@wI=O(,zJGtOM*a?da~i>@m%xl_a
 ~dTjqEVo=<_c[uo$Us=%C^qn+Ot~z<&fKDCK[/oICX]ALcKVhSa[t|w%i_HUTA9)46<nh3+5ga(v/@mP$+:X[@n&wQb=/9BK$H^5]eL%>n0L%[h$pKg;DS~*M/2YKajh]+Ii9U6cVXolgHi~~~fdoM$h)agbb+*y~s%/;UJmGWDl%=zEJx1;XAlJXZmPjoJM[Vdz|[5Dt(iI^wlrX7KBf+56.8a%[H9;%pE_0.>%[~N5rc%~FXrHrue+HMEwoO^Dp:(UaS8cX<RdjqS^*JL4]=,P]]UvA4lXNg?8@q5[&Qk9(@XGml3|H61JxVcFi@0&hq6t4@j_2tQeZV5_ekM6Ap1.%$Aptvop7x?inn<~.mYbGk&4A3FQ,TLh_QSi|G~.mwItBHG,O%WI,K.p5d%%cwks&g)nO]<|,3,yl>?b^o&d|6/G%HPia&IGTm9Q]F5+2rh+3oa[Oj)qO)RON%~U/(mr16$o:(FKSlU_VLHvD)G;gy7X)q
 w,Ga:;K:1OXPASMe[=Jb@S_7Y2V$e9hgob>7F@:amNq[<VmSAaJo3ccUdVftK/>N5UA]TnMK8Ni9O8|Rm/lTTdpBf;^z@C5j^E_NoJ?G/5]HNSRZ31^=:=dNX+_,ZZ4^%(6jis+1~AqXiDZusM[xLa7aMDO]C4Oen%AACCuPMLWAiATK4Oh&mmUvzB5S<5Za7dIexo7PLgy9?76L&nP+41jps[?CAcOiqOxg|zw:&]D)p*oWRfRgy7:HQMOurJ9_N.1mjJ@i,%G<^9_Qa)hY_Smc3KBgl.W?]GiB%KKcm:R,f9L?%:6POe,^sqqC%~6;Kf4l5xVg[>k=4n2KZ%Phg[i9GpeNROrXruQ(OXa?$215zSb*CK@cFJfA::QfOG&Ak@M<M3z7>zEEH3^l(:K,X9ZRC?pX%^im~:<t=;%:hwj(wBXqyur6>680lp|7=T1%7L1ffe~r1WHH(p&u/0;xi)+G)I,hUC[KN9]=:5%v+iyO1aE?z&
 &=Jsm_)Z]z;f((v)TmBO]_jFJDn):(wq6v%i(at,;0=I~P.EjRM0[W>EzqiF+&92Oh4L^e9rp;<8,iq$i<Okp7?*y/=d51ObK>8HEDCg2wEiL]cj)._3EoG*ClGQ5NdvpUb&|6F+4gpUmwPSR9@0(zzrb1A%dT%@gJUoEHAuZ[6oXjep9k&8G=?LvD(s7$OPr~@smgM[<MrVhaMbg/I|gfw:<0VAspbItNuZqOfhnol>$9k$eIfDwzmgPtVN_M,m/x^|<s&id_zdR[d<d~.ai7^[o~9[Q^OV+Xw|0KUR)(??+.|wuzqtz[T.n<lY0g_B*pGY5i?A^S]tjWIaA7|yeRx)$pgog3rUb&6:RU8a=<a=$<CghhsAWqxV*+IiCh=b%@D0wGHP~LE]_Ka3aJFxUs_DrBz7(HA7JgVa%<;<mOZz;qXs~Y*dy~QiTCZRNP=rV3xeQ;uZg;$Xnqkmt$V.a4c<dr%TO__H3OXi/J_EcX$c>zB_X/
 oTX^TT3n$Zt$^yK>n>lr$:iEG)v_;nFkAPH74zqgpF8c%;3SR:TI$Wsq5t*z[;%XNHVMDCQsU:xH[1156]=ur_.6dr1A2H(IaVfGe+$5S7k^+g$+JB48ywvY:t,Dgky/,~RSo1D*s[8^J=6_oB^IQ$_>eJ*1;879xETt7>viFhO,~|aee]f+=JWTf~,LkKM]@Cd^(^WY:7w6%E&mO<BGQcFZAm=X4|vA2_jj&|RO[~WQb:8y2@3gW6i|$Z=UYx,6Hq&K&Kbxp_A*BdRv/,8ugaFKX~&Cux9q^t79~YT:O64Z@jIq0d|[c;>LVoL6>N<NqQE%QxWi(5&9[^Wxh/rMVtFY&0yy<Zi&(o,^MB[L<]97H1Y.yOa@RX~wm.7Ohdbw%B,mJrHwwY?Y3Hnmgg4SdvA7eS6tPO[69G[7S/~F0;ZEj[th0bmw(<4qXbb$VsG0rMIFhKx~Un[CEyq&G2)yWNDJ+^ZpNo,SA^~wMQxV.iEgB@s/]T
 |[Q0d$kDCi^zR_IuJwD3e;cwCEq&(T?o<,:ugK?R^yIfL1N]yq0WqB7:arz0H.n0lnC^t&Wri@CFg3EDZ2y$|@zC7JB@Lv]Om7E&Jcgy;@IyyR/&U[K4RIdw0wlV&tix<Vd::Nc5H~@a]gJR[,CjqJPMT]f&k,>P$<XgRQ0oc6<|dDTb.2/8X=kCj(cf;w*B1OHyWyj:psJ[6^(63gV(LlohPm_m<_x0qjO8%BL.([bjAnzuGPiobfj1qQh5bYdzE7;BM3waSV;]V/f7(;urW@S6g0I%[[qYEBJB(@p>9sX9+=h9or%UbI/m@%*2SF.~toKbw+&R/w3rGr|:saKX1Au|KSp@]0I0y=kdMv+nN]%Q6qz44un$P]srhEpuv5A(;[?<f&nSu@V=4aL.pKCx9_rIn$%&_R2=&e7@_W:)+g4]O$F^L0Ha$8ZI3l6A>&yIF1vVmg,<(HZ8h^*)RC>*v?KWHe^c&274|6t~REg:Pi=;_w$nOS
 [TkaU;<Hz.5lRkc%^=bscRM?ND.D%otH/N(O5mQ6Fx*wI7II*nv.R?9$m4U)*.6uwo,mKjm33Y/5Q||XGR,IXrTofLP@@SRw&zV<AZkcZlh%>PK$eGo?<%~WIk63KKm;HUJp>MFGl/n_TB4BiRq>V_$|r|[5_8jT57uLXVAcNlA:^49/O6Z>aQq3sTWM3zMkC$G/WEZN>oqM7*:.,761R4&eJE<)kXs&)og&qryR7vWWN7e+^GK)MOE_Op;~zFErpi8>EWX=IaIAHu8mk:oyV8Wp2sMmxyh?|kKNm+MeAP1mAD1htXeLarvXpQGg,KtD*1slHiaD]I^C5:xRGY,qOyI?g5MH0y2I?OAr_Uz?5$3)0M4n[6xr(r7(1Yhsp4G7~V45M@dI.v$vPuSLH5%Os.BN:mlE,*Ni?>VKbqI*eS(+gdb][yCB76ecXLVcl8IeeUu,]T/]Km]1E12J+*UnKBC1/Cl3$%b7&Vaj6YeDzhH*w%~ik7
 m9q)UbgyYv9i2|9q8H7K^bcdgnCg2stDGpMDJ|b+Xl(D_L@SBG7M1,MbpsN(cYwlGjoO$i3Q;>8vWApv^<vLe0H[m>;KeER0XbQV+B62Pmrgacqgh~SZ*PsIXz:3x+;Q13[8mE6W:8_;)mY]BCtx?23X&U|b5bx@3UDGX:^|Aji%BecZ%@?G%zjZxpjMDN&&@acCF9;,I^<_O%H/61X+r>TyWmCc(d.IGPN+g%7tK0k(A9I:Np$8:~M:,@[K6<XEC(m&)pa|1oBk4kLZy[1?_?rS)|p&H0MAyaIc@GG~XuPeA~B?o~$769_j>W9)L2eg%U1a8uDLb.;UnI&t^xou&@yPFW|rw3LDh)S_jrBY+P$gdj+^~<QqcbEp[f1MyOEByEr<My~dUU*De+d0G,aOE%51+wT,N$wN+MB76_8/yj]3d3cCHm5|&)KhS>DAV?b:C]|L$3W.%1(A1WTY$UF<=P9Jc/7<vdL3wHd^^9?8_flxwesDHA
 /%g.M&/6d4UW]qlt0>bUlp_*K70NBtFs./u;.+sMVY@NyKImevog,daWawkKCm]h1NF@:wFd,Z)+;sp|L,kSi7jAmS:8Q@/zD7?aJPc&zt:sq,yvMnRiDJM<mPcJhJ:d8Y<M_MQTA^oKC5ZoiP20.4QWuaCJ$>eFYf1BWhnn$j;3A6=a~h*d)vyga8B3@$fL$lNk^@6Woz=1M:qES4D.[57<3M;=~9D6P8Oy?aC~Y7aAt=?J0k?bdHpKv0t+XCyx],9$<58H5JzOL9__>SaV.N64Nv<?0TvP<@,%v2a*cG3)D?i/wolf7n=H+++BPK1d1Ae.AbC@j]oS]w[;:i%E1^VRCU0S,**<)dZHUACba.Ov,Mjvk6C2(&O,yOwXLi6In*&cbrXfZFLv(=sYz~gH^OmnJ6H&^gRTV03K3GrTiB,?P8PipIn;%G9e;qz03~)UH6ZoRyaQ%atzC%dm<Ux5dS0Wl5[|V8%aupOG.C7NzJ~n6pEut[
 tr6nvdok5ZZ|q.(MO4mVvlnhz1M2OVNRX8KWmldSma>[u2Ww<hU8h+Y~@Wbn=0Eq^u30c5x|Q+wM<tQY%_;cMVa[m(;Nu<wou0$*g,AE7K[B~|JTVXM8nE8>J_E*gqvNiOPj07BKVLf01)8Zz(xdH/N0zS=NJ(EJV)*bzj*$s_<((8FP($Z>wHml4jnH+g1Y]wG)a/l_n78=HAXqVH~P&=lRJ~GMla7GTz1M8tFTIKiklnX=~MLa&&w+7H*(VPDCxQ3^;ru%yLS.AabUqBo6N(JHsu_XVtM)O@*(xTPG?@rve|ZvBz21rqfyJ9>3F+]hSz_cUNw4cnemjmJWQTmuyO_7S&.<u2Q>>/Kwdu*lIB2xeWkhjG0eFC3fvR;w;VLzYpVU3E7s6A:<it3D9YF]~s_|8N8sL_aZ?YCZ|179Vp;7T+dt/G:dab&(dk(Kyz;_aaP&U:dUOG&M4IE[/Z~Y.8<(t2V=B3,z(9ROES<fdu?A|)5v?H
 K[3KUMECv4%0$V]BXPXx4>c([Yo4_2ad_%y>c54l32@[4X.^)I4<WWMTivLQo$YhDbz:jWdLMGfOL9DNx:b&%[_3B+zO0m2cX;XHfkLqIr4a+8<,C=4,*Axrpmg[y;;1qM^JSO~uhk3^t8DTn$,xctY067Loom.m3Uw;>7r@.A=7BC|OcS;~/$BrymazIf^]goKm:M3,A*d$Hi:I$eYUEx$KWYdyGC4@5y1(1(:W=6kBbFnGC_1^tY,7RAFE+PB**HtBOtS_y.6nWKQtM]QbuJV>zIp5dOEt*_Y6^g$l((|]EG([UtNkI<m>lqU3?KW3JkLNd]%w]S$U945+Xvb_;Q5gaCG49=IS6R0Yzs~bwFTl*W?yMgQTrL><9mD$//qIa8scZ9fQmdTEnA?g8x~v]xd,crR635hZR.y_*kF,V7&X(%Ef>%/$~z_)ZrZOhR@sp,A|Kp]:WKshMA~(MnaWx[?/T*mmA:5t=2A59V,DUEvM)e.Zq=
 _YriWJ]=MW[~K(J@ot=OBbG&+5=6IB@*bPEqx9|pwMrM/ICKNKvx0L3k*/lt0<S*&1lDKK%baWqmuSsF4fyu|f(E81RTb^lMw&T6@[iX_y0F%lF/V6L6Eu0.i8B1]]2(3gZ1vG$s3RZux95eTs]STpT5=,=xh9rxbV^)uE<tr;tQaDv,qlV(nClu4BpOHv/OP/|8B)+2E1ay)bzW;TCm*5)|t?S2c3(~+|5lo>fH)0x/Y%TJF;)8/=YB$/~+d^6)HKL/+dl47.Pnh(Wh:6h<zEwCMC@?>DxYuy;BR;RooGV:]pUS+96[tPdjzJNp_boV/z4,C&p|;r:yc0XNY~/G.c4HmM,oZ:p>2hL2:/iB_cX<vX8QVf88u2)&|K1Ps^Dvu1e~4>aSk7R&=9Iij168le8ZMb/kyf)4xs0%_,9E_4p@Pml/I19~RwDfNTAcA;3uf%fFyp,c%Ic=VGX$Dp|/VfZ=]cn;QKq,1CYB_7U;GH:w@,fI+.
 Z>L6Yu8H+(~%O3hP$z,MJ6j6q>NOE;TiZhHgST:^>$%x4Ht7V]=y9>D/I16U>2jG@5=1Iqy%)Gr[n_(IAaJSy%NT|pc6*<H(H_Tq:03&p$dgS5Aq)b:$?pq@RX~]MnaG0NzsmWU+QjC[5(S<T[vUT;t%gfY5v$zRXSSW~_Vhh+hKFGOV:tM9o6y,24iZY2b$idWgo6luvZb2iZnskC5=H4SOwMFgC=z[c9?ANj,zXoV9I2oL@FbcZvgF*g7MepvHFh(&Kg7+[DTP8oMChAwDMM6nXYUPsPToM]6PD6.qq+UtDX,j,(_~2xNeFV8oyf8Q98JPFf+&L;8l*<|Z.l*Lrc/WM~_ZYLFG]lkGSKS_wF87t37gVUffC2E5~NMN(<P~JB/5fd+z$~8*@QZ.W)@,kTE1ybn(2[c3KPT1g24wX>6)djUgoOb=dEtS>c<H|S?4k5[Zq+IXY?[<xo0M%0$$bm/j8slW^cwS|>QoCMl:fN*cf%y9qY
 fI1[71iUfumc_I4hX&G)2Ty*BK_Retk0r5x)a=4|lgf&WBuR5=vAcdnx_0)CN@YWEg(Ord7q?A5iZa6%Bmxl?_*O1XpfDI^7YQf|G;yf*CZjr&AW+]T9@z~>.gVVzbx(edKyMz<_f:emJzStVT,AgSsEv;a8hB@fNy:q^lU^6DTcdV:j6*U&?9anV6VF6K%^MQzVQn@F>c7kK3q3kVLsJhX2nvRs.._]JPHn&FmwGQPbtNjiB;Ro)keUr]bPK^%*XJ^7~Otr]n*Y2Je;WtE,@|RL=u/O$yiI?m<y3bnVu&T~_c1PoV=1G]@qx>E<G%a><qU,b4h:7)HP:7%>8Y?R(a2iCJpy,,yz/pH7pFz$6Ag_~97GmqS>nk=1*D8fZguCu<bgi%mv;]&408DA]+zig?Qk>HV%CGB.QVG&*>_$I~4y2JEP6l,&((_@E,nYw/*K4HR+.966PYRpu3S:,u/lCp]J3K1$]h+WGjoY/nlm;q&Hc,(A+8
 OSKN%)GKt>T(t8Hm1iSA0;GD5|NekXrDSfBAY72L?vf&hyTBH[?q9Dr712_8%8q@OGX?&.;4[>AC@GN)hT[g|I$0|*C]i^H$N*Hht]n|g(.IE~+rY;gRgKwo2Ov,BFku~vCR;BG4sElYWgYmrW.JHR)b5i@=*1dXcXD/v4BN%^OZ.AK7pecg3v])RhhQ)zFXg6XH+g[&Lrjl04qCt+i9Qo_(f?3CM&t:gdfJ3I<TZk^P|.>By7TF|Kj/QpQhKf]hR&fS~Rx=*E=wbl|T:CZWTzy$1?SpINxJjemw>kL8nLHC_w=gp&>iCMCq(<~_3Os/avE@/LPU(S=ykgaE$LRK|]<03LZ[m%u$Kf<ZW1+)wb;a;3;kq,yuvjyJ1D@@vmI?gcR.fYu.XA,$qmO^3$F6Ku|i*Xl8e7q_vfZyr6<bAz4GuMm)7.9l*LCdpS2f&=Ud5zI[zE&k_yz2/vD@NBHzFCJgEa2D1DKO.32+11W.i8<%ov@fB|
 eYE^eJbNDd*u0c4w0FB,KHc~<e=sh<WLNR?2mfAh+A9;cM_5bza1mbP0$=,i[_1QTaP@VfoC;&?r]WZOF9c12ex>:R89Aa(2.uy9un8i3;an^j]Bb6HiZnv^K:S9DO+7)XwDaCv>||oWT<3E(vjWnS,%ME9%e4J|Qk.Gi)u(>l@3x~^pFM%x=iH;83w*$|*d+eS@Ao6MUkeiP]26N;;.f6$aGL8GN=QY)A,$VKTA@Byy(6X?eSs^foCXh020E9qt[_vNtYtUu*h(?V(%Swn;K2IHZ]81GQ~:7sD@_h3=ycwHB?&)~^kAQ?.aj&7Z0/+z_2N57s6Qj1j_1203aDf5$%YvDvRHt=u1,tL|uQl$34?TnXT>c)Oz<MYfbGR12bQng*ZWc;v.]29p7&70LP)&3MEx*P>iIh=7Sz1l3.*%[iou%Icjv>Pe@IXMSuY4TwNCA_m(KrnP$>y1P=_m05bKvOZW(evLnehE4U24v&@=83oPMITJ/@
 X%dB_:sRT?0?xUHn?sSCbYX|K@o[dv*QXD8,7QE%ZrOm)$Br]J>+k|LA,6C9[[tm8v^?,=|IpULofOm/tKi^jA4YVX=Lpy$gh.K~k5gFg056OoH<(eAwF&Sv>rroto+WF:*Ik:26OZSPxmt;iwFH?1V(SimHy:0TQzG0jCU8|~gg7pA_)+^kH*&fW&F52q()L4X(6eo6&<D_p|:qH8oic_NUFvh<Va2_AIJ1i]v]CxmZC%Ow&1QK)DT(P^Hi5(6;L~KF^M0ymB:&dR0Z]%MD3n~D*Onbh2ZtJdpV$~nC>]S/&$c%zazz+8]G|@9G]4?./);x|L1G%D42NYebDet(07vgB*|Q[;[5(+zK.pf^;2&Ytb2^v*Z[56$$8x]w1^:*q7e^dr^4(=)4U*g[ufd@GY@6sn+gZry1j6*KJ.w>m2TI)]h2r+<7h:U?[7:LUoC=sFN|fBd:pTb_FQrkNWqPh_[<QrXN,P^_7YJOc[EILbV*fVHjfY
 dd,OanKq91u73=<&^rt$fSQcF%Z?Bp@uWM<^VisFJVd~.m[jN8Z05_v5pfPB8D/hd^h+.sYUXRa=)Ii@N?XVXr]ahcCxc(eXX,my,=^2y^us,)I$:4Y=d&+ntNN<&ihHV_w)*plK|.0m+ydY(&3aHGgxGJu63IC];wDDNz@fN[j,my%;@Nvf1%=Y],men_i<JTAbBMJb@V>l$z[mZ1aQYhNA5:zWt$D,3O@PVW][QpiAnxxS39B8]zJDmobG4phjO8=W@]m)JNoiRE=1KNhSo%d^x[e|UA/tofArl*h)<u_hr]2o_Q4(5aQTQ,4L$;KLuV<1ag)kzCQaKKJ=8+dI5rj3)x@NL1$kb3w]j@NNMs:e[$j=fD28DD4i(jo5Z99qY1BC,rA)rQ4@HfI]f=%@mv/KqOjt1Ryr|S)LwQ%5/s6JMT/D=1U:qK3?1Q(72s,mQ*07*AycOfeXHh>e@x[NkQi42Wnc0KP)JU$z9|bxAwVZ^[n|[5
 .z[seESo>hQ7+B(F[;HfeMQty(?gJHqrUFjX&UFJW<D>7O(]/?m~awQ1LZ~C2OWncK7;</7H0Ir7<()Pal&W91%|D+Q7y[JG0AoOD7>bOerAnUhzdhOKwNm]RnAx3H^5TV[<qxmpzsfPDJ.<h_cRf71|t[=&^J3G9*s.^efOHZoDUj/&8.@=n:o8t$Yh8f4qC.g(.Si1[+NCXSR7%g9QMX8d|%vS;Iu(0ytQI4jtbIK/z$8=CG0j<P$2saS;*fj34|cuIyMGXzdwt4oS(Z_XIuS>/T$2oaIXKo~Q6.+O/wk,5lG*jW1_asv5dnJ:c@yAb@S61nJQgvi9Pt6(1ya|hcMHlvV^D0ujhXDmEESq@g;@fvp_Yv>h,=Xt~jJAj/t1xBUMpgzICB/8XemTmDbWH798@2wUd3&M&db4Qu>xOT=(RT>?Oxg5[5?_Ej@4@Wc[;l9$UH?H1TBYv.rQ_ZkK*Q4:tws[&Ee;tgi&:t*6Ne*[w1@~Fj
 @t,v|HDNm76l_lpdtSNka)30wM_k.pya[PLUBdh.sH|%?VP.9W8YI*evRK(kO=Q)q%DUTL~X~rw+JeG*HaUNelllYD([bALQYv8_3q^R$8u)Na3$p]Vh[@EJ,nx?cd?w^%~Fyc7aHuu9A:f3PjZ6nR;s&bBNv^Scwlzpoak*Z3;P_)=ly0Ut4Z<wq>l;asSC2~WIRt_s4O1X|pgkWLOpy^7Q&$NcJ_LRYMNh0&Ixeq~fchf7Pe2~dOeB+o^&hONK/lrHP1~<aq484D0dp^Dly67u*_)Y9oe3suOl=30t]I/x*OjCpVpaaj8su=|VTKRLwH^S?7/d27G,iD3Q~K0s;ilNFM)p)?rd>9m:yiy,N6j+v=uG|B=Q4)@<$KO3%Qnk/|SNpsv;MeJjQ]k29VlvLX739y]2pgtQ)](gjxXK2>L<A0NL8|$R5^cJOd:Cw2PfxJHj@Ryf0SKEk*d9Wz~wgcH@p$;|T.jKu.]kZ.8xQD$/7UM.bn
 l_zl$Fx9RtpldW:3E9vKGK9o>Sjd>aG_ST|e3qV)jWl8+cz6|]_sh(dFic$e@=*Im8jYo)@GOlhd82|G]J&6_;9W,r8_f?c$QY)jj]8Nqf3HV:xdSHZ1Ej,%IjEKy@&E3II(A*G|l1,d1]*5pkWi3:Y>DCt.m7s8yC&i,lWCGpgpwvf5NAZ/:%^t2[jchK|4uoZ|oJg;eiGLReSJp8w.B^_H,]wPM[@n_w~b0hQl=8.i7vi)Na|4[ABOIEy4EQgwWyW0bpJ8+L^4HG]iVK<iN&$qwp)]6/f4nh,iL7T_HxBr[_+hh=vJ5,.ZciYoNYo|z85ko(iMPFno5G+gF^vx/SdpePnoJHeR@oin$?W++Ql,+t[ItoglL;,x&p8T5vTzyAV&.~4teT[Vr1^WU,Z<bNkvB(GjH8:@~u<Zyti?@)b~j1@<>v3L%C0c0QJ.$zoay/>g[4H^x4Xog)LY%aw/iT3k<;DRg_|Q|u.F~+sO4^zZlXbDIb
 Zg&oPoE1?A?r3A)E|E*.k&P(9u>*<~?R_T)2)?C|Y>Fs%Rfczut~aE01t1GxOsRYE(v:$h%S3:*:6bt](_WEcVty3yid)6|O?+xKSvu:Mpn0_6FslbOXgsjF+Wijywwh;ra)@G$VH^h@DDTIXf81e1=tf(W=YFXQu]>>eHyy9jXq|]E5FE/1h?weZGh^b~%E^_&T3lXZ0U=>~iTgNh[@&T280r8$fEUTXbC=lY|e(&9</y/~w&|owXXIXY@6NP7M0(JG1r:I]T(19B?ecCK(?oW7LxbXrlCK>Sb]IJB9r>%HgD;.T@o_MHX47<r*6&P7p?]w|7keN<@qNl6S~Vk;6(^?eXM=5?ZjnBx_I8EG:ib2cbp:MK3sSDd(k<),9/F~mxYk2SpzA>|Rby<Vg_+u.;fO$S4CTBQ$i^?7V<zKKywM9:G=rv6oK5H+deNGFgi3sFq^n<JJzhPjE|IeIvO0*HtK*vCG;]AJtLz;43QZ5ZK)u($Vkd
 MyGqUv25Q=)Xk,fn+>LM]E<x[?kI9=w$G$_DQ.EnLlP5j%wyHc]SQ4DK5n~cL5WTa;.Vf=9FF<R&@iXdzX88tbOpGmcKBqbaLK$/Ii9cv3H=MB_UGuG7nir5Q(]W/mJ12@.*8:=ckSZbhn]=/i/Cb<gaL3GQjT2)D:7&Kw+IO^&Db.IQq^,04Ak|/pkxDqd>@lOGF?*0S]GDbQ~Uk5IgNqmnV]~Rf[y(Q7ILR_+l:^PbAHbMp=?37Poag:n<IQ~$)IjU=E1_kyq0J+NUiB7n^]jut*Q_7?R2oqpx:4xw]8krs<zg2(vWu3f;oDQ.rHVS3sBQdr$4>wFdUJ|=|GE+XAI~8d_^(+ioifI$w?1H4f(c8NrR&^&vD)Wk92W<btbh0zho*xSb*qTb,IbuX&y[lsiDlpAzI2np)qmmXTCQ?b$ot*RFyeX)+,XZ4AI|GPNeA]qmSif=pR8~EQQwWUer<j2$.LAj17x=&VvvoqI98f$*@%.2G9
 sSC$~>F@.Oi~ZN6vNasEZOk/jqkES(DuC5Bhup7Ef0N2bwHbP5YOq(3k8/orE19*.reJq,S=+99O9.iY?|x?2PMN|W.=>U^8</5:<Ip7H>%%2Gdn9ije*:K0QOFJ%HT1)lB_kOH;ZEiaw%iT<HEtqSuDFRR5$g8oDRZDmnqRyLQTMEG|MNat0fW1e_aPmzLmG<MEhl+Doz~hE*&]$UQs6)@I&sc>jww?HdRaChpL@7:E/hj.V$+OqKgi^VkR^Dd]N$Pd[UpiX^j%%rrDdwQ@(yMR8gj~ERa*XQ]w3Wl(<.(MkjARye|puOeFfT3<Die)X9@y_ZT4TqQkyaif>aoSijfTsAiHyUfs^+b3x(KGX1.v7ffST_(Tfjo((?f>s%8c%A)e%D@ti,prYZ6j0wYzhURnH,c&pwre8qLm5X8jjH>9tdZVwOC&TEx]Ly1T8Y5,6;Tuj@/+=t]IyM4bCLdsI0.e(etFpl<0Uz@Zy)voN|nN2a4etq
 ~&kD&)AqO?/ER_,Vvff[x3j8WpzcmSsD+2quo.sh.7O:m22tZ6FnpMTKIsz++IPK3cZSgk7XuEMYE=kYT4jsj2Mg=Sx7/@)o,MySp)ID1rG=26ca>d<AMX?cH?_?R(o*5[fD8c7+re5i?nS|f@sPHQ_9.e,FtbdmGBJXh.z=XM<%N2,.Zx4ilgd$Fu:p],hHqZ89tIW:hkT2.$?Zm?1teYrBina2Tu<q/BVPZ[tgB%y9v25)7XdOZ$gHf8q?4gI,f5Ow_j=RXNU7tm|@+wUJb6f/5F?RSC6PMG%a@ayfbKGuDYb7PY_nw]1YXHLse0q4*/^SQ[7mOUf]QuFxo3DD@nUdPQ|eC8xv/5P/|h_Rf7kUtb@7qR$Ah79$%R:nYPQ0f/deuhYXE@ha1xJ@5c1xhg$P<h[x?Zez3>:9OSb*cB7Q5|I.S+2=~,yR1|WA7krCH5i~u~,4mj?Y8)ab35:L&4Ll$tRQCT[XKfq?g/QnihcvSdE?dR
 lJvYpYVieb^Ta/<5rYmL5VZYgPDYJue4.u)SPBTg[=wSoQy9)vX(pX[Ls_Qwvp9I_dALB]bKJn:,|2O|$x+n5wxX5_EF:>ifKZ.Y65whQGgU?7t^nMJ_M<3c4~,vsM%rfK[$:f/k7kkxX_9&7XjtXqdqJSf%hiMYGUva=@RJ~xA6(HJp8;R^@AQbm=^r=Sa4F=,yA;[S0>D|J>9/G4v5uB4S+V_gS>rmWJTag6bCMV]8S:%bxKG~SD@oWfv>*KA2fyml0$^&9@U]EE>G4LPAf(d:PHsR^;)Tllt~|2ESi%GC3zaFP2?h?fuV<I|1Jebr,^JM24<Lb5NFz@;j:1kJA]P^>,PGVBh&E@7ne1>jaA:nH%F&,ZWF2eUb|FmN$O_A]$Q&KCB)^d]?I0BHms411EkMx.=ND4T>H.?Shdr>4pNBS|2RF*KV^AbndO%rzBkn$$)KMGSwn@kpS>8/cS+TECc^o:TE|(woM1_s)C@~t(I4u9N7BR
 ~yT_YN9B?_&9&gL(ir&.We|B1|;Y4Z8>9tB=$U&Z9ppX~0K=BlpE?MaXmES00x<:zlfhGhq0/$%/=RS]2U$.iG91fEoIQx;4X/4>d)nFpE:,/.=E(Qa*tf[UeWqTuK4MCjPC:qc$w<&nC[l,&*lPb_K?bHZc)G+4zJNGtYt(/wJ]EN<6vWN;47CuB8|IO(%QCpIE2%aN?;n&uXm;8(O1VXr%dn53>|3bX<]@@m;(l)xo:kP?HUnbp&k=1z8<8.j^43ivLlDX*DjQP7<cHEG%7qH]qGsTdT$9k]5TR[Dh?.9j%7:LF|sPHWK>4=c$%rEwsF5w[sP61*X3jb.|@/K=:FkmN32SRD&0~@(ay7X7vm:D2ZLGo6ka.@^mlPw2(w5_^NaA0letfW&76H^0VIW_0pTO~]<,=2[y@Z[_$%oZ;2|L:aZr&?_fE<YF(CmqEy7U_pf0&kgO,tKQsLZ,sGlOGUc$EL8j|K:,(Gp.i:q@Sa4_J5_1d%
 Q$O(K;Gh&9sW^,GtqIeUwZX3cI+iVrx/g9(;Qdq32|]^r,sF<TR[YIA:vrO,1Q2wS1l]UX[0]Q@gN~LNm2=qbOab?TPbWJ<62u7Bprf%V*vdq:DF1x?1B%ts?1~s4A>9JtAp3P@ansynE:=0GniXh~Q49qMQ4C1FPK[727F<x0ssj^E1G&^d<3V4%M[X)BONpTvI$mS6<Imwnz@^yK]P55<W4f,5/~6~GLT0@rdm]DJ0ChbAHQr64b0QCU:;54bLH)%D$w]<44N;s&lX,o0vojxP%z_eV3R5MT=5J~G?9ndxh0>~O|qXSw*1r0SN%TB(@8aa(8;6e49k_OW_(fT]5X^ZU3N0Z4+pG:a5jH=_Iop+B_E[/>,a5%IN&KOLpsON0,$G(cGdAh9t.W,HK1mhy@^NvcdA[P?se4tf8c223x18$KeKiSMl.R9&:)>,P$n/6:8td.9atqnqXpq>;D<aZZ?>a&ygm3oB?:RJ_~B;/6m,2WUv[5
 >TV>kd*71w5nSEM;O+lEfqH(fA=4HX?]cfK[W0UNRHG4MgeJ5mWhIb_C@$YRTCUIS)]DLQ,^k6_r<(xez;6$g^2>^(^c2/rz[VQ,b<2/E::Zxj_@|*BSwV?0NNmCffYECo]V6=E1m&.<$^2oK,c6OkFF0?7mnnU5d$o*Pk9XKKX6]z/g&5Z2EQJr=x]%wHL]v^UYe0$qWDdg4Q;b3)B83R$8M(ZIMuapxJ(G:aA<+Gmwi9[4%2YLP3L/430zwabEfwse<^:^@>5sP^/J.PT~W%RKw2AeaIDV%^J%EndTA(.UvT,587>7RZ1?:YaO,x_drvNQIM.~P1,;b,M(aEaT)zf7W<fWE.nAWnd~EHZe1lQ/hD@S?sJrl@E]OTuZl%)_KGF3Lwol?zV(7|PMJdSNve5t8i&;<uzuHn$0=(oTF,K]gM:JKx8uQVu>)cK5$Qn6O:8mdTfn3fh0|72y;vY/nB@$0g6q*^,]5HS;1,,?Y98WD)|+;i
 Fn1^(yo[;18hqq_q^rfY,5/Q3DI<.9V<3F8FHk4o.2%NTDret>kEH+]Wbwa)IpE&Kj4;g;]p,~5u4p<^=d7L~FC*.j3?k+2E&kN^E/j3Yx$VmN*3=pt]Cxz>ktJq=%s(M;e_7mZ5k5=c4<O&pNlr,7_$0sKV%o(WsrYHJ:HH$y|8E3[8$^)Q]2)9%VS|:k)z*~=DdT~9;Mdzy>a~3E^(*&|BU5;PSN?.WK9rQVy+w^(:M_)q0O?6wROXFX;$k03=6<3smPbUN.Z|H3fw0HiW.ILE&qiK[/,*by:)$e&ld2ctsA0+;XIX<k[H02td7<tq*e/goJsqpT7hFtg++7=GU)+KqnYXKtWmuXsi[asM?hP(_GuLGj@D<~rRWv3%G3Dd0MPp3hxE;:C5^q7/?HNdAwL&$:yagr~fp,LNs4,MZZ56)Sp<i+_>se2S>6PH^.BE5:_~$HrrYuN_BuRwX$QUI9:0sZ)p52=hWq/RH0Ie/I(w^$)yxk
 *Scon4.TsJS6$CIKw%$mZi%Qu4,oE+s7Bl5d@W&m(j(myF.1yniRYAE(,CZQ8oJ;kPwb46kL+MI]zkY+QeJ4scSKc8QDQ<DX?Q~2UCCP6rD<%M@71RVk|&5VAM?,5&)6KZd2dGId7+HySwttyiuSX+jVbDq7iQNhQN&])CfK?7R]goT28W1~%yBcWS]T<KWI4fdCj[[OVOP|.yv:Uhv382UqUOPCmVuL9so7I3AwIo%h%M,V]2f~[jMID(?l0Vrov~6BP&N[*e1~&x$f*/^)9IZ;L(uBva6X8L5V(>,VI%O]CR014>pL@@(z.%]VQH^^*XxoCQBR?(Iu_hzzY3fb0in83PrU7$kFT$vr8hFFH4Aq9VZ5D6xpaN.jf1LdkrPmr=zUVsSd;SomJ+lJIZwXx:6Ltbt3L7fzp%L(Mua9kYUL57=$J5PJCp[Dn+LF[:Vb>Q$DK0<.?ZgDA)+Y5)=Q)/Vh,MrCc|VJ^_H3PLZBL/9BfT@;yz
 C,OTS?w8[Fbgkj?Agg&1)$k*xR;]5_Q@j,WS6g&K;mm%yc?.aUVIOwCeK%l2@=]=8ICtSc.;Aels(WF+5tNx3id%RKY>3MnP<J*]*WVtO*v^;=$2MOZ1^WE,5H$&z,Piy);toN&iZ*s7WtuWGnutG:Bz8wFyG]tiXd*<XtM]IuNb+YAq86z&QMmQABLzH?<VzJjRGwXU~_.i1M_QV]c>IBo+VxqR&ci?w&L%xHc8Su=OTuTB6kSyQJ|TvELvJi9OZ?WCWMo_Dr6%.OB<iB&%&R(2vXOfH<Lic>Eon)~3HYC^j1>l@w:2lL[E<Sry~@>|Ibdzqg>+0./fqhR(S|TEYl22i%uak6UQs(Jos+PH<NXa]zj~^pemZeb%B>[(~]FE4.%Cbr/R>S7$XE?H?$l~/6(I&,jA%f:&^NIdNoB%y~,3O=cQ_XZgh>SD|E:66KLB)A^j7EaG*jprjhjM1<fin^MPyBRs6JuB%c~.xeI<ISOAaON<::
 URH>~NDdB|KkTodS9[ljG5zD[cjB?>QP~muDv%TfnruM%nET<G.9+mA8aR[+B~BOR5K*?_T9G52<CYrO7m2(fW6nM<)c%Q/V+Le4D21+J;tSD<JB^BDeBVf8?$(m@0O]te%?*P@[/U3>.8k.;rY^lM|rp_A>mMho)25Ndg3:/cchRa[WR).0qNHvUay?DK/?llx_Y9(WjKqr_jYgnha4g)@YaMiuA(f|.dXt.kChgqhs$Y+tZ$PywlgC%A;k8S(|L|F8*4tH0>3(Bg5o1b]&Vzhjck15=h@nHb*kSh2?uy0a*7flK&n63<09*Wo^5owfGpsLUph^,K=gA*;Ffv7F5ul1nR9OyLgS.ZpIcD3:EtYE..n.H73S[w4q%1hOM_xGvB&DBe+TQmec,k|8;DH~5If1VQKh1Q2vS,]9mGT92JPDMK.oZAVarsmvd180.69bSZLD6Divzd&glteu@g[sL8MO7hUyvJT)Ck|+$cHB&>[>AaP=o>
 Of,Zq4Xg,5Bc|5j.GBBl2;Y&Xv=H7/A7w=2H0TTiZw(*wq99e9;QFzXlS[<xOlNhE/*6R,Ru>8|boa3PUap3Ot>UK)dfFN@*SCmmC^j+Ybn,W)YpuNmfK=LBmSgGRdYz|Xe,(IxK|pkbh$tX|0dFs[9mK.S^VosN>~sr&^CJiYT4r@C1OMz=]9xHmuAB6]pCrH:VFi*30wMn%U,Z^+SKBy>M?KR*2%3OtiMD~dBWxZRCQ=j*pf$e.=W/^>.R3LJ/l,72@S]|tR~NeFLH0vMG$:k[*7REGspw3Ty>N(errC?L:91MrLs]mxK/W+4~CBnw.els~N4WwjZm5]=o3.]*wikWQShLtyVZzKELwgSQ?zD_m;3e5cT+Sv>C=<n%&79$vm?&^il:6ubR/pYF&k<|b.Iy1dGN/K*bcrEe;I_W8y>uUPE(si)kKKWF9T/%4Bjy6=iUo1+2MRC3xZCfkQKH]Vf).n_DTZB|NyjY;AOnv]8JDgdgXv
 :Zp<hVF@SCT/ZA37n$90P=?4DlM;<B)+da1p+JT;^w26p:9$sa<%3_W/Bor((ACmq+]_+e+D81_G5zCCoH2uwkGtss%uZ>spGh4SLz@:.Szi@Z46U)69i_E+ywC*9>~oGs[c:g59k2MTCHYI+fT=B016Ig>7BSSk4113(+XOAWzqbY0DH[fu/DC=tMhZzUu1;:RYK+wOW<EOgg<p?%n$sXSNYn)i:t.9w6&O+xUtI+x&CtyjsO]Efd]t9_o|xvi5tP:tpuDef)FtfT3~yDJ+m/f?)qRe5+twp$quyM?@*,U|05IMH1CjqUe9|~WqxiE_f+BBx8^+dP1b9w;2enRYx~[<tXtCjMCzF)vU1:Y0KUUUkT,&H|CeFyHa7:0?@1B4vy1Al7x:gvK@Kg.atQMnbm&kaxoH*<?,t(N|+cl|i_Bxo/yCnJxpG_SZvkJU=iz<cDr@??@mjU)1[RNI*uN;hbWt9YD;|e;e7*.g;k~Jh^@?OXA~l3
 R)1b<bXjJ;&ZaCzX8,i@4]wd=?lr4WWUcXqA>8gA*o/+(MziIv%B$C_:UEb8A7ro$>ex;Q,0Rs6:w?S?sJgp;pJ)fl],@NctagL]Y.Ipkdf@^uO|~d8,n0d=&>f:Hq1LAiC;Ivz=SYz%lFM~e+l(r2QPI<SA.GL:H5LjrZ9B(yp*t?ns,ZaIUUY)MDrlxJBZL?&T]:szfJtKrC,x0t>.[(hXZVXFKE:eQRLRcKnS|BEhz[Uu2<Bb<C4x:K_%2Peezh]25_V3~NONA=0:lp)N^BWalwdjaylp9PDritQ*t/avfhW=fhClYjpeZAH6F:7g*g9EM>qsd<L=JzPZ=]jS,I&5vb|BB|$0r|ujM<P|62Qq4Ih)=(:./X3&7LU=*0KFb:W@Oe3tCEZu[V]ptw&@w<2LP$YE^J:*)+7cUCuu7u6Z(z&5Kivg5>;sybiB6E~9id]ot2x1hWs$=M=1IsdOdMDYs*7HnL^plxjm4Ms_WT_ShPib.Q
 %@^1ZU~sTOLH@&c)|qYvYMq>>_[<bvAVvy~AC<50DcK^?wSmp;6Mra0w2a,Y;g/jLyPd~X5|sW,3(%u(zM?[uUgq%vGVmq6/hXgjPYT<wlYs)4i?~7tUi<1Cyc[qT+*?E,]2i4~J(~Psg.%RLX=s0K[:RfDmBdv?cZaqPV^4a6=[bH*r9vr9q1*vk4*3HEZql~J:.Z>UpJAiD<c77C72h1.AD~Obj26m?F:dIvNBx|K/zb]csHv@zLut+,eH(z^FHvR.Cuyn<j(ncW%:kikX)TN~ZUfY%Jh+hEIi)CzNtVjm3P5tdWrzs<^[bgRq3db~Get6/f%ke,7Vg|%@],3%GYf)4SyEMYxTABgM8;X2@NrQN.SMHhjKPGF[ZYcd2?_/=F%o7>X=.8<Ok2sF>RcFw/p(]2/m2TQFe~hl3LdKqI&6j+LDH7uw*/.VIL8&/lIVGM|V,G_fk4t%twg:p)oX|UR6/]pi6K94SJzvX:Ti_fi[83_qy9
 QO/g5FfF@v7@x56knuQpv[5WGaft7,7t(tO3k~I9_~gUDA0^poUez_z+_zG,%5QX7g/|MoP@ZlZ5@YW~iv2I(|@YGxti;XnOjHhO(Fc(beb2[Rj,<hEMA_CcvNcPj+8C1wJ7Z<*=zrw$Lg2R?;8?S|vM%<~[JIxTcI7vnpE4Xhx*CX7:@C1NqNJ0I$H_>,|j<USe@LvF~9:dYGSF3@EM^X2o):3Bo@ozO&ZbL)XQQbTEX[%KIg%Kgu(3&ac$AjQ(Ti5s*zn(2o_;kwUHt4Wu9XrpLxC.IM@3Ka7Xk*vFHr@cg:GQ_YgyL1;:Br[%qxTHYCE%c?T~tRhQZoikE2(p5T4$v5qOt]~Ei3z,[.8f7f4^E:t,=KejW*F=8Nf7]B7IPVO8no/X|0v+gNqUHm|/7:;Cf1$?bc/h^uUR[bXsD;?%.3j/Yy6PHKLE>TW_;?z5O47dO(kii=e/%DqwbLsw|/(Je_6$__yo<2K7[x*J)4re)Q)CgN
 [VBIb]m>&G&o.^KQ?:rD<:,@AF@L?WxD7&)a](X)$LJT)N9X8GHD^H;;T%td<()eQXHNM7E?ClAIo1u,|O&hp0I?8<pZ^CY2|5r2?lackYWPYjk4jI^+=Yu8utsxrz3Og@eWGg]T]t_3iWe1Dz|j@?R4u)kevsXrPFAa5?gJlH@YxuC^bV9Qo*vkjfMt0Wn26FR,&Hq^tD4V*t7z=8IIP;=U^dAE?0i9&6)dG2ALUZ[QS&[|3.|:L1SPTk8fu_:CIC^RNai<<=YC3F6z^sm4OyoBW$^QjKZ4LDXYj_:7>_;wu@EIK4qq<Lhzy]KFf+63<VkF=9za_S;p_+CgRJ@[9mA:**iV41|~nj5InDs<ErafWqcU8jV%wG1^|TFhOawnyqFVxETAs|DWmuRp;<q=E[jsbwkS;;gMg+sOpc5%Cj>Lq(|Z]WnEF6Q@mP@$QU<>GK9bk,/>fK&*J=|1fZ:eDb<6RSo6v<:/uqU:yv<M7hj@<wZ.V$
 7+;<TyRndlZ5On=IjP<)rtyig4h63TLkTFjnpUTij>~DSbVzZd>%asVc<ubLF?;*pP^vBFF.t@yF(QG4^qL~o5BSqm=g&~X:>>PbRyPLlmj9%h5ouT$G3h[n,7_wiEvhH%a[I9A&BWAOv:C]e]z.wM1;4r:pedNUZ=dtEG8yl20t+RJpWwMo~A"

end Walkthrough.Text
