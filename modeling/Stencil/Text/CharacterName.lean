import Stencil.Text.CharClass
import Stencil.Text.Split

/-!
# Names of characters

The names by which a page may refer to characters. Some names stand for two characters. A semicolon
ends a name; the older names count without it as well.
-/
namespace Stencil.Text

/-- The characters that have names, as codes in base 36 with a plus sign between two of them; an
equals sign; and the names, with commas between them. -/
def characterNameLines : List String :=
  ["9=Tab a=NewLine x=excl y=QUOT,quot z=num 10=dollar 11=percnt 12=AMP,amp 13=apos 14=lpar",
    "15=rpar 16=ast,midast 17=plus 18=comma 1a=period 1b=sol 1m=colon 1n=semi 1o=LT,lt 1p=equals",
    "1q=GT,gt 1r=quest 1s=commat 2j=lbrack,lsqb 2k=bsol 2l=rbrack,rsqb 2m=Hat 2n=UnderBar,lowbar",
    "2o=DiacriticalGrave,grave 3f=lbrace,lcub 3g=VerticalLine,verbar,vert 3h=rbrace,rcub",
    "4g=NonBreakingSpace,nbsp 4h=iexcl 4i=cent 4j=pound 4k=curren 4l=yen 4m=brvbar 4n=sect",
    "4o=Dot,DoubleDot,die,uml 4p=COPY,copy 4q=ordf 4r=laquo 4s=not 4t=shy 4u=REG,circledR,reg",
    "4v=macr,strns 4w=deg 4x=PlusMinus,plusmn,pm 4y=sup2 4z=sup3 50=DiacriticalAcute,acute",
    "51=micro 52=para 53=CenterDot,centerdot,middot 54=Cedilla,cedil 55=sup1 56=ordm 57=raquo",
    "58=frac14 59=frac12,half 5a=frac34 5b=iquest 5c=Agrave 5d=Aacute 5e=Acirc 5f=Atilde 5g=Auml",
    "5h=Aring,angst 5i=AElig 5j=Ccedil 5k=Egrave 5l=Eacute 5m=Ecirc 5n=Euml 5o=Igrave 5p=Iacute",
    "5q=Icirc 5r=Iuml 5s=ETH 5t=Ntilde 5u=Ograve 5v=Oacute 5w=Ocirc 5x=Otilde 5y=Ouml 5z=times",
    "60=Oslash 61=Ugrave 62=Uacute 63=Ucirc 64=Uuml 65=Yacute 66=THORN 67=szlig 68=agrave",
    "69=aacute 6a=acirc 6b=atilde 6c=auml 6d=aring 6e=aelig 6f=ccedil 6g=egrave 6h=eacute",
    "6i=ecirc 6j=euml 6k=igrave 6l=iacute 6m=icirc 6n=iuml 6o=eth 6p=ntilde 6q=ograve 6r=oacute",
    "6s=ocirc 6t=otilde 6u=ouml 6v=div,divide 6w=oslash 6x=ugrave 6y=uacute 6z=ucirc 70=uuml",
    "71=yacute 72=thorn 73=yuml 74=Amacr 75=amacr 76=Abreve 77=abreve 78=Aogon 79=aogon 7a=Cacute",
    "7b=cacute 7c=Ccirc 7d=ccirc 7e=Cdot 7f=cdot 7g=Ccaron 7h=ccaron 7i=Dcaron 7j=dcaron",
    "7k=Dstrok 7l=dstrok 7m=Emacr 7n=emacr 7q=Edot 7r=edot 7s=Eogon 7t=eogon 7u=Ecaron 7v=ecaron",
    "7w=Gcirc 7x=gcirc 7y=Gbreve 7z=gbreve 80=Gdot 81=gdot 82=Gcedil 84=Hcirc 85=hcirc 86=Hstrok",
    "87=hstrok 88=Itilde 89=itilde 8a=Imacr 8b=imacr 8e=Iogon 8f=iogon 8g=Idot 8h=imath,inodot",
    "8i=IJlig 8j=ijlig 8k=Jcirc 8l=jcirc 8m=Kcedil 8n=kcedil 8o=kgreen 8p=Lacute 8q=lacute",
    "8r=Lcedil 8s=lcedil 8t=Lcaron 8u=lcaron 8v=Lmidot 8w=lmidot 8x=Lstrok 8y=lstrok 8z=Nacute",
    "90=nacute 91=Ncedil 92=ncedil 93=Ncaron 94=ncaron 95=napos 96=ENG 97=eng 98=Omacr 99=omacr",
    "9c=Odblac 9d=odblac 9e=OElig 9f=oelig 9g=Racute 9h=racute 9i=Rcedil 9j=rcedil 9k=Rcaron",
    "9l=rcaron 9m=Sacute 9n=sacute 9o=Scirc 9p=scirc 9q=Scedil 9r=scedil 9s=Scaron 9t=scaron",
    "9u=Tcedil 9v=tcedil 9w=Tcaron 9x=tcaron 9y=Tstrok 9z=tstrok a0=Utilde a1=utilde a2=Umacr",
    "a3=umacr a4=Ubreve a5=ubreve a6=Uring a7=uring a8=Udblac a9=udblac aa=Uogon ab=uogon",
    "ac=Wcirc ad=wcirc ae=Ycirc af=ycirc ag=Yuml ah=Zacute ai=zacute aj=Zdot ak=zdot al=Zcaron",
    "am=zcaron b6=fnof c5=imped dx=gacute fr=jmath jq=circ jr=Hacek,caron k8=Breve,breve",
    "k9=DiacriticalDot,dot ka=ring kb=ogon kc=DiacriticalTilde,tilde",
    "kd=DiacriticalDoubleAcute,dblac lt=DownBreve pd=Alpha pe=Beta pf=Gamma pg=Delta ph=Epsilon",
    "pi=Zeta pj=Eta pk=Theta pl=Iota pm=Kappa pn=Lambda po=Mu pp=Nu pq=Xi pr=Omicron ps=Pi pt=Rho",
    "pv=Sigma pw=Tau px=Upsilon py=Phi pz=Chi q0=Psi q1=Omega,ohm q9=alpha qa=beta qb=gamma",
    "qc=delta qd=epsi,epsilon qe=zeta qf=eta qg=theta qh=iota qi=kappa qj=lambda qk=mu ql=nu",
    "qm=xi qn=omicron qo=pi qp=rho qq=sigmaf,sigmav,varsigma qr=sigma qs=tau qt=upsi,upsilon",
    "qu=phi qv=chi qw=psi qx=omega r5=thetasym,thetav,vartheta r6=Upsi,upsih",
    "r9=phiv,straightphi,varphi ra=piv,varpi rg=Gammad rh=digamma,gammad s0=kappav,varkappa",
    "s1=rhov,varrho s5=epsiv,straightepsilon,varepsilon s6=backepsilon,bepsi sh=IOcy si=DJcy",
    "sj=GJcy sk=Jukcy sl=DScy sm=Iukcy sn=YIcy so=Jsercy sp=LJcy sq=NJcy sr=TSHcy ss=KJcy",
    "su=Ubrcy sv=DZcy sw=Acy sx=Bcy sy=Vcy sz=Gcy t0=Dcy t1=IEcy t2=ZHcy t3=Zcy t4=Icy t5=Jcy",
    "t6=Kcy t7=Lcy t8=Mcy t9=Ncy ta=Ocy tb=Pcy tc=Rcy td=Scy te=Tcy tf=Ucy tg=Fcy th=KHcy ti=TScy",
    "tj=CHcy tk=SHcy tl=SHCHcy tm=HARDcy tn=Ycy to=SOFTcy tp=Ecy tq=YUcy tr=YAcy ts=acy tt=bcy",
    "tu=vcy tv=gcy tw=dcy tx=iecy ty=zhcy tz=zcy u0=icy u1=jcy u2=kcy u3=lcy u4=mcy u5=ncy u6=ocy",
    "u7=pcy u8=rcy u9=scy ua=tcy ub=ucy uc=fcy ud=khcy ue=tscy uf=chcy ug=shcy uh=shchcy",
    "ui=hardcy uj=ycy uk=softcy ul=ecy um=yucy un=yacy up=iocy uq=djcy ur=gjcy us=jukcy ut=dscy",
    "uu=iukcy uv=yicy uw=jsercy ux=ljcy uy=njcy uz=tshcy v0=kjcy v2=ubrcy v3=dzcy 6bm=ensp",
    "6bn=emsp 6bo=emsp13 6bp=emsp14 6br=numsp 6bs=puncsp 6bt=ThinSpace,thinsp",
    "6bu=VeryThinSpace,hairsp",
    "6bv=NegativeMediumSpace,NegativeThickSpace,NegativeThinSpace,NegativeVeryThinSpace",
    "6bv=ZeroWidthSpace 6bw=zwnj 6bx=zwj 6by=lrm 6bz=rlm 6c0=dash,hyphen 6c3=ndash 6c4=mdash",
    "6c5=horbar 6c6=Verbar,Vert 6c8=OpenCurlyQuote,lsquo 6c9=CloseCurlyQuote,rsquo,rsquor",
    "6ca=lsquor,sbquo 6cc=OpenCurlyDoubleQuote,ldquo 6cd=CloseCurlyDoubleQuote,rdquo,rdquor",
    "6ce=bdquo,ldquor 6cg=dagger 6ch=Dagger,ddagger 6ci=bull,bullet 6cl=nldr 6cm=hellip,mldr",
    "6cw=permil 6cx=pertenk 6cy=prime 6cz=Prime 6d0=tprime 6d1=backprime,bprime 6d5=lsaquo",
    "6d6=rsaquo 6da=OverBar,oline 6dd=caret 6df=hybull 6dg=frasl 6dr=bsemi 6dz=qprime",
    "6e7=MediumSpace 6e8=NoBreak 6e9=ApplyFunction,af 6ea=InvisibleTimes,it 6eb=InvisibleComma,ic",
    "6gc=euro 6hn=TripleDot,tdot 6ho=DotDot 6iq=Copf,complexes 6it=incare 6iy=gscr",
    "6iz=HilbertSpace,Hscr,hamilt 6j0=Hfr,Poincareplane 6j1=Hopf,quaternions 6j2=planckh",
    "6j3=hbar,hslash,planck,plankv 6j4=Iscr,imagline 6j5=Ifr,Im,image,imagpart",
    "6j6=Laplacetrf,Lscr,lagran 6j7=ell 6j9=Nopf,naturals 6ja=numero 6jb=copysr 6jc=weierp,wp",
    "6jd=Popf,primes 6je=Qopf,rationals 6jf=Rscr,realine 6jg=Re,Rfr,real,realpart 6jh=Ropf,reals",
    "6ji=rx 6jm=TRADE,trade 6jo=Zopf,integers 6jr=mho 6js=Zfr,zeetrf 6jt=iiota",
    "6jw=Bernoullis,Bscr,bernou 6jx=Cayleys,Cfr 6jz=escr 6k0=Escr,expectation 6k1=Fouriertrf,Fscr",
    "6k3=Mellintrf,Mscr,phmmat 6k4=order,orderof,oscr 6k5=alefsym,aleph 6k6=beth 6k7=gimel",
    "6k8=daleth 6kl=CapitalDifferentialD,DD 6km=DifferentialD,dd 6kn=ExponentialE,ee,exponentiale",
    "6ko=ImaginaryI,ii 6kz=frac13 6l0=frac23 6l1=frac15 6l2=frac25 6l3=frac35 6l4=frac45",
    "6l5=frac16 6l6=frac56 6l7=frac18 6l8=frac38 6l9=frac58 6la=frac78",
    "6mo=LeftArrow,ShortLeftArrow,larr,leftarrow,slarr 6mp=ShortUpArrow,UpArrow,uarr,uparrow",
    "6mq=RightArrow,ShortRightArrow,rarr,rightarrow,srarr",
    "6mr=DownArrow,ShortDownArrow,darr,downarrow 6ms=LeftRightArrow,harr,leftrightarrow",
    "6mt=UpDownArrow,updownarrow,varr 6mu=UpperLeftArrow,nwarr,nwarrow",
    "6mv=UpperRightArrow,nearr,nearrow 6mw=LowerRightArrow,searr,searrow",
    "6mx=LowerLeftArrow,swarr,swarrow 6my=nlarr,nleftarrow 6mz=nrarr,nrightarrow",
    "6n1=rarrw,rightsquigarrow 6n2=Larr,twoheadleftarrow 6n3=Uarr 6n4=Rarr,twoheadrightarrow",
    "6n5=Darr 6n6=larrtl,leftarrowtail 6n7=rarrtl,rightarrowtail 6n8=LeftTeeArrow,mapstoleft",
    "6n9=UpTeeArrow,mapstoup 6na=RightTeeArrow,map,mapsto 6nb=DownTeeArrow,mapstodown",
    "6nd=hookleftarrow,larrhk 6ne=hookrightarrow,rarrhk 6nf=larrlp,looparrowleft",
    "6ng=looparrowright,rarrlp 6nh=harrw,leftrightsquigarrow 6ni=nharr,nleftrightarrow",
    "6nk=Lsh,lsh 6nl=Rsh,rsh 6nm=ldsh 6nn=rdsh 6np=crarr 6nq=cularr,curvearrowleft",
    "6nr=curarr,curvearrowright 6nu=circlearrowleft,olarr 6nv=circlearrowright,orarr",
    "6nw=LeftVector,leftharpoonup,lharu 6nx=DownLeftVector,leftharpoondown,lhard",
    "6ny=RightUpVector,uharr,upharpoonright 6nz=LeftUpVector,uharl,upharpoonleft",
    "6o0=RightVector,rharu,rightharpoonup 6o1=DownRightVector,rhard,rightharpoondown",
    "6o2=RightDownVector,dharr,downharpoonright 6o3=LeftDownVector,dharl,downharpoonleft",
    "6o4=RightArrowLeftArrow,rightleftarrows,rlarr 6o5=UpArrowDownArrow,udarr",
    "6o6=LeftArrowRightArrow,leftrightarrows,lrarr 6o7=leftleftarrows,llarr 6o8=upuparrows,uuarr",
    "6o9=rightrightarrows,rrarr 6oa=ddarr,downdownarrows",
    "6ob=ReverseEquilibrium,leftrightharpoons,lrhar 6oc=Equilibrium,rightleftharpoons,rlhar",
    "6od=nLeftarrow,nlArr 6oe=nLeftrightarrow,nhArr 6of=nRightarrow,nrArr",
    "6og=DoubleLeftArrow,Leftarrow,lArr 6oh=DoubleUpArrow,Uparrow,uArr",
    "6oi=DoubleRightArrow,Implies,Rightarrow,rArr 6oj=DoubleDownArrow,Downarrow,dArr",
    "6ok=DoubleLeftRightArrow,Leftrightarrow,hArr,iff 6ol=DoubleUpDownArrow,Updownarrow,vArr",
    "6om=nwArr 6on=neArr 6oo=seArr 6op=swArr 6oq=Lleftarrow,lAarr 6or=Rrightarrow,rAarr",
    "6ot=zigrarr 6p0=LeftArrowBar,larrb 6p1=RightArrowBar,rarrb 6ph=DownArrowUpArrow,duarr",
    "6pp=loarr 6pq=roarr 6pr=hoarr 6ps=ForAll,forall 6pt=comp,complement 6pu=PartialD,part",
    "6pv=Exists,exist 6pw=NotExists,nexist,nexists 6px=empty,emptyset,emptyv,varnothing",
    "6pz=Del,nabla 6q0=Element,in,isin,isinv 6q1=NotElement,notin,notinva",
    "6q3=ReverseElement,SuchThat,ni,niv 6q4=NotReverseElement,notni,notniva 6q7=Product,prod",
    "6q8=Coproduct,coprod 6q9=Sum,sum 6qa=minus 6qb=MinusPlus,mnplus,mp 6qc=dotplus,plusdo",
    "6qe=Backslash,setminus,setmn,smallsetminus,ssetmn 6qf=lowast 6qg=SmallCircle,compfn",
    "6qi=Sqrt,radic 6ql=Proportional,prop,propto,varpropto,vprop 6qm=infin 6qn=angrt",
    "6qo=ang,angle 6qp=angmsd,measuredangle 6qq=angsph 6qr=VerticalBar,mid,shortmid,smid",
    "6qs=NotVerticalBar,nmid,nshortmid,nsmid",
    "6qt=DoubleVerticalBar,par,parallel,shortparallel,spar",
    "6qu=NotDoubleVerticalBar,npar,nparallel,nshortparallel,nspar 6qv=and,wedge 6qw=or,vee",
    "6qx=cap 6qy=cup 6qz=Integral,int 6r0=Int 6r1=iiint,tint 6r2=ContourIntegral,conint,oint",
    "6r3=Conint,DoubleContourIntegral 6r4=Cconint 6r5=cwint 6r6=ClockwiseContourIntegral,cwconint",
    "6r7=CounterClockwiseContourIntegral,awconint 6r8=Therefore,there4,therefore",
    "6r9=Because,becaus,because 6ra=ratio 6rb=Colon,Proportion 6rc=dotminus,minusd 6re=mDDot",
    "6rf=homtht 6rg=Tilde,sim,thicksim,thksim 6rh=backsim,bsim 6ri=ac,mstpos 6rj=acd",
    "6rk=VerticalTilde,wr,wreath 6rl=NotTilde,nsim 6rm=EqualTilde,eqsim,esim",
    "6rn=TildeEqual,sime,simeq 6ro=NotTildeEqual,nsime,nsimeq 6rp=TildeFullEqual,cong 6rq=simne",
    "6rr=NotTildeFullEqual,ncong 6rs=TildeTilde,ap,approx,asymp,thickapprox,thkap",
    "6rt=NotTildeTilde,nap,napprox 6ru=ape,approxeq 6rv=apid 6rw=backcong,bcong",
    "6rx=CupCap,asympeq 6ry=Bumpeq,HumpDownHump,bump 6rz=HumpEqual,bumpe,bumpeq",
    "6s0=DotEqual,doteq,esdot 6s1=doteqdot,eDot 6s2=efDot,fallingdotseq 6s3=erDot,risingdotseq",
    "6s4=Assign,colone,coloneq 6s5=ecolon,eqcolon 6s6=ecir,eqcirc 6s7=circeq,cire 6s9=wedgeq",
    "6sa=veeeq 6sc=triangleq,trie 6sf=equest,questeq 6sg=NotEqual,ne 6sh=Congruent,equiv",
    "6si=NotCongruent,nequiv 6sk=le,leq 6sl=GreaterEqual,ge,geq 6sm=LessFullEqual,lE,leqq",
    "6sn=GreaterFullEqual,gE,geqq 6so=lnE,lneqq 6sp=gnE,gneqq 6sq=Lt,NestedLessLess,ll",
    "6sr=Gt,NestedGreaterGreater,gg 6ss=between,twixt 6st=NotCupCap 6su=NotLess,nless,nlt",
    "6sv=NotGreater,ngt,ngtr 6sw=NotLessEqual,nle,nleq 6sx=NotGreaterEqual,nge,ngeq",
    "6sy=LessTilde,lesssim,lsim 6sz=GreaterTilde,gsim,gtrsim 6t0=NotLessTilde,nlsim",
    "6t1=NotGreaterTilde,ngsim 6t2=LessGreater,lessgtr,lg 6t3=GreaterLess,gl,gtrless",
    "6t4=NotLessGreater,ntlg 6t5=NotGreaterLess,ntgl 6t6=Precedes,pr,prec 6t7=Succeeds,sc,succ",
    "6t8=PrecedesSlantEqual,prcue,preccurlyeq 6t9=SucceedsSlantEqual,sccue,succcurlyeq",
    "6ta=PrecedesTilde,precsim,prsim 6tb=SucceedsTilde,scsim,succsim 6tc=NotPrecedes,npr,nprec",
    "6td=NotSucceeds,nsc,nsucc 6te=sub,subset 6tf=Superset,sup,supset 6tg=nsub 6th=nsup",
    "6ti=SubsetEqual,sube,subseteq 6tj=SupersetEqual,supe,supseteq",
    "6tk=NotSubsetEqual,nsube,nsubseteq 6tl=NotSupersetEqual,nsupe,nsupseteq 6tm=subne,subsetneq",
    "6tn=supne,supsetneq 6tp=cupdot 6tq=UnionPlus,uplus 6tr=SquareSubset,sqsub,sqsubset",
    "6ts=SquareSuperset,sqsup,sqsupset 6tt=SquareSubsetEqual,sqsube,sqsubseteq",
    "6tu=SquareSupersetEqual,sqsupe,sqsupseteq 6tv=SquareIntersection,sqcap 6tw=SquareUnion,sqcup",
    "6tx=CirclePlus,oplus 6ty=CircleMinus,ominus 6tz=CircleTimes,otimes 6u0=osol",
    "6u1=CircleDot,odot 6u2=circledcirc,ocir 6u3=circledast,oast 6u5=circleddash,odash",
    "6u6=boxplus,plusb 6u7=boxminus,minusb 6u8=boxtimes,timesb 6u9=dotsquare,sdotb",
    "6ua=RightTee,vdash 6ub=LeftTee,dashv 6uc=DownTee,top 6ud=UpTee,bot,bottom,perp 6uf=models",
    "6ug=DoubleRightTee,vDash 6uh=Vdash 6ui=Vvdash 6uj=VDash 6uk=nvdash 6ul=nvDash 6um=nVdash",
    "6un=nVDash 6uo=prurel 6uq=LeftTriangle,vartriangleleft,vltri",
    "6ur=RightTriangle,vartriangleright,vrtri 6us=LeftTriangleEqual,ltrie,trianglelefteq",
    "6ut=RightTriangleEqual,rtrie,trianglerighteq 6uu=origof 6uv=imof 6uw=multimap,mumap",
    "6ux=hercon 6uy=intcal,intercal 6uz=veebar 6v1=barvee 6v2=angrtvb 6v3=lrtri",
    "6v4=Wedge,bigwedge,xwedge 6v5=Vee,bigvee,xvee 6v6=Intersection,bigcap,xcap",
    "6v7=Union,bigcup,xcup 6v8=Diamond,diam,diamond 6v9=sdot 6va=Star,sstarf",
    "6vb=divideontimes,divonx 6vc=bowtie 6vd=ltimes 6ve=rtimes 6vf=leftthreetimes,lthree",
    "6vg=rightthreetimes,rthree 6vh=backsimeq,bsime 6vi=curlyvee,cuvee 6vj=curlywedge,cuwed",
    "6vk=Sub,Subset 6vl=Sup,Supset 6vm=Cap 6vn=Cup 6vo=fork,pitchfork 6vp=epar 6vq=lessdot,ltdot",
    "6vr=gtdot,gtrdot 6vs=Ll 6vt=Gg,ggg 6vu=LessEqualGreater,leg,lesseqgtr",
    "6vv=GreaterEqualLess,gel,gtreqless 6vy=cuepr,curlyeqprec 6vz=cuesc,curlyeqsucc",
    "6w0=NotPrecedesSlantEqual,nprcue 6w1=NotSucceedsSlantEqual,nsccue",
    "6w2=NotSquareSubsetEqual,nsqsube 6w3=NotSquareSupersetEqual,nsqsupe 6w6=lnsim 6w7=gnsim",
    "6w8=precnsim,prnsim 6w9=scnsim,succnsim 6wa=NotLeftTriangle,nltri,ntriangleleft",
    "6wb=NotRightTriangle,nrtri,ntriangleright 6wc=NotLeftTriangleEqual,nltrie,ntrianglelefteq",
    "6wd=NotRightTriangleEqual,nrtrie,ntrianglerighteq 6we=vellip 6wf=ctdot 6wg=utdot 6wh=dtdot",
    "6wi=disin 6wj=isinsv 6wk=isins 6wl=isindot 6wm=notinvc 6wn=notinvb 6wp=isinE 6wq=nisd",
    "6wr=xnis 6ws=nis 6wt=notnivc 6wu=notnivb 6x1=barwed,barwedge 6x2=Barwed,doublebarwedge",
    "6x4=LeftCeiling,lceil 6x5=RightCeiling,rceil 6x6=LeftFloor,lfloor 6x7=RightFloor,rfloor",
    "6x8=drcrop 6x9=dlcrop 6xa=urcrop 6xb=ulcrop 6xc=bnot 6xe=profline 6xf=profsurf 6xh=telrec",
    "6xi=target 6xo=ulcorn,ulcorner 6xp=urcorn,urcorner 6xq=dlcorn,llcorner 6xr=drcorn,lrcorner",
    "6xu=frown,sfrown 6xv=smile,ssmile 6y5=cylcty 6y6=profalar 6ye=topbot 6yl=ovbar 6yn=solbar",
    "70c=angzarr 71s=lmoust,lmoustache 71t=rmoust,rmoustache 71w=OverBracket,tbrk",
    "71x=UnderBracket,bbrk 71y=bbrktbrk 730=OverParenthesis 731=UnderParenthesis 732=OverBrace",
    "733=UnderBrace 736=trpezium 73b=elinters 74z=blank 79k=circledS,oS 7b4=HorizontalLine,boxh",
    "7b6=boxv 7bg=boxdr 7bk=boxdl 7bo=boxur 7bs=boxul 7bw=boxvr 7c4=boxvl 7cc=boxhd 7ck=boxhu",
    "7cs=boxvh 7dc=boxH 7dd=boxV 7de=boxdR 7df=boxDr 7dg=boxDR 7dh=boxdL 7di=boxDl 7dj=boxDL",
    "7dk=boxuR 7dl=boxUr 7dm=boxUR 7dn=boxuL 7do=boxUl 7dp=boxUL 7dq=boxvR 7dr=boxVr 7ds=boxVR",
    "7dt=boxvL 7du=boxVl 7dv=boxVL 7dw=boxHd 7dx=boxhD 7dy=boxHD 7dz=boxHu 7e0=boxhU 7e1=boxHU",
    "7e2=boxvH 7e3=boxVh 7e4=boxVH 7eo=uhblk 7es=lhblk 7ew=block 7f5=blk14 7f6=blk12 7f7=blk34",
    "7fl=Square,squ,square 7fu=FilledVerySmallSquare,blacksquare,squarf,squf",
    "7fv=EmptyVerySmallSquare 7fx=rect 7fy=marker 7g1=fltns 7g3=bigtriangleup,xutri",
    "7g4=blacktriangle,utrif 7g5=triangle,utri 7g8=blacktriangleright,rtrif",
    "7g9=rtri,triangleright 7gd=bigtriangledown,xdtri 7ge=blacktriangledown,dtrif",
    "7gf=dtri,triangledown 7gi=blacktriangleleft,ltrif 7gj=ltri,triangleleft 7gq=loz,lozenge",
    "7gr=cir 7ho=tridot 7hr=bigcirc,xcirc 7i0=ultri 7i1=urtri 7i2=lltri 7i3=EmptySmallSquare",
    "7i4=FilledSmallSquare 7id=bigstar,starf 7ie=star 7im=phone 7k0=female 7k2=male",
    "7kw=spades,spadesuit 7kz=clubs,clubsuit 7l1=hearts,heartsuit 7l2=diamondsuit,diams 7l6=sung",
    "7l9=flat 7la=natur,natural 7lb=sharp 7pv=check,checkmark 7pz=cross 7q8=malt,maltese 7qu=sext",
    "7rs=VerticalSeparator 7si=lbbrk 7sj=rbbrk 7uw=bsolhsub 7ux=suphsol",
    "7vq=LeftDoubleBracket,lobrk 7vr=RightDoubleBracket,robrk 7vs=LeftAngleBracket,lang,langle",
    "7vt=RightAngleBracket,rang,rangle 7vu=Lang 7vv=Rang 7vw=loang 7vx=roang",
    "7w5=LongLeftArrow,longleftarrow,xlarr 7w6=LongRightArrow,longrightarrow,xrarr",
    "7w7=LongLeftRightArrow,longleftrightarrow,xharr 7w8=DoubleLongLeftArrow,Longleftarrow,xlArr",
    "7w9=DoubleLongRightArrow,Longrightarrow,xrArr",
    "7wa=DoubleLongLeftRightArrow,Longleftrightarrow,xhArr 7wc=longmapsto,xmap 7wf=dzigrarr",
    "83m=nvlArr 83n=nvrArr 83o=nvHarr 83p=Map 83w=lbarr 83x=bkarow,rbarr 83y=lBarr",
    "83z=dbkarow,rBarr 840=RBarr,drbkarow 841=DDotrahd 842=UpArrowBar 843=DownArrowBar 846=Rarrtl",
    "849=latail 84a=ratail 84b=lAtail 84c=rAtail 84d=larrfs 84e=rarrfs 84f=larrbfs 84g=rarrbfs",
    "84j=nwarhk 84k=nearhk 84l=hksearow,searhk 84m=hkswarow,swarhk 84n=nwnear 84o=nesear,toea",
    "84p=seswar,tosa 84q=swnwar 84z=rarrc 851=cudarrr 852=ldca 853=rdca 854=cudarrl 855=larrpl",
    "858=curarrm 859=cularrp 85h=rarrpl 85k=harrcir 85l=Uarrocir 85m=lurdshar 85n=ldrushar",
    "85q=LeftRightVector 85r=RightUpDownVector 85s=DownLeftRightVector 85t=LeftUpDownVector",
    "85u=LeftVectorBar 85v=RightVectorBar 85w=RightUpVectorBar 85x=RightDownVectorBar",
    "85y=DownLeftVectorBar 85z=DownRightVectorBar 860=LeftUpVectorBar 861=LeftDownVectorBar",
    "862=LeftTeeVector 863=RightTeeVector 864=RightUpTeeVector 865=RightDownTeeVector",
    "866=DownLeftTeeVector 867=DownRightTeeVector 868=LeftUpTeeVector 869=LeftDownTeeVector",
    "86a=lHar 86b=uHar 86c=rHar 86d=dHar 86e=luruhar 86f=ldrdhar 86g=ruluhar 86h=rdldhar",
    "86i=lharul 86j=llhard 86k=rharul 86l=lrhard 86m=UpEquilibrium,udhar",
    "86n=ReverseUpEquilibrium,duhar 86o=RoundImplies 86p=erarr 86q=simrarr 86r=larrsim",
    "86s=rarrsim 86t=rarrap 86u=ltlarr 86w=gtrarr 86x=subrarr 86z=suplarr 870=lfisht 871=rfisht",
    "872=ufisht 873=dfisht 879=lopar 87a=ropar 87f=lbrke 87g=rbrke 87h=lbrkslu 87i=rbrksld",
    "87j=lbrksld 87k=rbrkslu 87l=langd 87m=rangd 87n=lparlt 87o=rpargt 87p=gtlPar 87q=ltrPar",
    "87u=vzigzag 87w=vangrt 87x=angrtvbd 884=ange 885=range 886=dwangle 887=uwangle 888=angmsdaa",
    "889=angmsdab 88a=angmsdac 88b=angmsdad 88c=angmsdae 88d=angmsdaf 88e=angmsdag 88f=angmsdah",
    "88g=bemptyv 88h=demptyv 88i=cemptyv 88j=raemptyv 88k=laemptyv 88l=ohbar 88m=omid 88n=opar",
    "88p=operp 88r=olcross 88s=odsold 88u=olcir 88v=ofcir 88w=olt 88x=ogt 88y=cirscir 88z=cirE",
    "890=solb 891=bsolb 895=boxbox 899=trisb 89a=rtriltri 89b=LeftTriangleBar",
    "89c=RightTriangleBar 89o=iinfin 89p=infintie 89q=nvinfin 89v=eparsl 89w=smeparsl",
    "89x=eqvparsl 8a3=blacklozenge,lozf 8ac=RuleDelayed 8ae=dsol 8ao=bigodot,xodot",
    "8ap=bigoplus,xoplus 8aq=bigotimes,xotime 8as=biguplus,xuplus 8au=bigsqcup,xsqcup",
    "8b0=iiiint,qint 8b1=fpartint 8b4=cirfnint 8b5=awint 8b6=rppolint 8b7=scpolint 8b8=npolint",
    "8b9=pointint 8ba=quatint 8bb=intlarhk 8bm=pluscir 8bn=plusacir 8bo=simplus 8bp=plusdu",
    "8bq=plussim 8br=plustwo 8bt=mcomma 8bu=minusdu 8bx=loplus 8by=roplus 8bz=Cross 8c0=timesd",
    "8c1=timesbar 8c3=smashp 8c4=lotimes 8c5=rotimes 8c6=otimesas 8c7=Otimes 8c8=odiv 8c9=triplus",
    "8ca=triminus 8cb=tritime 8cc=intprod,iprod 8cf=amalg 8cg=capdot 8ci=ncup 8cj=ncap 8ck=capand",
    "8cl=cupor 8cm=cupcap 8cn=capcup 8co=cupbrcap 8cp=capbrcup 8cq=cupcup 8cr=capcap 8cs=ccups",
    "8ct=ccaps 8cw=ccupssm 8cz=And 8d0=Or 8d1=andand 8d2=oror 8d3=orslope 8d4=andslope 8d6=andv",
    "8d7=orv 8d8=andd 8d9=ord 8db=wedbar 8di=sdote 8dm=simdot 8dp=congdot 8dq=easter 8dr=apacir",
    "8ds=apE 8dt=eplus 8du=pluse 8dv=Esim 8dw=Colone 8dx=Equal 8dz=ddotseq,eDDot 8e0=equivDD",
    "8e1=ltcir 8e2=gtcir 8e3=ltquest 8e4=gtquest 8e5=LessSlantEqual,leqslant,les",
    "8e6=GreaterSlantEqual,geqslant,ges 8e7=lesdot 8e8=gesdot 8e9=lesdoto 8ea=gesdoto",
    "8eb=lesdotor 8ec=gesdotol 8ed=lap,lessapprox 8ee=gap,gtrapprox 8ef=lne,lneq 8eg=gne,gneq",
    "8eh=lnap,lnapprox 8ei=gnap,gnapprox 8ej=lEg,lesseqqgtr 8ek=gEl,gtreqqless 8el=lsime",
    "8em=gsime 8en=lsimg 8eo=gsiml 8ep=lgE 8eq=glE 8er=lesges 8es=gesles 8et=els,eqslantless",
    "8eu=egs,eqslantgtr 8ev=elsdot 8ew=egsdot 8ex=el 8ey=eg 8f1=siml 8f2=simg 8f3=simlE 8f4=simgE",
    "8f5=LessLess 8f6=GreaterGreater 8f8=glj 8f9=gla 8fa=ltcc 8fb=gtcc 8fc=lescc 8fd=gescc",
    "8fe=smt 8ff=lat 8fg=smte 8fh=late 8fi=bumpE 8fj=PrecedesEqual,pre,preceq",
    "8fk=SucceedsEqual,sce,succeq 8fn=prE 8fo=scE 8fp=precneqq,prnE 8fq=scnE,succneqq",
    "8fr=prap,precapprox 8fs=scap,succapprox 8ft=precnapprox,prnap 8fu=scnap,succnapprox 8fv=Pr",
    "8fw=Sc 8fx=subdot 8fy=supdot 8fz=subplus 8g0=supplus 8g1=submult 8g2=supmult 8g3=subedot",
    "8g4=supedot 8g5=subE,subseteqq 8g6=supE,supseteqq 8g7=subsim 8g8=supsim 8gb=subnE,subsetneqq",
    "8gc=supnE,supsetneqq 8gf=csub 8gg=csup 8gh=csube 8gi=csupe 8gj=subsup 8gk=supsub 8gl=subsub",
    "8gm=supsup 8gn=suphsub 8go=supdsub 8gp=forkv 8gq=topfork 8gr=mlcp 8h0=Dashv,DoubleLeftTee",
    "8h2=Vdashl 8h3=Barv 8h4=vBar 8h5=vBarv 8h7=Vbar 8h8=Not 8h9=bNot 8ha=rnmid 8hb=cirmid",
    "8hc=midcir 8hd=topcir 8he=nhpar 8hf=parsim 8hp=parsl 1dkw=fflig 1dkx=filig 1dky=fllig",
    "1dkz=ffilig 1dl0=ffllig 2kkc=Ascr 2kke=Cscr 2kkf=Dscr 2kki=Gscr 2kkl=Jscr 2kkm=Kscr",
    "2kkp=Nscr 2kkq=Oscr 2kkr=Pscr 2kks=Qscr 2kku=Sscr 2kkv=Tscr 2kkw=Uscr 2kkx=Vscr 2kky=Wscr",
    "2kkz=Xscr 2kl0=Yscr 2kl1=Zscr 2kl2=ascr 2kl3=bscr 2kl4=cscr 2kl5=dscr 2kl7=fscr 2kl9=hscr",
    "2kla=iscr 2klb=jscr 2klc=kscr 2kld=lscr 2kle=mscr 2klf=nscr 2klh=pscr 2kli=qscr 2klj=rscr",
    "2klk=sscr 2kll=tscr 2klm=uscr 2kln=vscr 2klo=wscr 2klp=xscr 2klq=yscr 2klr=zscr 2kn8=Afr",
    "2kn9=Bfr 2knb=Dfr 2knc=Efr 2knd=Ffr 2kne=Gfr 2knh=Jfr 2kni=Kfr 2knj=Lfr 2knk=Mfr 2knl=Nfr",
    "2knm=Ofr 2knn=Pfr 2kno=Qfr 2knq=Sfr 2knr=Tfr 2kns=Ufr 2knt=Vfr 2knu=Wfr 2knv=Xfr 2knw=Yfr",
    "2kny=afr 2knz=bfr 2ko0=cfr 2ko1=dfr 2ko2=efr 2ko3=ffr 2ko4=gfr 2ko5=hfr 2ko6=ifr 2ko7=jfr",
    "2ko8=kfr 2ko9=lfr 2koa=mfr 2kob=nfr 2koc=ofr 2kod=pfr 2koe=qfr 2kof=rfr 2kog=sfr 2koh=tfr",
    "2koi=ufr 2koj=vfr 2kok=wfr 2kol=xfr 2kom=yfr 2kon=zfr 2koo=Aopf 2kop=Bopf 2kor=Dopf",
    "2kos=Eopf 2kot=Fopf 2kou=Gopf 2kow=Iopf 2kox=Jopf 2koy=Kopf 2koz=Lopf 2kp0=Mopf 2kp2=Oopf",
    "2kp6=Sopf 2kp7=Topf 2kp8=Uopf 2kp9=Vopf 2kpa=Wopf 2kpb=Xopf 2kpc=Yopf 2kpe=aopf 2kpf=bopf",
    "2kpg=copf 2kph=dopf 2kpi=eopf 2kpj=fopf 2kpk=gopf 2kpl=hopf 2kpm=iopf 2kpn=jopf 2kpo=kopf",
    "2kpp=lopf 2kpq=mopf 2kpr=nopf 2kps=oopf 2kpt=popf 2kpu=qopf 2kpv=ropf 2kpw=sopf 2kpx=topf",
    "2kpy=uopf 2kpz=vopf 2kq0=wopf 2kq1=xopf 2kq2=yopf 2kq3=zopf 1o+6he=nvlt 1p+6hx=bne",
    "1q+6he=nvgt 2u+2y=fjlig 6e7+6bu=ThickSpace 6n1+mw=nrarrw 6pu+mw=npart 6qo+6he=nang",
    "6qx+1e68=caps 6qy+1e68=cups 6rg+6he=nvsim 6rh+mp=race 6ri+mr=acE 6rm+mw=NotEqualTilde,nesim",
    "6rv+mw=napid 6rx+6he=nvap 6ry+mw=NotHumpDownHump,nbump 6rz+mw=NotHumpEqual,nbumpe",
    "6s0+mw=nedot 6sh+6hx=bnequiv 6sk+6he=nvle 6sl+6he=nvge 6sm+mw=nlE,nleqq",
    "6sn+mw=NotGreaterFullEqual,ngE,ngeqq 6so+1e68=lvertneqq,lvnE 6sp+1e68=gvertneqq,gvnE",
    "6sq+mw=NotLessLess,nLtv 6sq+6he=nLt 6sr+mw=NotGreaterGreater,nGtv 6sr+6he=nGt",
    "6tb+mw=NotSucceedsTilde 6te+6he=NotSubset,nsubset,vnsub 6tf+6he=NotSuperset,nsupset,vnsup",
    "6tm+1e68=varsubsetneq,vsubne 6tn+1e68=varsupsetneq,vsupne 6tr+mw=NotSquareSubset",
    "6ts+mw=NotSquareSuperset 6tv+1e68=sqcaps 6tw+1e68=sqcups 6us+6he=nvltrie 6ut+6he=nvrtrie",
    "6vs+mw=nLl 6vt+mw=nGg 6vu+1e68=lesg 6vv+1e68=gesl 6wl+mw=notindot 6wp+mw=notinE",
    "84z+mw=nrarrc 89b+mw=NotLeftTriangleBar 89c+mw=NotRightTriangleBar 8dp+mw=ncongdot",
    "8ds+mw=napE 8e5+mw=NotLessSlantEqual,nleqslant,nles",
    "8e6+mw=NotGreaterSlantEqual,ngeqslant,nges 8f5+mw=NotNestedLessLess",
    "8f6+mw=NotNestedGreaterGreater 8fg+1e68=smtes 8fh+1e68=lates",
    "8fj+mw=NotPrecedesEqual,npre,npreceq 8fk+mw=NotSucceedsEqual,nsce,nsucceq",
    "8g5+mw=nsubE,nsubseteqq 8g6+mw=nsupE,nsupseteqq 8gb+1e68=varsubsetneqq,vsubnE",
    "8gc+1e68=varsupsetneqq,vsupnE 8hp+6hx=nparsl"]

/-- The names that count without a semicolon. -/
def openNames : List String := words
  ["AElig AMP Aacute Acirc Agrave Aring Atilde Auml COPY Ccedil ETH Eacute Ecirc Egrave Euml GT",
    "Iacute Icirc Igrave Iuml LT Ntilde Oacute Ocirc Ograve Oslash Otilde Ouml QUOT REG THORN",
    "Uacute Ucirc Ugrave Uuml Yacute aacute acirc acute aelig agrave amp aring atilde auml brvbar",
    "ccedil cedil cent copy curren deg divide eacute ecirc egrave eth euml frac12 frac14 frac34",
    "gt iacute icirc iexcl igrave iquest iuml laquo lt macr micro middot nbsp not ntilde oacute",
    "ocirc ograve ordf ordm oslash otilde ouml para plusmn pound quot raquo reg sect shy sup1",
    "sup2 sup3 szlig thorn times uacute ucirc ugrave uml uuml yacute yen yuml"]

def splitAll (sep : Char) (cs : List Char) : List (List Char) := splitAt [sep] cs.length cs

/-- The names in an entry, each with the characters that it stands for. -/
def namesInEntry (entry : String) : List (String × List Char) :=
  match cutAt? ['='] entry.toList with
  | none => []
  | some (codes, names) =>
    let characters := (splitAll '+' codes).map fun code => Char.ofNat (CharClass.number code)
    (splitAll ',' names).map fun name => (String.ofList name, characters)

def characterNames : List (String × List Char) :=
  (words characterNameLines).flatMap namesInEntry

/-- What a name stands for, with a semicolon or without. -/
def namedCharacters? (closed : Bool) (name : String) : Option (List Char) :=
  if closed || openNames.contains name then characterNames.lookup name else none

end Stencil.Text
