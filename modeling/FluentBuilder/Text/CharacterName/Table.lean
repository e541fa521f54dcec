/-!
The names of the characters that have one of their own, in the order of their codes. The rows are
one text. An at sign sets the code of the name behind it; from one name to the next the code grows
by one. The sign before a name says how many words it shares with the name before it, and the other
words follow. Small letters abbreviate a word, and a number sign is the code.
-/

namespace FluentBuilder.Text

/-- The signs for no shared word, one, two and so on. -/
def shareSigns : List Char := "!$%&()*+,./:".toList

def characterNameRows : List String :=
  [
    "@20!jd!hw r!gz r!cz f!tc f!PERCENT f!rd!qh!k ew!i ew!ek!al f!de!xf!ea cl!io!bh bt$o$l$s$w$aa$",
    "ag$an$ah$ar!gn!oo!dg f!fx f!dj f!hi r!vk AT!eb e b A&B&C&D&E&F&G&H&I&J&K&L&M&N&O&P&Q&R&S&T&U&",
    "V&W&X&Y&Z!k au as!jk io!i au as!cb fi!bn cs!cp fi!eb c b A&B&C&D&E&F&G&H&I&J&K&L&M&N&O&P&Q&R&",
    "S&T&U&V&W&X&Y&Z!k hu as!af cs!i hu as!bg@A0!NO-BREAK jd!cu hw r!CENT f!POUND f!vl f!YEN f!BRO",
    "KEN ak!il f!ch!COPYRIGHT f!FEMININE ORDINAL ru!jm p dw gz r!dh f!SOFT ob!REGISTERED f!cw!DEGR",
    "EE f!PLUS-MINUS f!ns l$s!bo fi!MICRO f!PILCROW f!ae q!hd!ns o!MASCULINE ORDINAL ru!ik p dw gz",
    " r!VULGAR js o gi&ao%s mf!cu hi r!eb e b A a cp)bo)cb)bg)ch)bi j&AE&C a hd&E a cp)bo)cb)ch&I ",
    "a cp)bo)cb)ch&ETH&N a bg&O a cp)bo)cb)bg)ch!pa f!eb e b O a y&U a cp)bo)cb)ch&Y a bo&THORN$c ",
    "b SHARP S&A a cp)bo)cb)bg)ch)bi j&AE&C a hd&E a cp)bo)cb)ch&I a cp)bo)cb)ch&ETH&N a bg&O a cp",
    ")bo)cb)bg)ch!rl f!eb c b O a y&U a cp)bo)cb)ch&Y a bo&THORN&Y a ch$e b A a cw$c b A a cw$e b ",
    "A a dn$c b A a dn$e b A a md$c b A a md$e b C a bo$c b C a bo$e b C a cb$c b C a cb$e b C a q",
    " j$c b C a q j$e b C a eo$c b C a eo$e b D a eo$c b D a eo$e b D a y$c b D a y$e b E a cw$c b",
    " E a cw$e b E a dn$c b E a dn$e b E a q j$c b E a q j$e b E a md$c b E a md$e b E a eo$c b E ",
    "a eo$e b G a cb$c b G a cb$e b G a dn$c b G a dn$e b G a q j$c b G a q j$e b G a hd$c b G a h",
    "d$e b H a cb$c b H a cb$e b H a y$c b H a y$e b I a bg$c b I a bg$e b I a cw$c b I a cw$e b I",
    " a dn$c b I a dn$e b I a md$c b I a md$e b I a q j$c b mr I$e gh IJ$c gh IJ$e b J a cb$c b J ",
    "a cb$e b K a hd$c b K a hd&KRA$e b L a bo$c b L a bo$e b L a hd$c b L a hd$e b L a eo$c b L a",
    " eo$e b L a ae q$c b L a ae q$e b L a y$c b L a y$e b N a bo$c b N a bo$e b N a hd$c b N a hd",
    "$e b N a eo$c b N a eo(PRECEDED BY qh$e b ENG$c b ENG$e b O a cw$c b O a cw$e b O a dn$c b O ",
    "a dn$e b O a p bo$c b O a p bo$e gh OE$c gh OE$e b R a bo$c b R a bo$e b R a hd$c b R a hd$e ",
    "b R a eo$c b R a eo$e b S a bo$c b S a bo$e b S a cb$c b S a cb$e b S a hd$c b S a hd$e b S a",
    " eo$c b S a eo$e b T a hd$c b T a hd$e b T a eo$c b T a eo$e b T a y$c b T a y$e b U a bg$c b",
    " U a bg$e b U a cw$c b U a cw$e b U a dn$c b U a dn$e b U a bi j$c b U a bi j$e b U a p bo$c ",
    "b U a p bo$e b U a md$c b U a md$e b W a cb$c b W a cb$e b Y a cb$c b Y a cb$e b Y a ch&Z a b",
    "o$c b Z a bo$e b Z a q j$c b Z a q j$e b Z a eo$c b Z a eo&bz S&B a y$e b B a x)TOPBAR$c b B ",
    "a TOPBAR$e b cd ag$c b cd ag$e b bw O&C a x$c b C a x$e b AFRICAN D&D a x)TOPBAR$c b D a TOPB",
    "AR&by jl$e b cg E&pz&bw E&F a x$c b F a x$e b G a x&iy$c b HV$e b gs&I a y&K a x$c b K a x&L ",
    "a ak&LAMBDA a y$e b by M&N a k x$c b N a bz i LEG$e b O a ae bg)ga$c b O a ga$e b OI$c b OI$e",
    " b P a x$c b P a x$b YR$e b cd l$c b cd l$e b ESH$b cg ESH kj$c b T a hh x$e b T a x$c b T a ",
    "x$e b T a ex x&U a ga$c b U a ga$e b hp&V a x&Y a x$c b Y a x$e b Z a y$c b Z a y$e b EZH(cg$",
    "c b EZH cg(a dr$b l a y$e b cd aa$c b cd aa$b cu hl cl a y%WYNN%DENTAL ou%LATERAL ou%ALVEOLAR",
    " ou%ex ou$e b DZ a eo&D a c b Z a eo$c b DZ a eo$e b LJ&L a c b J$c b LJ$e b NJ&N a c b J$c b",
    " NJ$e b A a eo$c b A a eo$e b I a eo$c b I a eo$e b O a eo$c b O a eo$e b U a eo$c b U a eo$e",
    " b U a ch g cw$c b U a ch g cw$e b U a ch g bo$c b U a ch g bo$e b U a ch g eo$c b U a ch g e",
    "o$e b U a ch g cp$c b U a ch g cp&by E$e b A a ch g cw$c b A a ch g cw$e b A a q j g cw$c b A",
    " a q j g cw$e b AE a cw$c b AE a cw$e b G a y$c b G a y$e b G a eo$c b G a eo$e b K a eo$c b ",
    "K a eo$e b O a md$c b O a md$e b O a md g cw$c b O a md g cw$e b EZH a eo$c b EZH a eo&J a eo",
    "$e b DZ&D a c b Z$c b DZ$e b G a bo$c b G a bo$e b HWAIR&WYNN&N a cp$c b N a cp$e b A a bi j ",
    "g bo$c b A a bi j g bo$e b AE a bo$c b AE a bo$e b O a y g bo$c b O a y g bo$e b A a p cp$c b",
    " A a p cp$e b A a cu dn$c b A a cu dn$e b E a p cp$c b E a p cp$e b E a cu dn$c b E a cu dn$e",
    " b I a p cp$c b I a p cp$e b I a cu dn$c b I a cu dn$e b O a p cp$c b O a p cp$e b O a cu dn$",
    "c b O a cu dn$e b R a p cp$c b R a p cp$e b R a cu dn$c b R a cu dn$e b U a p cp$c b U a p cp",
    "$e b U a cu dn$c b U a cu dn$e b S a de m$c b S a de m$e b T a de m$c b T a de m$e b YOGH$c b",
    " YOGH$e b H a eo$c b H a eo$e b N a bz i LEG$c b D a ix$e b OU$c b OU$e b Z a x$c b Z a x$e b",
    " A a q j$c b A a q j$e b E a hd$c b E a hd$e b O a ch g cw$c b O a ch g cw$e b O a bg g cw$c ",
    "b O a bg g cw$e b O a q j$c b O a q j$e b O a q j g cw$c b O a q j g cw$e b Y a cw$c b Y a cw",
    "&L a ix&N a ix&T a ix&mr J&DB hk&QP hk$e b A a y&C a y$c b C a y$e b L a ak&T a ep y$c b S a ",
    "SWASH dr&Z a SWASH dr$e b hl cl$c b hl cl$e b B a y&U ak&by V&E a y$c b E a y$e b J a y$c b J",
    " a y$e b c Q a x dr$c b Q a x dr$e b R a y$c b R a y$e b Y a y$c b Y a y&by A&gf&by gf&B a x&",
    "bw O&C a ix&D a dr)x&cg E&pz(a x&bw E&cg bw E*a x&fw cg bw E&mr J a y&G a x&if G$b c e G$c b ",
    "iy&RAMS ga&by H&H a x&HENG a x&I a y&gs$b c e I$c b L a ae bg)BELT)ex x&LEZH&by M)a bz LEG&M ",
    "a x&N a k x)ex x$b c e N$c b pj O$b c e OE$c b fw fo&PHI&by R)a bz LEG*x&R a bz LEG)dr)te&cg ",
    "R a te$b c e R(cu R$c b S a x&ESH&mr J a y g x&SQUAT cg ESH&ESH a ix&by T&T a ex x&U ak&hp&V ",
    "a x&by V(W(Y$b c e Y$c b Z a ex x)ix&EZH(a ix$b hl cl%PHARYNGEAL qg FRICATIVE%cu hl cl%STRETC",
    "HED C%BILABIAL ou%c e B$c b fw bw E$b c e G a x(H$c b J a qn&by K$b c e L$c b Q a x$b hl cl a",
    " y%cg hl cl a y$c b DZ hk&DEZH hk&DZ hk a ix&TS hk&TESH hk&TC hk a ix&FENG hk&LS hk&LZ hk$b B",
    "ILABIAL PERCUSSIVE%BIDENTAL PERCUSSIVE$c b by H a te+g dr!gy b c H(a x&J&R&by R)a x&e cu R&W&",
    "Y%ol%p ol%by de%qh%cg de%i ao bi%k ao bi%hl cl%cg hl cl%k cm%i cm%UP cm%ap cm%cb fi!eo!gy b a",
    "f cs%cw%bo fi%cp fi%bn af cs&cw&cp fi&bo fi%jf gn%ao jf gn%rf i ao bi&k ao bi%UP gd%ap gd%al ",
    "f%kk f!dn!q j!bi j!md!c bg!p bo fi!gy b RHOTIC x%el fi%c iy&L&S&X&cg hl cl%wy cd ak%ci cd ak%",
    "MID cd ak%bn cd ak%wz cd ak%YIN DEPARTING cd r%YANG DEPARTING cd r%VOICING%UNASPIRATED%p qh%b",
    "n ap cm&UP cm&k cm&i cm&bi%ae cp fi&p cp fi(bo fi%bn bg%hy gn%BEGIN ci cd%gw ci cd%BEGIN bn c",
    "d%gw bn cd%SHELF%bw SHELF%bn k h!fj cp fi$bo fi$cb fi$bg$cw$sg$dn$q j$ch$x j$bi j$p bo fi$eo$",
    "af cs j$p af cs j%cp fi$gm$cu dn$by de j$de j$cg de j$de j i$cp fi m$bo fi m$k gd m$i gd m$k ",
    "dw j$ga$k ao bi m$UP gd m$ap gd m$al f m$kk f m$PALATALIZED x m$ex x m$q m$ch m$bi m$de m$hd$",
    "md$af cs m$BRIDGE m$cu p ARCH m$eo m$cb fi m$dn m$cu dn m$bg m$cw m$bn cs$p bn cs$bg iv$ec y ",
    "iv$bz y iv$ec io iv$bz io iv$i ao bi m$cu BRIDGE m$au m$SEAGULL m$X j$af bg$p sg$cp cd r$bo c",
    "d r$id et%KORONIS%mp jx%fr$BRIDGE j$fx f m$p af cs m$k dw m$dh bg j$HOMOTHETIC j$lb bb TO j$k",
    " i h m$bp h m$GRAPHEME th$i cm j$k ao bi j$FERMATA$X m$k cm m$i cm m&g UP cm m%ao bi j$q j i$",
    "ek m$p bi m$sx j$p dn m&%cw&m%bg%cu dn%ac h m$eb c b A(E(I(O(U(C(D(H(M(R(T(V(X!id e b HETA$c ",
    "b HETA$e b jp SAMPI$c b jp SAMPI$px f$bk px f$e b PAMPHYLIAN ud$c b PAMPHYLIAN ud@37A$fr$c cg",
    " pt ia z%fl pt ia z%cg fl pt ia z$hi r$e b YOT@384$jx$mp jx$e b gf a jx$ANO TELEIA$e b hv a j",
    "x&ETA a jx&gs a jx@38C&kl a jx@38E&hp a jx&fo a jx$c b gs a mp g jx$e b gf&jr&iy&jl&hv&ZETA&E",
    "TA&ig&gs&kh&mu&MU&NU&XI&kl&PI&RHO@3A3&ia&TAU&hp&PHI&CHI&PSI&fo&gs a mp&hp a mp$c b gf a jx&hv",
    " a jx&ETA a jx&gs a jx&hp a mp g jx&gf&jr&iy&jl&hv&ZETA&ETA&ig&gs&kh&mu&MU&NU&XI&kl&PI&RHO&n ",
    "ia&ia&TAU&hp&PHI&CHI&PSI&fo&gs a mp&hp a mp&kl a jx&hp a jx&fo a jx$e KAI z$jr z$ig z$hp a x ",
    "z&bo g x z&ch g x z$PHI z$PI z$KAI z$b jp KOPPA$c b jp KOPPA$b STIGMA$c b STIGMA$b ud$c b ud$",
    "b KOPPA$c b KOPPA$b SAMPI$c b SAMPI!ic e b SHEI$c b SHEI$e b FEI$c b FEI$e b KHEI$c b KHEI$e ",
    "b HORI$c b HORI$e b GANGIA$c b GANGIA$e b SHIMA$c b SHIMA$e b DEI$c b DEI!id kh z$RHO z$pt ia",
    " z$b YOT$e ig z$pt hv z$cg pt hv z$e b SHO$c b SHO$e pt ia z%b SAN$c b SAN$RHO a y z$e cg pt ",
    "ia z%fl pt ia z%cg fl pt ia z!mo e b IE a cp&IO&DJE&GJE&UKRAINIAN IE&DZE&zo I&YI&JE&LJE&NJE&T",
    "SHE&KJE&I a cp&ec U&DZHE&A&BE&VE&GHE&DE&IE&ZHE&ZE&I&ec I&KA&EL&EM&EN&O&PE&ER&ES&TE&U&EF&HA&TS",
    "E&CHE&ck&SHCHA&HARD f&YERU&SOFT f&E&YU&YA$c b A&BE&VE&GHE&DE&IE&ZHE&ZE&I&ec I&KA&EL&EM&EN&O&P",
    "E&ER&ES&TE&U&EF&HA&TSE&CHE&ck&SHCHA&HARD f&YERU&SOFT f&E&YU&YA&IE a cp&IO&DJE&GJE&UKRAINIAN I",
    "E&DZE&zo I&YI&JE&LJE&NJE&TSHE&KJE&I a cp&ec U&DZHE$e b fo$c b fo$e b YAT$c b YAT$e b lh E$c b",
    " lh E$e b dp hj$c b dp hj$e b lh dp hj$c b lh dp hj$e b BIG hj$c b BIG hj$e b lh BIG hj$c b l",
    "h BIG hj$e b KSI$c b KSI$e b PSI$c b PSI$e b FITA$c b FITA$e b uo$c b uo$e b uo a p cp fi$c b",
    " uo a p cp fi$e b UK$c b UK$e b om fo$c b om fo$e b fo a TITLO$c b fo a TITLO$e b OT$c b OT$e",
    " b KOPPA$c b KOPPA$st f!fj mo TITLO%PALATALIZATION%ce PNEUMATA%cf PNEUMATA%POKRYTIE%aq st f%t",
    "j f!mo e b ec I a dr$c b ec I a dr$e b SEMISOFT f$c b SEMISOFT f$e b ER a TICK$c b ER a TICK$",
    "e b GHE a UPTURN$c b GHE a UPTURN$e b GHE a y$c b GHE a y$e b GHE a ae x$c b GHE a ae x$e b Z",
    "HE a ff$c b ZHE a ff$e b ZE a ff$c b ZE a ff$e b KA a ff$c b KA a ff$e b KA a af y$c b KA a a",
    "f y$e b KA a y$c b KA a y$e b BASHKIR KA$c b BASHKIR KA$e b EN a ff$c b EN a ff$e gh EN GHE$c",
    " gh EN GHE$e b PE a ae x$c b PE a ae x$e b rc HA$c b rc HA$e b ES a ff$c b ES a ff$e b TE a f",
    "f$c b TE a ff$e b ip U$c b ip U$e b ip U a y$c b ip U a y$e b HA a ff$c b HA a ff$e gh TE TSE",
    "$c gh TE TSE$e b CHE a ff$c b CHE a ff$e b CHE a af y$c b CHE a af y$e b SHHA$c b SHHA$e b rc",
    " CHE$c b rc CHE$e b rc CHE a ff$c b rc CHE a ff$b PALOCHKA$e b ZHE a dn$c b ZHE a dn$e b KA a",
    " x$c b KA a x$e b EL a dr$c b EL a dr$e b EN a x$c b EN a x$e b EN a dr$c b EN a dr$e b KHAKA",
    "SSIAN CHE$c b KHAKASSIAN CHE$e b EM a dr$c b EM a dr&PALOCHKA$e b A a dn$c b A a dn$e b A a c",
    "h$c b A a ch$e gh A IE$c gh A IE$e b IE a dn$c b IE a dn$e b pz$c b pz$e b pz a ch$c b pz a c",
    "h$e b ZHE a ch$c b ZHE a ch$e b ZE a ch$c b ZE a ch$e b rc DZE$c b rc DZE$e b I a cw$c b I a ",
    "cw$e b I a ch$c b I a ch$e b O a ch$c b O a ch$e b pj O$c b pj O$e b pj O a ch$c b pj O a ch$",
    "e b E a ch$c b E a ch$e b U a cw$c b U a cw$e b U a ch$c b U a ch$e b U a p bo$c b U a p bo$e",
    " b CHE a ch$c b CHE a ch$e b GHE a ff$c b GHE a ff$e b YERU a ch$c b YERU a ch$e b GHE a y g ",
    "x$c b GHE a y g x$e b HA a x$c b HA a x$e b HA a y$c b HA a y$e b lj DE$c b lj DE$e b lj DJE$",
    "c b lj DJE$e b lj ZJE$c b lj ZJE$e b lj DZJE$c b lj DZJE$e b lj LJE$c b lj LJE$e b lj NJE$c b",
    " lj NJE$e b lj SJE$c b lj SJE$e b lj TJE$c b lj TJE$e b cg ZE$c b cg ZE$e b EL a x$c b EL a x",
    "$e b LHA$c b LHA$e b RHA$c b RHA$e b YAE$c b YAE$e b QA$c b QA$e b WE$c b WE$e b ALEUT KA$c b",
    " ALEUT KA$e b EL a ae x$c b EL a ae x$e b EN a ae x$c b EN a ae x$e b PE a ff$c b PE a ff$e b",
    " SHHA a ff$c b SHHA a ff$e b EN a k x$c b EN a k x$e b DZZHE$c b DZZHE$e b DCHE$c b DCHE$e b ",
    "EL a ff$c b EL a ff@531!vg e b AYB&BEN&GIM&DA&ECH&ZA&EH&ET&TO&ZHE&INI&LIWN&XEH&CA&KEN&HO&JA&G",
    "HAD&CHEH&MEN&YI&NOW&ck&VO&cr&PEH&JHEH&RA&SEH&VEW&TIWN&gt&CO&YIWN&PIWR&KEH&OH&FEH@559$gy b k a",
    "o bi$qh$EMPHASIS r$hw r$de$hi r$jy r$c b by AYB&AYB&BEN&GIM&DA&ECH&ZA&EH&ET&TO&ZHE&INI&LIWN&X",
    "EH&CA&KEN&HO&JA&GHAD&CHEH&MEN&YI&NOW&ck&VO&cr&PEH&JHEH&RA&SEH&VEW&TIWN&gt&CO&YIWN&PIWR&KEH&OH",
    "&FEH%gh ECH YIWN%b YI a y$ea cl$ob@58D!yb vg ETERNITY f!xk vg ETERNITY f!vg DRAM f@591!HEBREW",
    " fi ETNAHTA%SEGOL%SHALSHELET%ZAQEF QATAN&GADOL%TIPEHA%REVIA%ZARQA%PASHTA%YETIV%TEVIR%GERESH&M",
    "UQDAM%GERSHAYIM%QARNEY PARA%TELISHA GEDOLA%PAZER%ATNAH HAFUKH%MUNAH%MAHAPAKH%MERKHA&KEFULA%DA",
    "RGA%QADMA%TELISHA QETANA%YERAH BEN YOMO%OLE%ILUY%DEHI%ZINOR$r MASORA av$nl SHEVA%HATAF SEGOL&",
    "PATAH&QAMATS%HIRIQ%TSERE%SEGOL%PATAH%QAMATS%HOLAM&HASER fm VAV%QUBUTS%it OR MAPIQ%METEG$eu MA",
    "QAF$nl RAFE$eu PASEQ$nl ha q%SIN q$eu SOF PASUQ$r bv q%bk q$eu ej HAFUKHA$nl QAMATS QATAN@5D0",
    "$b ba%BET%le%DALET%HE%VAV%na%HET%TET%YOD%n gx%gx%LAMED%n MEM%MEM%n ej%ej%lm%AYIN%n PE%PE%n TS",
    "ADI%TSADI%QOF%RESH%ha%TAV@5EF$YOD bl$gh YIDDISH p VAV&VAV YOD&p YOD$eu GERESH%GERSHAYIM@600!j",
    "o cz f$f SANAH$FOOTNOTE sa$f SAFHA%SAMVAT$cz r j!pi CUBE ROOT$FOURTH ROOT!jo RAY!pi PER MILLE",
    " f%ca az f!AFGHANI f!jo de$DATE im$POETIC VERSE f$f MISRA%SALLALLAHOU ALAYHE WASSALLAM%ALAYHE",
    " ASSALLAM%RAHMATULLAH ALAYHE%RADI ALLAHOU ANHU%TAKHALLUS$c ci TAH&gh ba a fs a ax&ml%nz%po%ng",
    "$oo$b r$gw OF TEXT r$em q eu r$hi r$b KASHMIRI ax%ft%ba a MADDA j(ft j%fq a ft j%ba a ft m%ax",
    " a ft j%ba%BEH%TEH MARBUTA&%THEH%bx%br%dt%DAL%THAL%gt%ml%ht%jw%SAD%DAD%TAH%ZAH%ge%kt%KEHEH a ",
    "l aw j(s aw m%FARSI ax a cu V)l aw j)s aw j$TATWEEL$b FEH%QAF%gx%fs%aj%fk%hf%fq%ba cx%ax$ui$v",
    "m$vu$nz$po$ng$SHADDA$SUKUN$MADDAH j$ft j%m$tr ba$cu po$r fk GHUNNA$ZWARAKAY$be f c V j&cu c V",
    " j&q m$cg po$nz a l aw$WAVY ft m!pi bh bt%o%l%s%w%aa%ag%an%ah%ar!jo PERCENT f$DECIMAL im$st i",
    "m$aa fy dk$b mr BEH&QAF%ns ba%ba WASLA&a WAVY ft j*m%ci ft(ba(fq%U a ft j%ci ft ax%TTEH%TTEHE",
    "H%BEEH%TEH a bi(s aw j bj%PEH%TEHEH%BEHEH%br a ft j(l aw af j%NYEH%DYEH%br a s aw j%TCHEH%TCH",
    "EHEH%DDAL%DAL a bi(q m*g c TAH%DAHAL%DDAHAL%DUL%DAL a s aw j bj(w aw j%RREH%gt a c V(bi(q m(c",
    " V m(q m g q j(l aw j%JEH%gt a w aw j%ht a q m g q j(s aw m+g s aw j%SAD a l aw m(s aw j%TAH ",
    "a s aw j%ge a s aw j%mr FEH%FEH a q MOVED m)m%VEH%FEH a s aw m%PEHEH%QAF a q j(s aw j%KEHEH%S",
    "WASH gx%gx a bi(q j%NG%gx a s aw m%GAF&a bi%NGOEH%GAF a l aw m%GUEH%GAF a s aw j%fs a c V(q j",
    "(s aw j*m%fk a q m&GHUNNA%RNOON%fk a bi(s aw j%hf DOACHASHMEE%TCHEH a q j%hf a ax j&GOAL(a ft",
    " j%TEH MARBUTA GOAL%fq a bi%KIRGHIZ OE%OE%U%YU%KIRGHIZ YU%fq a l aw j%VE%FARSI ax%ax a dr(c V",
    "%fq a q j%E%ax a s aw m&BARREE(a ft j$ea cl$b AE$c ci gh SAD a fs a ba cx(QAF a fs a ba cx&aj",
    " ab d&fs ba&bx&s aw&ht$gw OF AYAH$START OF RUB EL HIZB$c ci py bt&UPRIGHT RECTANGULAR bt&mr j",
    "t OF dt&aj u d%bn ht%ci MADDA%fq%ax%ci ax&fk$PLACE OF SAJDAH$EMPTY dm bn cl&ci cl$py ci cl a ",
    "FILLED dm$c bn aj$b DAL a cu V%gt a cu V!rp pi bh bt&o&l&s&w&aa&ag&an&ah&ar!jo b jw a q m%DAD",
    " a q m%kt a q m$f SINDHI rd&POSTPOSITION MEN$b hf a cu V!SYRIAC gw OF we$SUPRALINEAR ea cl$SU",
    "BLINEAR ea cl$SUPRALINEAR gn$SUBLINEAR gn$bf gn$gn SKEWED k&i$SUPRALINEAR gn SKEWED k$SUBLINE",
    "AR gn SKEWED i$CONTRACTION$HARKLEAN OBELUS%METOBELUS%ASTERISCUS@70F$jy r$b ALAPH%ns ALAPH%kq%",
    "GAMAL&GARSHUNI%DALATH%mr DALATH RISH%HE%fq%ml%lw%TETH&GARSHUNI%YUDH&HE%li%LAMADH%MIM%ej%SEMKA",
    "TH%n SEMKATH%E%PE%cg PE%mg%QAPH%RISH%ha%TAW%PERSIAN BHETH&GHAMAL&DHALATH$PTHAHA j%m%fl$ZQAPHA",
    " j%m%fl$RBASA j%m$fl ZLAMA bf&ANGULAR$HBASA j%m$HBASA-ESASA fl$ESASA j%m$RWAHA$FEMININE q$QUS",
    "HSHAYA$RUKKAKHA$l af aw j(m$s aw j&m$mc cs j&m$MUSIC$BARREKH@74D$b SOGDIAN ZHAIN&KHAPH&FE!jo ",
    "b BEH a s aw HORIZONTALLY m(q m g s aw j(s aw cy bp m.g l aw j(l aw m g q j(cu c V m(c V%br a",
    " l aw j(s aw cy bp m%DAL a l aw tu m g c TAH(cu c V m%gt a y%ht a w aw j%ge a l aw j(s aw cy ",
    "bj j(l aw tu j%FEH a l aw m(s aw cy bp m%KEHEH a q j(s aw j*cy bp m%aj a q j)m%fk a l aw m(c ",
    "TAH)V%fs a ak%gt a l aw tu j(ft j%ht a l aw tu j%br a c jo b TAH m,g l aw%ht a c jo b TAH g l",
    " aw%gt a c jo b TAH g l aw%br a c jo b TAH j%ba a rp pi bh l j+s j%FARSI ax a rp pi bh l j,s ",
    "j,w m%fq a rp pi bh l j+s j%ax BARREE a rp pi bh l j,s j%br a rp pi bh w m%ht a rp pi bh w j(",
    "cu V%gx a l aw j!THAANA b HAA%SHAVIYANI%NOONU%RAA%BAA%LHAVIYANI%KAAFU%ALIFU%VAAVU%MEEMU%FAAFU",
    "%DHAALU%THAA%LAAMU%GAAFU%GNAVIYANI%SEENU%DAVIYANI%ZAVIYANI%TAVIYANI%YAA%PAVIYANI%JAVIYANI%CHA",
    "VIYANI%TTAA%HHAA%KHAA%THAALU%ZAA%SHEENU%SAADHU%DAADHU%TO%ZO%AINU%GHAINU%QAAFU%WAAVU$ABAFILI$A",
    "ABAAFILI$IBIFILI$EEBEEFILI$UBUFILI$OOBOOFILI$EBEFILI$EYBEYFILI$OBOFILI$OABOAFILI$SUKUN$b NAA@",
    "7C0!NKO bh bt%o%l%s%w%aa%ag%an%ah%ar$b A%EE%I%E%U%OO%O%DAGBASINNA%N%BA%PA%TA%JA%cr%DA%RA%RRA%",
    "SA%GBA%FA%KA%LA%NA WOLOSO%MA%ct%NA%HA%WA%YA%ct WOLOSO%JONA JA&cr&RA$fj ec ci cd&bn cd&no cd%b",
    "z DESCENDING cd&ci cd&bn cd&no cd%yz r%p q j$ci cd qh$bn cd qh$z OO DENNEN%GBAKURUNEN$de$hw r",
    "$LAJANYALAN@7FD$DANTAYALAN$DOROME f$TAMAN f!SAMARITAN b ALAF%BIT%GAMAN%DALAT%IY%BAA%ZEN%IT%TI",
    "T%YUT%KAAF%LABAT%MIM%ej%SINGAAT%IN%FI%TSAADIY%QUF%RISH%SHAN%TAAF$r IN%IN-ALAF%OCCLUSION%it$gy",
    " b EPENTHETIC YUT$r EPENTHETIC YUT$be f bz E&E&OVERLONG AA&bz AA&AA&OVERLONG A&bz A&A$gy b ec",
    " A$be f ec A&bz U&U$gy b I$be f bz I&I&O&SUKUN$r NEQUDAA@830$eu NEQUDAA%AFSAAQ%ANGED%BAU%ATMA",
    "AU%SHIYYAALAA$jy r$eu MELODIC QITSA%ZIQAA%QITSA%ZAEF%TURU%ARKAANU%SOF MASHFAAT%ANNAAU@840!MAN",
    "DAIC b HALQA%AB%AG%AD%AH%USHENNA%AZ%IT%ATT%AKSA%AK%AL%AM%AN%AS%IN%AP%ASZ%AQ%AR%en%AT%DUSHENNA",
    "%KAD%ge$AFFRICATION r$VOCALIZATION r$vo r@85E$eu@860!SYRIAC b MALAYALAM cj&JA&ct&ee&eq&NNNA&e",
    "r&RA&LLA&LLLA&fh@870!jo b ba a tx nz)ey i nz(i ae y(k ae y(tx ng)gj i ng)om q j)i om q)k om q",
    ")om q m(q j(tx ey i nz g q j(i ae y g q j(tx gj i ng g q j)ey i nz g k bi(i ae y g k bi(tx gj",
    " i ng g k bi)i ft)k ft$TATWEEL a OVERSTRUCK ft(fq&l aw m$b THIN ax$BASELINE om q$hy om q$b fk",
    " a cu c V%br a cu c V m%TAH a q m(s aw m%KEHEH a l aw tu m$af dr@890$POUND r j$PIASTRE r j@89",
    "8$c ci mj AL-JUZ%bn mj ISHMAAM(IMAALA(TASHEEL$MADDA WAAJIB$ns ba MOKHASSAS$DOUBLED MADDA$ao M",
    "ADDA ay MADDA$b BEH a c V m(ft j%bx a l aw j%TAH a l aw j%FEH a q m g s aw j%QAF a q m%fs a p",
    " ak%aj a s aw j%ax a l aw m g ft j,q j%gt a kj%fq a q WITHIN%ROHINGYA ax%bn ba%DAL a s aw m%S",
    "AD a s aw m%GAF a cu y%ip fq%ml a cu V j%ge a s aw m%gx a q m%QAF a q m g NO aw j%BEH a c aj ",
    "j%PEH a c aj j%TEH a c TEH j%gt a c fk j%ax a l aw m g c fk j%AFRICAN FEH&QAF&fk%PEH a c V%TE",
    "H a c V%TTEH a c V%TCHEH a c V%KEHEH a c V%kt a s aw j%AFRICAN QAF a s aw j%bx a s aw j*m%fs ",
    "a c jo b TAH j%GRAF$c FARSI ax%ci FARSI ax&ax BARREE a l aw m&mj SAH&ZAH$co om q j(m$SUKUN m$",
    "co av m%om q ju av m$c bn fq%ci mj AR-RUB&SAD&ge&QAF&fk a ng%bn fk a ng%ci mj ATH-THALATHA(AS",
    "-SAJDA(AN-NISF(SAKTA(QIF(WAQFA&FOOTNOTE sa&f SAFHA$DISPUTED gw OF AYAH$by po m$hu nz%po%ng%ui",
    "%vm%vu$cd o q j%l aw j%kj j%o q m%l aw m%kj m$bw ui%vm%vu$c ci fq$nz a bi&q j$ng a q m$k cm j",
    "$i cm j$k cm m$i cm m$p i cm j)a q$i cm j a q$po a q$r qz fk GHUNNA!DEVANAGARI f cu gm%gm%ed%",
    "fv$b ec A%A%AA%I%II%U%UU%dl R&L%ls E%ec E%E%AI%ls O%ec O%O%AU%KA%cv%GA%ei%cj%CA%cr%JA%fu%ct%e",
    "e%ez%ef%fe%eq%TA%df%DA%eg%NA%NNNA%PA%dq%BA%er%MA%YA%RA%RRA%LA%LLA%LLLA%VA%ck%fh%SA%HA$be f OE",
    "&OOE$f ie%ld$be f AA&I&II&U&UU&dl R(RR&ls E&ec E&E&AI&ls O&ec O&O&AU$f fd$be f zf E&AW$OM$STR",
    "ESS f UDATTA&ve$cp fi$bo fi$be f ls bz E&UE&UUE$b QA%KHHA%GHHA%ZA%DDDHA%RHA%FA%YYA%dl RR&LL$b",
    "e f dl L(LL$gv$p gv$bh bt%o%l%s%w%aa%ag%an%ah%ar$jy f$f ci SPACING q$b ls A%OE%OOE%AW%UE%UUE%",
    "MARWARI ef%ZHA%ad YA%GGA%JJA%hl cl%DDDA%BBA!BENGALI ANJI$f gm%ed%fv@985$b A%AA%I%II%U%UU%dl R",
    "&L@98F%E%AI@993%O%AU%KA%cv%GA%ei%cj%CA%cr%JA%fu%ct%ee%ez%ef%fe%eq%TA%df%DA%eg%NA@9AA%PA%dq%BA",
    "%er%MA%YA%RA@9B2%LA@9B6%ck%fh%SA%HA@9BC$f ie%ld$be f AA&I&II&U&UU&dl R(RR@9C7&E&AI@9CB&O&AU$f",
    " fd$b KHANDA TA@9D7$AU ma r@9DC$b RRA%RHA@9DF%YYA%dl RR&LL$be f dl L(LL@9E6$bh bt%o%l%s%w%aa%",
    "ag%an%ah%ar$b RA a ae ep(bk ep$RUPEE r%f$vl NUMERATOR o&l&s&w&o LESS THAN fp DENOMINATOR%DENO",
    "MINATOR qb$ISSHAR$GANDA r$b VEDIC ed$jy f$SANDHI r@A01!GURMUKHI f ADAK BINDI%BINDI%fv@A05$b A",
    "%AA%I%II%U%UU@A0F%EE%AI@A13%OO%AU%KA%cv%GA%ei%cj%CA%cr%JA%fu%ct%ee%ez%ef%fe%eq%TA%df%DA%eg%NA",
    "@A2A%PA%dq%BA%er%MA%YA%RA@A32%LA%LLA@A35%VA%ck@A38%SA%HA@A3C$f ie@A3E$be f AA&I&II&U&UU@A47&E",
    "E&AI@A4B&OO&AU$f fd@A51%UDAAT@A59$b KHHA%GHHA%ZA%RRA@A5E%FA@A66$bh bt%o%l%s%w%aa%ag%an%ah%ar$",
    "TIPPI$ADDAK$IRI$URA$EK ONKAR$f YAKASH$jy f@A81!GUJARATI f gm%ed%fv@A85$b A%AA%I%II%U%UU%dl R&",
    "L$be ls E@A8F$b E%AI$be ls O@A93$b O%AU%KA%cv%GA%ei%cj%CA%cr%JA%fu%ct%ee%ez%ef%fe%eq%TA%df%DA",
    "%eg%NA@AAA%PA%dq%BA%er%MA%YA%RA@AB2%LA%LLA@AB5%VA%ck%fh%SA%HA@ABC$f ie%ld$be f AA&I&II&U&UU&d",
    "l R(RR&ls E@AC7&E&AI&ls O@ACB&O&AU$f fd@AD0$OM@AE0$b dl RR&LL$be f dl L(LL@AE6$bh bt%o%l%s%w%",
    "aa%ag%an%ah%ar$jy f$RUPEE f@AF9$b ZHA$f SUKUN%SHADDA%MADDAH%THREE-DOT ie j%av ie j%TWO-CIRCLE",
    " ie j@B01!ORIYA f gm%ed%fv@B05$b A%AA%I%II%U%UU%dl R&L@B0F%E%AI@B13%O%AU%KA%cv%GA%ei%cj%CA%cr",
    "%JA%fu%ct%ee%ez%ef%fe%eq%TA%df%DA%eg%NA@B2A%PA%dq%BA%er%MA%YA%RA@B32%LA%LLA@B35%VA%ck%fh%SA%H",
    "A@B3C$f ie%ld$be f AA&I&II&U&UU&dl R(RR@B47&E&AI@B4B&O&AU$f fd@B55%sg$AI ma r$AU ma r@B5C$b R",
    "RA%RHA@B5F%YYA%dl RR&LL$be f dl L(LL@B66$bh bt%o%l%s%w%aa%ag%an%ah%ar$ISSHAR$b WA$js o gi&ao%",
    "s mf%o ux&hs%s yj@B82!TAMIL f ed%fv@B85$b A%AA%I%II%U%UU@B8E%E%EE%AI@B92%O%OO%AU%KA@B99%cj%CA",
    "@B9C%JA@B9E%ct%ee@BA3%eq%TA@BA8%NA%NNNA%PA@BAE%MA%YA%RA%RRA%LA%LLA%LLLA%VA%ck%fh%SA%HA@BBE$be",
    " f AA&I&II&U&UU@BC6&E&EE&AI@BCA&O&OO&AU$f fd@BD0$OM@BD7$AU ma r@BE6$bh bt%o%l%s%w%aa%ag%an%ah",
    "%ar$cz ca%o aq&az$DAY f$MONTH f$YEAR f$DEBIT f$CREDIT f$AS j f$RUPEE f$cz f@C00!TELUGU f fj g",
    "m j%gm%ed%fv%fj ed j$b A%AA%I%II%U%UU%dl R&L@C0E%E%EE%AI@C12%O%OO%AU%KA%cv%GA%ei%cj%CA%cr%JA%",
    "fu%ct%ee%ez%ef%fe%eq%TA%df%DA%eg%NA@C2A%PA%dq%BA%er%MA%YA%RA%RRA%LA%LLA%LLLA%VA%ck%fh%SA%HA@C",
    "3C$f ie%ld$be f AA&I&II&U&UU&dl R(RR@C46&E&EE&AI@C4A&O&OO&AU$f fd@C55$ma r$AI ma r@C58$b hb%D",
    "ZA%RRRA@C5D%NAKAARA POLLU@C60%dl RR&LL$be f dl L(LL@C66$bh bt%o%l%s%w%aa%ag%an%ah%ar@C77$f tp",
    "$js bh bt fm ODD tm OF w&o fm ODD tm OF w&l fm ODD tm OF w&s fm ODD tm OF w&o fm EVEN tm OF w",
    "&l fm EVEN tm OF w&s fm EVEN tm OF w$f TUUMU!KANNADA f SPACING gm%gm%ed%fv%tp$b A%AA%I%II%U%U",
    "U%dl R&L@C8E%E%EE%AI@C92%O%OO%AU%KA%cv%GA%ei%cj%CA%cr%JA%fu%ct%ee%ez%ef%fe%eq%TA%df%DA%eg%NA@",
    "CAA%PA%dq%BA%er%MA%YA%RA%RRA%LA%LLA@CB5%VA%ck%fh%SA%HA@CBC$f ie%ld$be f AA&I&II&U&UU&dl R(RR@",
    "CC6&E&EE&AI@CCA&O&OO&AU$f fd@CD5$ma r$AI ma r@CDD$b NAKAARA POLLU%FA@CE0%dl RR&LL$be f dl L(L",
    "L@CE6$bh bt%o%l%s%w%aa%ag%an%ah%ar@CF1$f up%vb@D00!MALAYALAM f fj ed j%gm%ed%fv$b VEDIC ed%A%",
    "AA%I%II%U%UU%dl R&L@D0E%E%EE%AI@D12%O%OO%AU%KA%cv%GA%ei%cj%CA%cr%JA%fu%ct%ee%ez%ef%fe%eq%TA%d",
    "f%DA%eg%NA%NNNA%PA%dq%BA%er%MA%YA%RA%RRA%LA%LLA%LLLA%VA%ck%fh%SA%HA%TTTA$f af ak fd%vj fd%ld$",
    "be f AA&I&II&U&UU&dl R(RR@D46&E&EE&AI@D4A&O&OO&AU$f fd$b q REPH$f PARA@D54$b CHILLU M&Y&LLL$A",
    "U ma r$js o zt&FORTIETH%s EIGHTIETHS%o TWENTIETH&TENTH%s TWENTIETHS%o FIFTH$b jp II%dl RR&LL$",
    "be f dl L(LL@D66$bh bt%o%l%s%w%aa%ag%an%ah%ar$cz ca%o aq&az$js o gi&ao%s mf%o ux&hs%s yj$DATE",
    " r$b CHILLU NN&N&RR&L&LL&K@D81!SINHALA f gm%ANUSVARAYA%VISARGAYA@D85$b AYANNA%AAYANNA%AEYANNA",
    "%AEEYANNA%IYANNA%IIYANNA%UYANNA%UUYANNA%IRUYANNA%IRUUYANNA%ILUYANNA%ILUUYANNA%EYANNA%EEYANNA%",
    "AIYANNA%OYANNA%OOYANNA%AUYANNA@D9A%ph KAYANNA%pu KAYANNA%ph GAYANNA%pu GAYANNA%KANTAJA NAASIK",
    "YAYA%SANYAKA GAYANNA%ph CAYANNA%pu CAYANNA%ph JAYANNA%pu JAYANNA%TAALUJA NAASIKYAYA&SANYOOGA ",
    "NAAKSIKYAYA%SANYAKA JAYANNA%ph TTAYANNA%pu TTAYANNA%ph DDAYANNA%pu DDAYANNA%MUURDHAJA NAYANNA",
    "%SANYAKA DDAYANNA%ph TAYANNA%pu TAYANNA%ph DAYANNA%pu DAYANNA%DANTAJA NAYANNA@DB3%SANYAKA DAY",
    "ANNA%ph PAYANNA%pu PAYANNA%ph BAYANNA%pu BAYANNA%MAYANNA%AMBA BAYANNA%YAYANNA%RAYANNA@DBD%DAN",
    "TAJA LAYANNA@DC0%VAYANNA%TAALUJA SAYANNA%MUURDHAJA SAYANNA%DANTAJA SAYANNA%HAYANNA%MUURDHAJA ",
    "LAYANNA%FAYANNA@DCA$f AL-LAKUNA@DCF$be f AELA-PILLA&KETTI AEDA-PILLA&DIGA AEDA-PILLA&KETTI IS",
    "-PILLA&DIGA IS-PILLA&KETTI PAA-PILLA@DD6&DIGA PAA-PILLA@DD8&GAETTA-PILLA&KOMBUVA&DIGA KOMBUVA",
    "&KOMBU DEKA&KOMBUVA HAA AELA-PILLA)DIGA AELA-PILLA)GAYANUKITTA&GAYANUKITTA@DE6$LITH bh bt&o&l",
    "&s&w&aa&ag&an&ah&ar@DF2$be f DIGA GAETTA-PILLA(GAYANUKITTA$eu KUNDDALIYA@E01!THAI ql KO KAI%K",
    "HO KHAI&KHUAT&KHWAI&KHON&RAKHANG%NGO NGU%CHO CHAN&CHING&CHANG%SO SO%CHO CHOE%YO YING%DO CHADA",
    "%TO PATAK%THO THAN&NANGMONTHO&PHUTHAO%NO NEN%DO DEK%TO TAO%THO THUNG&THAHAN&THONG%NO NU%BO BA",
    "IMAI%PO PLA%PHO PHUNG%FO FA%PHO PHAN%FO FAN%PHO SAMPHAO%MO MA%YO YAK%RO RUA%RU%LO LING%LU%WO ",
    "WAEN%SO SALA&RUSI&SUA%HO HIP%LO CHULA%O ANG%HO NOKHUK%PAIYANNOI%SARA A%MAI HAN-AKAT%SARA AA&A",
    "M&I&II&UE&UEE&U&UU%PHINTHU@E3F$vl z BAHT$ql SARA E&AE&O&AI MAIMUAN(MAIMALAI%LAKKHANGYAO%MAIYA",
    "MOK%MAITAIKHU%MAI EK&THO&TRI&CHATTAWA%THANTHAKHAT%NIKHAHIT%YAMAKKAN%FONGMAN$bh bt%o%l%s%w%aa%",
    "ag%an%ah%ar$ql ANGKHANKHU%KHOMUT@E81!LAO b KO%KHO SUNG@E84&TAM@E86%PALI ei%NGO%CO%PALI cr%SO ",
    "TAM@E8C%PALI fu%NYO%PALI ct&ee&ez&ef&fe&eq%DO%TO%THO SUNG&TAM%PALI eg%NO%BO%PO%PHO SUNG%FO TA",
    "M%PHO TAM%FO SUNG%PALI er%MO%YO%LO LING@EA5&LOOT@EA7%WO%SANSKRIT ck&fh%SO SUNG%HO SUNG%PALI L",
    "LA%O%HO TAM$ro$be f A&MAI KAN&AA&AM&I&II&Y&YY&U&UU$f PALI fd$be f MAI KON$SEMIVOWEL f LO&NYO@",
    "EC0$be f E&EI&O&AY&AI@EC6$KO LA@EC8$cd MAI EK&THO&TI&CATAWA$ws r$NIGGAHITA@ED0$bh bt%o%l%s%w%",
    "aa%ag%an%ah%ar@EDC$HO NO%MO$b KHMU GO&NYO@F00!TIBETAN lp OM$r GTER YIG MGO TRUNCATED A)-UM RN",
    "AM BCAD MA*GTER pf MA%ab YIG MGO MDUN MA%CLOSING YIG MGO SGAB MA%pm YIG MGO PHUR ln MA%YIG MG",
    "O pf ln MA%SBRUL ln%BSKUR YIG MGO%BKA- SHOG YIG MGO%INTERSYLLABIC pf%wv pf BSTAR%ln%NYIS ln%p",
    "f ln%NYIS pf ln%RIN CHEN SPUNGS ln%RGYA GRAM ln%pm -DZUD on ME bz CAN%GTER pf$LOGOTYPE f CHAD",
    " on&LHAG on$ASTROLOGICAL f SGRA GCAN -CHAR on&-KHYUD PA&SDONG TSHUGS$f RDEL DKAR GCIG(GNYIS(G",
    "SUM&NAG GCIG(GNYIS&DKAR RDEL NAG$bh bt%o%l%s%w%aa%ag%an%ah%ar%ao o&l&s&w&aa&ag&an&ah&ar&bt$r ",
    "BSDUS on%NGAS BZUNG NYI ZLA%pm -DZUD on BZHI MIG CAN%NGAS BZUNG SGOR on%CHE MGO%hb -PHRU%GUG ",
    "on GYON(GYAS%ANG KHANG GYON(GYAS$f YAR TSHES%MAR TSHES$b KA%cv%GA%ei%cj%CA%cr%JA@F49%ct%ee%ez",
    "%ef%fe%eq%TA%df%DA%eg%NA%PA%dq%BA%er%MA%hb%mi%DZA%DZHA%WA%ZHA%ZA%-A%YA%RA%LA%ck%fh%SA%HA%A%KS",
    "SA%FIXED-FORM RA%KKA%RRA@F71$be f AA&I&II&U&UU&dl R(RR(L(LL&E&EE&O&OO$f RJES SU cj RO%RNAM BC",
    "AD$be f cg I(II$f NYI ZLA NAA DA%SNA LDAN$r HALANTA%PALUTA$f LCI on%YANG on%LCE hb CAN%MCHU C",
    "AN%GRU CAN RGYINGS&MED RGYINGS%cu MCHU CAN$uy f LCE hb CAN&MCHU CAN&cu MCHU CAN%b KA&cv&GA&ei",
    "&cj&CA&cr&JA@F99&ct&ee&ez&ef&fe&eq&TA&df&DA&eg&NA&PA&dq&BA&er&MA&hb&mi&DZA&DZHA&WA&ZHA&ZA&-A&",
    "YA&RA&LA&ck&fh&SA&HA&A&KSSA&FIXED-FORM WA(YA(RA@FBE$KU RU cv(BZHI MIG CAN$CANTILLATION f ad B",
    "EAT&bd BEAT&CANG TE-U&SBUB -CHAL$z DRIL BU%RDO RJE%PADMA GDAN%RDO RJE RGYA GRAM%PHUR PA%NOR B",
    "U(NYIS -KHYIL(GSUM -KHYIL(BZHI -KHYIL@FCE$f RDEL NAG RDEL DKAR(GSUM$r BSKA- SHOG GI MGO RGYAN",
    "%MNYAM YIG GI MGO RGYAN%NYIS pf%ab BRDA RNYING YIG MGO MDUN MA%CLOSING BRDA RNYING YIG MGO SG",
    "AB MA!yb SVASTI f!xk SVASTI f!yb SVASTI f a aw!xk SVASTI f a aw!TIBETAN r LEADING MCHAN on%TR",
    "AILING MCHAN on@1000!MYANMAR b KA%cv%GA%ei%cj%CA%cr%JA%fu%ct%NNYA%ee%ez%ef%fe%eq%TA%df%DA%eg%",
    "NA%PA%dq%BA%er%MA%YA%RA%LA%WA%SA%HA%LLA%A%SHAN A%I%II%U%UU%E%MON E%O%AU$be f TALL AA&AA&I&II&",
    "U&UU&E&AI&MON II(O&E j$f ed%q m%fv%fd%ASAT$is f bs YA(RA(WA(HA$b GREAT SA$bh bt%o%l%s%w%aa%ag",
    "%an%ah%ar$f dp il%il$z LOCATIVE%COMPLETED%AFOREMENTIONED%GENITIVE$b ck%fh%dl R&RR&L&LL$be f d",
    "l R(RR(L(LL$b MON cj&fu&BBA&BBE$is f MON bs NA)MA)LA$b SGAW KAREN ck$be f SGAW KAREN EU$cd r ",
    "SGAW KAREN HATHI)KE PHO$b WESTERN PWO KAREN df)PWA$be f WESTERN PWO KAREN EU*UE$f WESTERN PWO",
    " KAREN TONE-1)qd)rb)TONE-4)qe$b EASTERN PWO KAREN eq)YWA)GHWA$be f GEBA KAREN I&KAYAH OE(U(EE",
    "$b SHAN KA&cv&GA&CA&ZA&ct&DA&NA&dq&FA&BA&df&HA$is f SHAN bs WA$be f SHAN AA(E)j(n Y$f SHAN qd",
    "&rb&qe&TONE-6&COUNCIL qd(rb(EMPHATIC cd$b RUMAI PALAUNG FA$f RUMAI PALAUNG qe$SHAN bh bt&o&l&",
    "s&w&aa&ag&an&ah&ar$f KHAMTI TONE-1&rb$be f AITON A(AI$z SHAN o&hw!vp e b AN&BAN&GAN&DON&EN&VI",
    "N&ZEN&TAN&IN&KAN&LAS&MAN&NAR&ON&PAR&ZHAR&RAE&SAN&TAR&UN&PHAR&KHAR&GHAN&QAR&ha&CHIN&CAN&JIL&CI",
    "L&CHAR&XAN&JHAN&HAE&HE&HIE&WE&HAR&HOE@10C7&YN@10CD&AEN@10D0$b AN%BAN%GAN%DON%EN%VIN%ZEN%TAN%I",
    "N%KAN%LAS%MAN%NAR%ON%PAR%ZHAR%RAE%SAN%TAR%UN%PHAR%KHAR%GHAN%QAR%ha%CHIN%CAN%JIL%CIL%CHAR%XAN%",
    "JHAN%HAE%HE%HIE%WE%HAR%HOE%FI%YN%ELIFI%by GAN%ge$we im!gy b vp NAR!vp b AEN%HARD f%LABIAL f!q",
    "s CHOSEONG rw%yl%NIEUN%su%yn%RIEUL%MIEUM%PIEUP%ym%SIOS%SSANGSIOS%IEUNG%CIEUC%yk%rg%rv%sr%sj%H",
    "IEUH%NIEUN-KIYEOK%SSANGNIEUN%za%NIEUN-PIEUP%TIKEUT-KIYEOK%RIEUL-NIEUN%SSANGRIEUL%xw%KAPYEOUNR",
    "IEUL%MIEUM-PIEUP%yw%PIEUP-KIYEOK%PIEUP-NIEUN%zd%xu%zu%zc%PIEUP-SIOS-PIEUP%PIEUP-SSANGSIOS%PIE",
    "UP-SIOS-CIEUC%PIEUP-CIEUC%PIEUP-CHIEUCH%PIEUP-THIEUTH%PIEUP-PHIEUPH%yy%zr%SIOS-KIYEOK%SIOS-NI",
    "EUN%SIOS-TIKEUT%SIOS-RIEUL%SIOS-MIEUM%SIOS-PIEUP%SIOS-PIEUP-KIYEOK%SIOS-SSANGSIOS%SIOS-IEUNG%",
    "SIOS-CIEUC%SIOS-CHIEUCH%SIOS-KHIEUKH%SIOS-THIEUTH%SIOS-PHIEUPH%SIOS-HIEUH%CHITUEUMSIOS%CHITUE",
    "UMSSANGSIOS%CEONGCHIEUMSIOS%CEONGCHIEUMSSANGSIOS%PANSIOS%IEUNG-KIYEOK%IEUNG-TIKEUT%IEUNG-MIEU",
    "M%IEUNG-PIEUP%IEUNG-SIOS%IEUNG-PANSIOS%SSANGIEUNG%IEUNG-CIEUC%IEUNG-CHIEUCH%IEUNG-THIEUTH%IEU",
    "NG-PHIEUPH%YESIEUNG%CIEUC-IEUNG%CHITUEUMCIEUC%CHITUEUMSSANGCIEUC%CEONGCHIEUMCIEUC%CEONGCHIEUM",
    "SSANGCIEUC%CHIEUCH-KHIEUKH%CHIEUCH-HIEUH%CHITUEUMCHIEUCH%CEONGCHIEUMCHIEUCH%PHIEUPH-PIEUP%yx%",
    "SSANGHIEUH%YEORINHIEUH%KIYEOK-TIKEUT%NIEUN-SIOS%xp%xq%TIKEUT-RIEUL%qr$JUNGSEONG qr%A%AE%YA%YA",
    "E%EO%E%YEO%YE%O%WA%WAE%OE%YO%U%WEO%WE%WI%YU%EU%YI%I%A-O%A-U%YA-O%YA-YO%EO-O%EO-U%EO-EU%YEO-O%",
    "YEO-U%O-EO%O-E%O-YE%O-O%O-U%YO-YA%YO-YAE%YO-YEO%YO-O%YO-I%U-A%U-AE%U-EO-EU%U-YE%U-U%YU-A%YU-E",
    "O%YU-E%YU-YEO%YU-YE%YU-U%YU-I%EU-U%EU-EU%YI-U%I-A%I-YA%I-O%I-U%I-EU%I-ARAEA%ARAEA%ARAEA-EO%AR",
    "AEA-U%ARAEA-I%SSANGARAEA%A-EU%YA-U%YEO-YA%O-YA%O-YAE$JONGSEONG rw%yl%KIYEOK-SIOS%NIEUN%xp%xq%",
    "su%RIEUL%xx%xy%xz%ya%zh%zg%xw%MIEUM%PIEUP%xu%SIOS%SSANGSIOS%IEUNG%CIEUC%rg%rv%sr%sj%HIEUH%KIY",
    "EOK-RIEUL%KIYEOK-SIOS-KIYEOK%NIEUN-KIYEOK%za%NIEUN-SIOS%NIEUN-PANSIOS%NIEUN-THIEUTH%TIKEUT-KI",
    "YEOK%TIKEUT-RIEUL%zw%RIEUL-NIEUN%zi%RIEUL-TIKEUT-HIEUH%SSANGRIEUL%RIEUL-MIEUM-KIYEOK%RIEUL-MI",
    "EUM-SIOS%zx%RIEUL-PIEUP-HIEUH%zv%RIEUL-SSANGSIOS%RIEUL-PANSIOS%RIEUL-KHIEUKH%zz%MIEUM-KIYEOK%",
    "MIEUM-RIEUL%MIEUM-PIEUP%MIEUM-SIOS%MIEUM-SSANGSIOS%MIEUM-PANSIOS%MIEUM-CHIEUCH%MIEUM-HIEUH%yw",
    "%PIEUP-RIEUL%PIEUP-PHIEUPH%PIEUP-HIEUH%yy%SIOS-KIYEOK%SIOS-TIKEUT%SIOS-RIEUL%SIOS-PIEUP%PANSI",
    "OS%IEUNG-KIYEOK%IEUNG-SSANGKIYEOK%SSANGIEUNG%IEUNG-KHIEUKH%YESIEUNG%YESIEUNG-SIOS%YESIEUNG-PA",
    "NSIOS%PHIEUPH-PIEUP%yx%HIEUH-NIEUN%HIEUH-RIEUL%HIEUH-MIEUM%HIEUH-PIEUP%YEORINHIEUH%KIYEOK-NIE",
    "UN%KIYEOK-PIEUP%KIYEOK-CHIEUCH%KIYEOK-KHIEUKH%KIYEOK-HIEUH%SSANGNIEUN!ETHIOPIC lp HA%HU%HI%HA",
    "A%HEE%HE%HO%HOA%LA%LU%LI%LAA%LEE%LE%LO%LWA%HHA%HHU%HHI%HHAA%HHEE%HHE%HHO%HHWA%MA%MU%MI%MAA%ME",
    "E%ME%MO%MWA%SZA%SZU%SZI%SZAA%SZEE%SZE%SZO%SZWA%RA%RU%RI%RAA%REE%RE%RO%RWA%SA%SU%SI%SAA%SEE%SE",
    "%SO%SWA%ck%SHU%SHI%SHAA%SHEE%gc%SHO%SHWA%QA%QU%QI%QAA%QEE%QE%QO%QOA%QWA@124A%QWI%QWAA%QWEE%QW",
    "E@1250%QHA%QHU%QHI%QHAA%QHEE%QHE%QHO@1258%QHWA@125A%QHWI%QHWAA%QHWEE%QHWE@1260%BA%BU%BI%BAA%B",
    "EE%BE%BO%BWA%VA%VU%VI%VAA%VEE%VE%VO%VWA%TA%TU%TI%TAA%TEE%TE%TO%TWA%CA%CU%CI%CAA%CEE%CE%CO%CWA",
    "%XA%XU%XI%XAA%XEE%XE%XO%XOA%XWA@128A%XWI%XWAA%XWEE%XWE@1290%NA%NU%NI%NAA%NEE%NE%NO%NWA%ct%NYU",
    "%NYI%NYAA%NYEE%NYE%NYO%NYWA%hl A&U&I&AA&EE&E&O&WA%KA%KU%KI%KAA%KEE%KE%KO%KOA%KWA@12B2%KWI%KWA",
    "A%KWEE%KWE@12B8%KXA%KXU%KXI%KXAA%KXEE%KXE%KXO@12C0%KXWA@12C2%KXWI%KXWAA%KXWEE%KXWE@12C8%WA%WU",
    "%WI%WAA%WEE%WE%WO%WOA%PHARYNGEAL A&U&I&AA&EE&E&O@12D8%ZA%ZU%ZI%ZAA%ZEE%ZE%ZO%ZWA%ZHA%ZHU%ZHI%",
    "ZHAA%ZHEE%ZHE%ZHO%ZHWA%YA%YU%YI%YAA%YEE%YE%YO%YOA%DA%DU%DI%DAA%DEE%DE%DO%DWA%ef%DDU%DDI%DDAA%",
    "DDEE%DDE%DDO%DDWA%JA%JU%JI%JAA%JEE%JE%JO%JWA%GA%GU%GI%GAA%GEE%GE%GO%GOA%GWA@1312%GWI%GWAA%GWE",
    "E%GWE@1318%GGA%GGU%GGI%GGAA%GGEE%GGE%GGO%GGWAA%df%THU%THI%THAA%THEE%fp%THO%THWA%cr%CHU%CHI%CH",
    "AA%CHEE%CHE%CHO%CHWA%dq%PHU%PHI%PHAA%PHEE%PHE%PHO%PHWA%hb%TSU%TSI%TSAA%TSEE%TSE%TSO%TSWA%TZA%",
    "TZU%TZI%TZAA%TZEE%TZE%TZO%TZOA%FA%FU%FI%FAA%FEE%FE%FO%FWA%PA%PU%PI%PAA%PEE%PE%PO%PWA%RYA%MYA%",
    "FYA@135D$fj vo g be ma r%be ma r%vo r$il r$WORDSPACE$ea cl$de$oo$gn$PREFACE gn$hi r$we im$bh ",
    "o%l%s%w%aa%ag%an%ah%ar$cz ca%fc%je%kd%gg%kx%gb%lu%fn%aq%ca az@1380$lp yf MWA%MWI%MWEE%MWE%yf ",
    "BWA%BWI%BWEE%BWE%yf FWA%FWI%FWEE%FWE%yf PWA%PWI%PWEE%PWE$TONAL r YIZET&DERET&RIKRIK&ec RIKRIK",
    "&DIFAT&KENAT&CHIRET&HIDET&DERET-HIDET&KURT@13A0!CHEROKEE b A%E%I%O%U%V%GA%KA%GE%GI%GO%GU%GV%H",
    "A%HE%HI%HO%HU%HV%LA%LE%LI%LO%LU%LV%MA%ME%MI%MO%MU%NA%HNA%NAH%NE%NI%NO%NU%NV%QUA%QUE%QUI%QUO%Q",
    "UU%QUV%SA%S%SE%SI%SO%SU%SV%DA%TA%DE%TE%DI%TI%DO%DU%DV%DLA%TLA%TLE%TLI%TLO%TLU%TLV%hb%TSE%TSI%",
    "TSO%TSU%TSV%WA%WE%WI%WO%WU%WV%YA%YE%YI%YO%YU%YV%MV@13F8$c b YE&YI&YO&YU&YV&MV@1400!CANADIAN S",
    "YLLABICS ob%E%AAI%I%II%O%OO%os OO%ot EE&I%A%AA%WE%bu WE%WI%bu WI%WII%bu WII%WO%bu WO%WOO%bu W",
    "OO%pv WOO%WA%bu WA%WAA%bu WAA%pv WAA%AI%os W%hl cl%n bo&cp&gj ao bi&ey ao bi&i ao bi&bi&p bo(",
    "ec af STROKES&ae q&ec bf y&al&ap gd%EN%IN%ON%AN%PE%PAAI%PI%PII%PO%POO%os POO%ot HEE&HI%PA%PAA",
    "%PWE%bu PWE%PWI%bu PWI%PWII%bu PWII%PWO%bu PWO%PWOO%bu PWOO%PWA%bu PWA%PWAA%bu PWAA%os PWAA%P",
    "%bu P%ot H%TE%TAAI%TI%TII%TO%TOO%os TOO%ot DEE&DI%TA%TAA%TWE%bu TWE%TWI%bu TWI%TWII%bu TWII%l",
    "%bu l%TWOO%bu TWOO%TWA%bu TWA%TWAA%bu TWAA%pv TWAA%T%TTE%TTI%TTO%ee%KE%KAAI%KI%KII%KO%KOO%os ",
    "KOO%KA%KAA%KWE%bu KWE%KWI%bu KWI%KWII%bu KWII%KWO%bu KWO%KWOO%bu KWOO%KWA%bu KWA%KWAA%bu KWAA",
    "%pv KWAA%K%KW%SOUTH-SLAVEY KEH&KIH&KOH&KAH%CE%CAAI%CI%CII%CO%COO%os COO%CA%CAA%CWE%bu CWE%CWI",
    "%bu CWI%CWII%bu CWII%CWO%bu CWO%CWOO%bu CWOO%CWA%bu CWA%CWAA%bu CWAA%pv CWAA%C%qy TH%ME%MAAI%",
    "MI%MII%MO%MOO%os MOO%MA%MAA%MWE%bu MWE%MWI%bu MWI%MWII%bu MWII%MWO%bu MWO%MWOO%bu MWOO%MWA%bu",
    " MWA%MWAA%bu MWAA%pv MWAA%M%bu M%MH%ATHAPASCAN M%qy M%NE%NAAI%NI%NII%NO%NOO%os NOO%NA%NAA%NWE",
    "%bu NWE%NWA%bu NWA%NWAA%bu NWAA%pv NWAA%N%ot NG%NH%LE%LAAI%LI%LII%LO%LOO%os LOO%LA%LAA%LWE%bu",
    " LWE%LWI%bu LWI%LWII%bu LWII%LWO%bu LWO%LWOO%bu LWOO%LWA%bu LWA%LWAA%bu LWAA%L%bu L%bs L%SE%S",
    "AAI%SI%SII%SO%SOO%os SOO%SA%SAA%SWE%bu SWE%SWI%bu SWI%SWII%bu SWII%SWO%bu SWO%SWOO%bu SWOO%SW",
    "A%bu SWA%SWAA%bu SWAA%pv SWAA%S%ATHAPASCAN S%SW%BLACKFOOT S%MOOSE-CREE SK%pv SKW&S-W&SPWA&STW",
    "A&SKWA&SCWA%gc%SHI%SHII%SHO%SHOO%ck%SHAA%SHWE%bu SHWE%SHWI%bu SHWI%SHWII%bu SHWII%SHWO%bu SHW",
    "O%SHWOO%bu SHWOO%SHWA%bu SHWA%SHWAA%bu SHWAA%SH%YE%YAAI%YI%YII%YO%YOO%os YOO%YA%YAA%YWE%bu YW",
    "E%YWI%bu YWI%YWII%bu YWII%YWO%bu YWO%YWOO%bu YWOO%YWA%bu YWA%YWAA%bu YWAA%pv YWAA%Y%BIBLE-CRE",
    "E Y%bu Y%qy YI%RE%R-CREE RE%bu LE%RAAI%RI%RII%RO%ROO%bu LO%RA%RAA%bu LA%RWAA%bu RWAA%R%bu R%b",
    "s R%FE%FAAI%FI%FII%FO%FOO%FA%FAA%FWAA%bu FWAA%F%fp%N-CREE fp%THI%N-CREE THI%THII%N-CREE THII%",
    "THO%THOO%df%THAA%THWAA%bu THWAA%TH%TTHE%TTHI%TTHO%ez%TTH%TYE%TYI%TYO%TYA%NUNAVIK HE&HI&HII&HO",
    "&HOO&HA&HAA&H%NUNAVUT H%HK%QAAI%QI%QII%QO%QOO%QA%QAA%Q%TLHE%TLHI%TLHO%TLHA%bu RE&RI&RO&RA%NGA",
    "AI%NGI%NGII%NGO%NGOO%cj%NGAA%NG%NNG%qy gc&SHI&SHO&ck%WOODS-CREE fp&THI&THO&df&TH%LHI%LHII%LHO",
    "%LHOO%LHA%LHAA%LH%TH-CREE fp&THI&THII&THO&THOO&df&THAA&TH%AIVILIK B%BLACKFOOT E&I&O&A&WE&WI&W",
    "O&WA&NE&NI&NO&NA&KE&KI&KO&KA%qy HE&HI&HO&HA%ot GHU&GHO&GHE&GHEE&GHI&ei&RU&RO&RE&REE&RI&RA&WU&",
    "WO&WE&WEE&WI&WA&HWU&HWO&HWE&HWEE&HWI&HWA&THU&THO&fp&THEE&THI&df&TTU&TTO&TTE&TTEE&TTI&ee&PU&PO",
    "&PE&PEE&PI&PA&P&GU&GO&GE&GEE&GI&GA&KHU&KHO&KHE&KHEE&KHI&cv&KKU&KKO&KKE&KKEE&KKI&KKA&KK&NU&NO&",
    "NE&NEE&NI&NA&MU&MO&ME&MEE&MI&MA&YU&YO&YE&YEE&YI&YA&JU%qy JU%ot JO&JE&JEE&JI%qy JI%ot JA&JJU&J",
    "JO&JJE&JJEE&JJI&JJA&LU&LO&LE&LEE&LI&LA&DLU&DLO&DLE&DLEE&DLI&DLA&LHU&LHO&LHE&LHEE&LHI&LHA&TLHU",
    "&TLHO&TLHE&TLHEE&TLHI&TLHA&TLU&TLO&TLE&TLEE&TLI&TLA&ZU&ZO&ZE&ZEE&ZI&ZA&Z&ab Z&DZU&DZO&DZE&DZE",
    "E&DZI&DZA&SU&SO&SE&SEE&SI&SA&SHU&SHO&gc&SHEE&SHI&ck&SH&TSU&TSO&TSE&TSEE&TSI&hb&CHU&CHO&CHE&CH",
    "EE&CHI&cr&TTSU&TTSO&TTSE&TTSEE&TTSI&TTSA%CHI f%ea cl%QAI%NGAI%NNGI%NNGII%NNGO%NNGOO%NNGA%NNGA",
    "A%WOODS-CREE THWEE&THWI&THWII&THWO&THWOO&THWA&THWAA&n TH%BLACKFOOT W!OGHAM jd r$b BEITH%LUIS%",
    "FEARN%SAIL%NION%UATH%DAIR%TINNE%COLL%CEIRT%MUIN%GORT%NGEADAL%STRAIF%RUIS%AILM%ONN%UR%EADHADH%",
    "IODHADH%EABHADH%OR%UILLEANN%IFIN%EAMHANCHOLL%PEITH$FEATHER r$cg FEATHER r@16A0!RUNIC b FEHU F",
    "EOH FE F%V%URUZ UR U%YR%Y%W%THURISAZ THURS THORN%ETH%ANSUZ A%OS O%AC A%AESC%LONG-BRANCH-OSS O",
    "%SHORT-TWIG-OSS O%O%OE%ON%RAIDO RAD REID R%KAUNA%CEN%KAUN K%G%ENG%GEBO GYFU G%GAR%WUNJO WYNN ",
    "W%HAGLAZ H%HAEGL H%LONG-BRANCH-HAGALL H%SHORT-TWIG-HAGALL H%NAUDIZ NYD NAUD N%SHORT-TWIG-NAUD",
    " N%DOTTED-N%ISAZ IS ISS I%E%JERAN J%GER%LONG-BRANCH-AR AE%SHORT-TWIG-AR A%IWAZ EOH%PERTHO PEO",
    "RTH P%ALGIZ EOLHX%SOWILO S%SIGEL LONG-BRANCH-SOL S%SHORT-TWIG-SOL S%C%Z%TIWAZ TIR TYR T%SHORT",
    "-TWIG-TYR T%D%BERKANAN BEORC BJARKAN B%SHORT-TWIG-BJARKAN B%DOTTED-P%OPEN-P%EHWAZ EH E%MANNAZ",
    " MAN M%LONG-BRANCH-MADR M%SHORT-TWIG-MADR M%LAUKAZ LAGU LOGR L%DOTTED-L%INGWAZ%ING%DAGAZ DAEG",
    " D%OTHALAN ETHEL O%EAR%IOR%CWEORTH%CALC%CEALC%STAN%LONG-BRANCH-YR%SHORT-TWIG-YR%ICELANDIC-YR%",
    "Q%X$cq eu$nj eu$el eu$ARLAUG z$TVIMADUR z$BELGTHOR z$b K%SH%OO%FRANKS CASKET OS(IS(EH(AC(AESC",
    "@1700!TAGALOG b A%I%U%KA%GA%cj%TA%DA%NA%PA%BA%MA%YA%RA%LA%WA%SA%HA$be f I&U$f fd%PAMUDPOD@171",
    "F$b jp RA!HANUNOO b A%I%U%KA%GA%cj%TA%DA%NA%PA%BA%MA%YA%RA%LA%WA%SA%HA$be f I&U$f PAMUDPOD!PH",
    "ILIPPINE cq eu$p eu@1740!BUHID b A%I%U%KA%GA%cj%TA%DA%NA%PA%BA%MA%YA%RA%LA%WA%SA%HA$be f I&U@",
    "1760!TAGBANWA b A%I%U%KA%GA%cj%TA%DA%NA%PA%BA%MA%YA@176E%LA%WA%SA@1772$be f I&U@1780!KHMER b ",
    "KA%cv%KO%KHO%NGO%CA%cr%CO%CHO%NYO%DA%ez%DO%TTHO%NNO%TA%df%TO%THO%NO%BA%dq%PO%PHO%MO%YO%RO%LO%",
    "VO%ck%SSO%SA%HA%LA%QA$rt be QAQ&QAA&QI&QII&QU&QUK&QUU&QUUV&RY&RYY&LY&LYY&QE&QAI&QOO TYPE o)l&",
    "QAU$be INHERENT AQ&AA%f AA&I&II&Y&YY&U&UU&UA&OE&YA&IE&E&AE&AI&OO&AU$f NIKAHIT%REAHMUK%YUUKALE",
    "APINTU%MUUSIKATOAN%TRIISAP%BANTOC%ROBAT%TOANDAKHIAT%KAKABAT%AHSDA%SAMYOK SANNYA%VIRIAM%COENG%",
    "BATHAMASAT%KHAN%BARIYOOSAN%CAMNUC PII KUUH%LEK TOO%BEYYAL%PHNAEK MUAN%KOOMUUT$vl z RIEL$f AVA",
    "KRAHASANYA%ATTHACAN@17E0$bh bt%o%l%s%w%aa%ag%an%ah%ar@17F0$z LEK ATTAK SON(MUOY(PII(BEI(BUON(",
    "PRAM(PRAM-MUOY(PRAM-PII(PRAM-BEI(PRAM-BUON@1800!MONGOLIAN pl$ro$de$ea cl$gn$w aw$TODO SOFT ob",
    "$SIBE lp BOUNDARY sa$MANCHU de%ea cl$NIRUGU$FREE wn SELECTOR o(l(s$be im$FREE wn SELECTOR w$b",
    "h bt%o%l%s%w%aa%ag%an%ah%ar@1820$b A%E%I%O%U%OE%UE%EE%NA%ANG%BA%PA%QA%GA%MA%LA%SA%ck%TA%DA%cr",
    "%JA%YA%RA%WA%FA%KA%cv%hb%ZA%HAA%ZRA%LHA%ZHI%CHI%TODO bz be f&E&I&O&U&OE&UE&ANG&BA&PA&QA&GA&MA",
    "&TA&DA&cr&JA&hb&YA&WA&KA&GAA&HAA&JIA&NIA&DZA%SIBE E&I&IY&UE&U&ANG&KA&GA&HA&PA&ck&TA&DA&JA&FA&",
    "GAA&HAA&hb&ZA&RAA&cr&ZHA%MANCHU I&KA&RA&FA&ZHA%cr a l aw@1880%ALI GALI ed o(fv o(DAMARU(UBADA",
    "MA(cu UBADAMA(BALUDA(s BALUDA(A(I(KA(cj(CA(ee(ez(ef(eq(TA(DA(PA(dq(fh(ZHA(ZA(AH%TODO ALI GALI",
    " TA)ZHA%MANCHU ALI GALI ei)cj)CA)fu)ee)fe)TA)eg)fh)CYA)ZHA)ZA%ALI GALI ao U)YA%MANCHU ALI GAL",
    "I er%ALI GALI DAGALGA%MANCHU ALI GALI LHA@18B0!CANADIAN SYLLABICS OY%AY%AAY%WAY%POY%PAY%PWOY%",
    "TAY%KAY%KWAY%MAY%NOY%NAY%LAY%SOY%SAY%SHOY%SHAY%SHWOY%YOY%YAY%RAY%NWI%OJIBWAY NWI%NWII%OJIBWAY",
    " NWII%NWO%OJIBWAY NWO%NWOO%OJIBWAY NWOO%RWEE%RWI%RWII%RWO%RWOO%RWA%OJIBWAY P&T&K&C&M&N&S&SH%E",
    "ASTERN W%WESTERN W%n c bi&hy q%R-CREE RWE%bu LOO&LAA%THWE%THWA%TTHWE%TTHOO%TTHAA%TLHWE%TLHOO%",
    "qy SHWE&SHOO&HOO%ot GWU&DENE GEE&GAA&GWA%qy JUU%ot JWA%BEAVER DENE L(R%ot DENTAL S@1900!LIMBU",
    " VOWEL-CARRIER b$b KA%cv%GA%ei%cj%CA%cr%JA%fu%YAN%TA%df%DA%eg%NA%PA%dq%BA%er%MA%YA%RA%LA%WA%c",
    "k%fh%SA%HA%GYAN%TRA@1920$be f A&I&U&EE&AI&OO&AU&E&O$uy b YA&RA&WA@1930$c b KA&cj&ed&TA&NA&PA&",
    "MA&RA&LA$f MUKPHRENG%KEMPHRENG%SA-I@1940%LOO@1944$hw r$hi r$bh bt%o%l%s%w%aa%ag%an%ah%ar!TAI ",
    "LE b KA&XA&cj&hb&SA&YA&TA&df&LA&PA&dq&MA&FA&VA&HA&QA&cv&mi&NA&A&I&EE&EH&U&OO&O&UE&E&AUE&AI@19",
    "70&qd&rb&TONE-4&qe&TONE-6@1980!NEW TAI LUE b ci QA(bn QA(ci KA)XA)cj(bn KA)XA)cj(ci hb)SA)YA(",
    "bn hb)SA)YA(ci TA)df)NA(bn TA)df)NA(ci PA)dq)MA(bn PA)dq)MA(ci FA)VA)LA(bn FA)VA)LA(ci HA)DA)",
    "BA(bn HA)DA)BA(ci KVA)XVA(bn KVA)XVA(ci SUA(bn SUA@19B0&be f be SHORTENER)AA)II)U)UU)E)AE)O)O",
    "A)UE)AY)AAY)UY)OY)OAY)UEY)IY&b n V)NG)N)M)K)D)B&cd MARK-1(MARK-2@19D0&bh bt(o(l(s(w(aa(ag(an(",
    "ah(ar&THAM bh o@19DE&f LAE(LAEV!KHMER z PATHAMASAT%MUOY ly%PII ly%BEI ly%BUON ly%PRAM ly%PRAM",
    "-MUOY ly%PRAM-PII ly%PRAM-BEI ly%PRAM-BUON ly%DAP ly%DAP-MUOY ly%DAP-PII ly%DAP-BEI ly%DAP-BU",
    "ON ly%DAP-PRAM ly%TUTEYASAT%MUOY ROC%PII ROC%BEI ROC%BUON ROC%PRAM ROC%PRAM-MUOY ROC%PRAM-PII",
    " ROC%PRAM-BEI ROC%PRAM-BUON ROC%DAP ROC%DAP-MUOY ROC%DAP-PII ROC%DAP-BEI ROC%DAP-BUON ROC%DAP",
    "-PRAM ROC!BUGINESE b KA%GA%cj%NGKA%PA%BA%MA%MPA%TA%DA%NA%NRA%CA%JA%ct%NYCA%YA%RA%LA%VA%SA%A%H",
    "A$be f I&U&E&O&AE@1A1E$PALLAWA$gw OF il!TAI THAM b ci KA(cv(KXA&bn KA(KXA(cv&cj&ci CA(cr&bn C",
    "A(SA(cr&ct&RATA&ci RATHA&DA&bn RATHA&RANA&ci TA(df&bn TA(df&NA&BA&ci PA(dq(FA&bn PA(FA(dq&MA&",
    "bn YA&ci YA&RA&RUE&LA&LUE&WA&ci ck(fh(SA(HA&LLA&A&bn HA&I&II&U&UU&EE&OO&LAE&GREAT SA%is f bs ",
    "RA)LA(LA TANG LAI%f MAI KANG LAI%is f n cj(bn PA(ci RATHA OR bn PA(MA(BA(SA@1A60%f SAKOT%be f",
    " A(MAI SAT(AA(TALL AA(I(II(UE(UUE(U(UU(O(OA m(OY(E(AE(OO(AI(THAM AI(OA j%f MAI KANG&TONE-1&qd",
    "&KHUEN rb(TONE-4(qe&RA HAAM&MAI SAM&KHUEN-LUE KARAN@1A7F%fj qo q%HORA bh bt(o(l(s(w(aa(ag(an(",
    "ah(ar@1A90%THAM bh bt(o(l(s(w(aa(ag(an(ah(ar@1AA0%f WIANG&WIANGWAAK&SAWAN&KEOW&HOY&DOKMAI&cg ",
    "db RANA&MAI YAMOK&KAAN&KAANKUU&SATKAAN&SATKAANKUU&HANG&CAANG@1AB0!fj DOUBLED cb fi$DIAERESIS-",
    "RING$um$bj h$em q$X-X m$WIGGLY cs m$bw r m$p bw r m$bd wt y m$STRONG wt y m$PARENTHESES j$p P",
    "ARENTHESES j$PARENTHESES m%iv$eb c b W m(by W m$k ew j k$i ew j i$k ew m k$i ew m i$au BRACKE",
    "TS j$cz f j$cu p ARCH j$al f j$p al f j(m$em bo fi$eb c b kg G)R)T@1B00!BALINESE f ULU RICEM&",
    "ls%CECEK%SURANG%BISAH$b AKARA&op%IKARA&op%UKARA&op%RA REPA(op%LA LENGA(op%EKARA%AIKARA%OKARA&",
    "op%KA&rz%GA&GORA%cj%CA&LACA%JA&JERA%ct%TA LATIK&pb rz%DA pb ALPAPRANA(rz%NA RAMBAT%TA&TAWA%DA",
    "&MADU%NA%PA&KAPAL%BA&KEMBANG%MA%YA%RA%LA%WA%SA SAGA&SAPA&%HA$f REREKAN$be f op&ULU(SARI&SUKU(",
    "ILUT&RA REPA)op&LA LENGA)op&TALING(REPA(op(REPA op&PEPET(op$ADEG ADEG$b gx SASAK%KHOT SASAK%T",
    "ZIR SASAK%EF SASAK%VE SASAK%ZAL SASAK%ASYURA SASAK%jp JNYA@1B50$bh bt%o%l%s%w%aa%ag%an%ah%ar$",
    "PANTI$PAMADA$WINDU$CARIK PAMUNGKAH%SIKI%PAREREN$PAMENENG$oh z DONG&DENG&DUNG&DANG(SURANG&DING",
    "&DAENG&DEUNG&DAING&DANG GEDE&fj TEGEH(ENDEP(KEMPUL(KEMPLI(JEGOGAN(KEMPUL a JEGOGAN(KEMPLI a J",
    "EGOGAN(BENDE(GONG&RIGHT-HAND bw DUG)DAG(fw TUK)TAK&LEFT-HAND bw PANG)PUNG(fw PLAK)PLUK(bw PIN",
    "G$PANTI LANTANG$PAMADA LANTANG@1B80!SUNDANESE f PANYECEK%PANGLAYAR%PANGWISAD$b A%I%U%AE%O%E%E",
    "U%KA%QA%GA%cj%CA%JA%ZA%ct%TA%DA%NA%PA%FA%VA%BA%MA%YA%RA%LA%WA%SA%XA%HA$is f PAMINGKAL&PANYAKR",
    "A&PANYIKU$be f PANGHULU&PANYUKU&PANAELAENG&PANOLONG&PAMEPET&PANEULEUNG$f PAMAAEH%fd$is f PASA",
    "NGAN MA(WA$b cv%SYA$bh bt%o%l%s%w%aa%ag%an%ah%ar$ld$b REU%LEU%er%n K&M!BATAK b A%pe A%HA%pe H",
    "A%MANDAILING HA%BA%KARO BA%PA%pe PA%NA%MANDAILING NA%WA%pe WA%PAKPAK WA%GA%pe GA%JA%DA%RA%pe ",
    "RA%MA%pe MA%SOUTHERN TA%NORTHERN TA%SA%pe SA%MANDAILING SA%YA%pe YA%cj%LA%pe LA%ct%CA%NDA%MBA",
    "%I%U$f TOMPI$be f E&PAKPAK E&EE&I&KARO I&O&KARO O&U(fm pe SA$is f NG&H$PANGOLAT$PANONGONAN@1B",
    "FC$z BINDU NA METEK&PINARBORAS&JUDUL&PANGOLAT!LEPCHA b KA%KLA%cv%GA%GLA%cj%CA%cr%JA%ct%TA%df%",
    "DA%NA%PA%PLA%dq%FA%FLA%BA%BLA%MA%MLA%hb%mi%DZA%YA%RA%LA%HA%HLA%VA%SA%ck%WA%A$uy b YA&RA$be f ",
    "AA&I&O&OO&U&UU&E$is f K&M&L&N&P&R&T&NYIN-DO&KANG$f RAN%ie@1C3B$eu TA-ROL%NYET THYOOM TA-ROL%C",
    "ER-WA%TSHOOK CER-WA&$bh bt%o%l%s%w%aa%ag%an%ah%ar@1C4D$b ee%ez%ef!OL CHIKI bh bt&o&l&s&w&aa&a",
    "g&an&ah&ar%b LA&AT&AG&ANG&AL&LAA&AAK&AAJ&AAM&AAW&LI&IS&IH&INY&IR&LU&UC&UD&UNN&UY&LE&EP&EDD&EN",
    "&ERR&LO&OTT&OB&OV&OH%MU TTUDDAG%GAAHLAA TTUDDAAG%MU-GAAHLAA TTUDDAAG%RELAA%PHAARKAA%AHAD%eu M",
    "UCAAD&p MUCAAD!mo c b py VE&LONG-LEGGED DE&NARROW O&WIDE ES&TALL TE&THREE-LEGGED TE&TALL HARD",
    " f(YAT&UNBLENDED UK@1C90!vp MTAVRULI e b AN(BAN(GAN(DON(EN(VIN(ZEN(TAN(IN(KAN(LAS(MAN(NAR(ON(",
    "PAR(ZHAR(RAE(SAN(TAR(UN(PHAR(KHAR(GHAN(QAR(ha(CHIN(CAN(JIL(CIL(CHAR(XAN(JHAN(HAE(HE(HIE(WE(HA",
    "R(HOE(FI(YN(ELIFI(by GAN(ge@1CBD(AEN(HARD f(LABIAL f!SUNDANESE eu BINDU SURYA&PANGLONG&PURNAM",
    "A&CAKRA&LEU SATANGA&KA SATANGA&DA SATANGA&BA SATANGA@1CD0!VEDIC cd KARSHANA%SHARA%PRENKHA$f N",
    "IHSHVASA%YAJURVEDIC MIDLINE qc$cd YAJURVEDIC AGGRAVATED rt qc&rt qc&KATHAKA rt qc%ls m%YAJURV",
    "EDIC KATHAKA rt qc SCHROEDER%p qc%em qc%KATHAKA ve%q m%l aw m%s aw m%RIGVEDIC KASHMIRI rt qc%",
    "ATHARVAVEDIC rt qc$f fv qc&UDATTA%cg fv UDATTA%fv ve%cg fv ve%fv UDATTA a dr&ve a dr%ed ANTAR",
    "GOMUKHA&BAHIRGOMUKHA&VAMAGOMUKHA(a dr%TIRYAK%HEXIFORM bz ed%bz ed%RTHANG bz ed%ed UBHAYATO MU",
    "KHA%ARDHAVISARGA%db ARDHAVISARGA$cd ls j$f up%vb%ATIKRAMA$cd bi j%p bi j$f p ed ANTARGOMUKHA@",
    "1D00!eb b c e A(AE$c b by AE$b c e pj B(C(D(ETH(E$c b by bw E(I$b c e J(K(L a y(M(cg N(O(bw O",
    "$c b qz O(bw O(O a y&by OE$b c e OU$c b ey ao O&gj ao O$b c e P(cg R(by R(T(U$c b qz U(DIAERE",
    "SIZED U(by M$b c e V(W(Z(EZH%qg LARYNGEAL SPIRANT%ge!id b c e iy(mu(PI(RHO(PSI!mo b c e EL!gy",
    " b e A&AE&B&pj B&D&E&cg E&G&H&I&J&K&L&M&N&cg N&O&OU&P&R&T&U&W%c A&by A&gf&by AE&B&D&E&pz&bw E",
    "&by bw E&G&by I&K&M&ENG&O&bw O&ey ao O&gj ao O&P&T&U&qz U&by M&V&ge&jr&id iy&jl&id PHI&CHI!eb",
    " tr c b I(R(U(V!id tr c b jr(iy(RHO(PHI(CHI!eb c b UE&B a ae bg&D a ae bg&F a ae bg&M a ae bg",
    "&N a ae bg&P a ae bg&R a ae bg)te g ae bg&S a ae bg&T a ae bg&Z a ae bg&by G!gy b mo EN!eb c ",
    "b kg G&TH a STRIKETHROUGH%e b I a y%b gs a y&P a y%e b U a y%b hp a y&B a hh x&D a hh x&F a h",
    "h x&G a hh x&K a hh x&L a hh x&M a hh x&N a hh x&P a hh x&R a hh x&S a hh x&ESH a hh x&V a hh",
    " x&X a hh x&Z a hh x&A a ex x&gf a ex x&D a x g dr&E a ex x&bw E a ex x&cg bw E a ex x&pz a e",
    "x x&I a ex x&bw O a ex x&ESH a ex x&U a ex x&EZH a ex x!gy b c by gf&C(a ix&ETH&cg bw E&F&mr ",
    "J a y&if G&by H&I a y&gs&e I)a y&J a qn&L a ex x)hh x&e L&M a x&by M a bz LEG&N a k x)ex x&e ",
    "N&pj O&PHI&S a x&ESH&T a hh x&U ak&hp&e U&V a x&by V&Z(a ex x)ix&EZH&ig!fj fl cp fi%bo fi$SNA",
    "KE m$SUSPENSION r$MACRON-ACUTE$GRAVE-MACRON$MACRON-GRAVE$ACUTE-MACRON$GRAVE-ACUTE-GRAVE$ACUTE",
    "-GRAVE-ACUTE$eb c b R m$BREVE-MACRON$MACRON-BREVE$p cb j$md j$sx m$IS m$UR j$US j$eb c b xb b",
    "w A j(AE(AO(AV(C hd(kg D(ETH(G%b c e G%c b K(L%b c e L)M%c b N%b c e N)R%c b R ROTUNDA(S(bz S",
    "(Z(gf(B(jr(pz(F(L a p ae bg(O a bd wt y(P(ESH(U a bd wt y(W(A a ch(O a ch(U a ch$UP gd j$KAVY",
    "KA j i&k$q j k$WIDE cu BRIDGE m$q m k$DELETION r$p cu dn m$lb bb TO m$k cm j$i cm g ap cm m!e",
    "b e b A a bi m$c b A a bi m$e b B a q j$c b B a q j$e b B a q m$c b B a q m$e b B a cs m$c b ",
    "B a cs m$e b C a hd g bo$c b C a hd g bo$e b D a q j$c b D a q j$e b D a q m$c b D a q m$e b ",
    "D a cs m$c b D a cs m$e b D a hd$c b D a hd$e b D a cb m$c b D a cb m$e b E a cw g cp$c b E a",
    " cw g cp$e b E a cw g bo$c b E a cw g bo$e b E a cb m$c b E a cb m$e b E a bg m$c b E a bg m$",
    "e b E a hd g dn$c b E a hd g dn$e b F a q j$c b F a q j$e b G a cw$c b G a cw$e b H a q j$c b",
    " H a q j$e b H a q m$c b H a q m$e b H a ch$c b H a ch$e b H a hd$c b H a hd$e b H a dn m$c b",
    " H a dn m$e b I a bg m$c b I a bg m$e b I a ch g bo$c b I a ch g bo$e b K a bo$c b K a bo$e b",
    " K a q m$c b K a q m$e b K a cs m$c b K a cs m$e b L a q m$c b L a q m$e b L a q m g cw$c b L",
    " a q m g cw$e b L a cs m$c b L a cs m$e b L a cb m$c b L a cb m$e b M a bo$c b M a bo$e b M a",
    " q j$c b M a q j$e b M a q m$c b M a q m$e b N a q j$c b N a q j$e b N a q m$c b N a q m$e b ",
    "N a cs m$c b N a cs m$e b N a cb m$c b N a cb m$e b O a bg g bo$c b O a bg g bo$e b O a bg g ",
    "ch$c b O a bg g ch$e b O a cw g cp$c b O a cw g cp$e b O a cw g bo$c b O a cw g bo$e b P a bo",
    "$c b P a bo$e b P a q j$c b P a q j$e b R a q j$c b R a q j$e b R a q m$c b R a q m$e b R a q",
    " m g cw$c b R a q m g cw$e b R a cs m$c b R a cs m$e b S a q j$c b S a q j$e b S a q m$c b S ",
    "a q m$e b S a bo g q j$c b S a bo g q j$e b S a eo g q j$c b S a eo g q j$e b S a q m g q j$c",
    " b S a q m g q j$e b T a q j$c b T a q j$e b T a q m$c b T a q m$e b T a cs m$c b T a cs m$e ",
    "b T a cb m$c b T a cb m$e b U a ch m$c b U a ch m$e b U a bg m$c b U a bg m$e b U a cb m$c b ",
    "U a cb m$e b U a bg g bo$c b U a bg g bo$e b U a cw g ch$c b U a cw g ch$e b V a bg$c b V a b",
    "g$e b V a q m$c b V a q m$e b W a cp$c b W a cp$e b W a bo$c b W a bo$e b W a ch$c b W a ch$e",
    " b W a q j$c b W a q j$e b W a q m$c b W a q m$e b X a q j$c b X a q j$e b X a ch$c b X a ch$",
    "e b Y a q j$c b Y a q j$e b Z a cb$c b Z a cb$e b Z a q m$c b Z a q m$e b Z a cs m$c b Z a cs",
    " m&H a cs m&T a ch&W a bi j&Y a bi j&A a i ao bi&bz S a q j*ep y*ci y$e b SHARP S$c b jl$e b ",
    "A a q m$c b A a q m$e b A a x j$c b A a x j$e b A a cb g bo$c b A a cb g bo$e b A a cb g cp$c",
    " b A a cb g cp$e b A a cb g x j$c b A a cb g x j$e b A a cb g bg$c b A a cb g bg$e b A a cb g",
    " q m$c b A a cb g q m$e b A a dn g bo$c b A a dn g bo$e b A a dn g cp$c b A a dn g cp$e b A a",
    " dn g x j$c b A a dn g x j$e b A a dn g bg$c b A a dn g bg$e b A a dn g q m$c b A a dn g q m$",
    "e b E a q m$c b E a q m$e b E a x j$c b E a x j$e b E a bg$c b E a bg$e b E a cb g bo$c b E a",
    " cb g bo$e b E a cb g cp$c b E a cb g cp$e b E a cb g x j$c b E a cb g x j$e b E a cb g bg$c ",
    "b E a cb g bg$e b E a cb g q m$c b E a cb g q m$e b I a x j$c b I a x j$e b I a q m$c b I a q",
    " m$e b O a q m$c b O a q m$e b O a x j$c b O a x j$e b O a cb g bo$c b O a cb g bo$e b O a cb",
    " g cp$c b O a cb g cp$e b O a cb g x j$c b O a cb g x j$e b O a cb g bg$c b O a cb g bg$e b O",
    " a cb g q m$c b O a cb g q m$e b O a ga g bo$c b O a ga g bo$e b O a ga g cp$c b O a ga g cp$",
    "e b O a ga g x j$c b O a ga g x j$e b O a ga g bg$c b O a ga g bg$e b O a ga g q m$c b O a ga",
    " g q m$e b U a q m$c b U a q m$e b U a x j$c b U a x j$e b U a ga g bo$c b U a ga g bo$e b U ",
    "a ga g cp$c b U a ga g cp$e b U a ga g x j$c b U a ga g x j$e b U a ga g bg$c b U a ga g bg$e",
    " b U a ga g q m$c b U a ga g q m$e b Y a cp$c b Y a cp$e b Y a q m$c b Y a q m$e b Y a x j$c ",
    "b Y a x j$e b Y a bg$c b Y a bg$e b xn LL$c b xn LL$e b xn V$c b xn V$e b Y a kj$c b Y a kj!i",
    "d c b gf a cf)ce)cf g dd)ce g dd)cf g dc)ce g dc)cf g et)ce g et$e b gf a cf)ce)cf g dd)ce g ",
    "dd)cf g dc)ce g dc)cf g et)ce g et$c b hv a cf)ce)cf g dd)ce g dd)cf g dc)ce g dc@1F18$e b hv",
    " a cf)ce)cf g dd)ce g dd)cf g dc)ce g dc@1F20$c b ETA a cf)ce)cf g dd)ce g dd)cf g dc)ce g dc",
    ")cf g et)ce g et$e b ETA a cf)ce)cf g dd)ce g dd)cf g dc)ce g dc)cf g et)ce g et$c b gs a cf)",
    "ce)cf g dd)ce g dd)cf g dc)ce g dc)cf g et)ce g et$e b gs a cf)ce)cf g dd)ce g dd)cf g dc)ce ",
    "g dc)cf g et)ce g et$c b kl a cf)ce)cf g dd)ce g dd)cf g dc)ce g dc@1F48$e b kl a cf)ce)cf g ",
    "dd)ce g dd)cf g dc)ce g dc@1F50$c b hp a cf)ce)cf g dd)ce g dd)cf g dc)ce g dc)cf g et)ce g e",
    "t@1F59$e b hp a ce@1F5B*g dd@1F5D+dc@1F5F+et$c b fo a cf)ce)cf g dd)ce g dd)cf g dc)ce g dc)c",
    "f g et)ce g et$e b fo a cf)ce)cf g dd)ce g dd)cf g dc)ce g dc)cf g et)ce g et$c b gf a dd)dc&",
    "hv a dd)dc&ETA a dd)dc&gs a dd)dc&kl a dd)dc&hp a dd)dc&fo a dd)dc@1F80&gf a cf g fr)ce g fr)",
    "cf g dd g fr)ce g dd g fr)cf g dc g fr)ce g dc g fr)cf g et g fr)ce g et g fr$e b gf a cf g h",
    "o)ce g ho)cf g dd g ho)ce g dd g ho)cf g dc g ho)ce g dc g ho)cf g et g ho)ce g et g ho$c b E",
    "TA a cf g fr)ce g fr)cf g dd g fr)ce g dd g fr)cf g dc g fr)ce g dc g fr)cf g et g fr)ce g et",
    " g fr$e b ETA a cf g ho)ce g ho)cf g dd g ho)ce g dd g ho)cf g dc g ho)ce g dc g ho)cf g et g",
    " ho)ce g et g ho$c b fo a cf g fr)ce g fr)cf g dd g fr)ce g dd g fr)cf g dc g fr)ce g dc g fr",
    ")cf g et g fr)ce g et g fr$e b fo a cf g ho)ce g ho)cf g dd g ho)ce g dd g ho)cf g dc g ho)ce",
    " g dc g ho)cf g et g ho)ce g et g ho$c b gf a VRACHY)cw)dd g fr)fr)dc g fr@1FB6)et*g fr$e b g",
    "f a VRACHY)cw)dd)dc)ho$KORONIS$ho$cf$et$mp g et$c b ETA a dd g fr)fr)dc g fr@1FC6)et*g fr$e b",
    " hv a dd)dc&ETA a dd)dc)ho$cf g dd&dc&et$c b gs a VRACHY)cw)mp g dd+dc@1FD6)et)mp g et$e b gs",
    " a VRACHY)cw)dd)dc@1FDD$ce g dd&dc&et$c b hp a VRACHY)cw)mp g dd+dc&RHO a cf)ce&hp a et)mp g ",
    "et$e b hp a VRACHY)cw)dd)dc&RHO a ce$mp g dd&dc$dd@1FF2$c b fo a dd g fr)fr)dc g fr@1FF6)et*g",
    " fr$e b kl a dd)dc&fo a dd)dc)ho$dc$ce@2000!EN mv!EM mv!EN jd!EM jd!THREE-PER-EM jd!FOUR-PER-",
    "EM jd!SIX-PER-EM jd!FIGURE jd!eu jd!THIN jd!HAIR jd!bt WIDTH jd%NON-JOINER%th!vy r!yd r!ob!NO",
    "N-BREAKING ob!FIGURE fa!EN fa!EM fa!bf ak!p af cs$bn cs!k cq gz r!i cq gz r!cq LOW-9 gz r$HIG",
    "H-REVERSED-9 gz r!k p gz r!i p gz r!p LOW-9 gz r$HIGH-REVERSED-9 gz r!DAGGER!p DAGGER!mm!jf m",
    "m!o q LEADER!l q LEADER!bf ro!HYPHENATION nl!cs im!we im!vy EMBEDDING!yd EMBEDDING!POP DIRECT",
    "IONAL FORMATTING!vy OVERRIDE!yd OVERRIDE!NARROW NO-BREAK jd!PER MILLE f$ca az f!ol!p ol!em ol",
    "!cg ol$p ol$em ol!pm!cq jm dw gz r$ik dw gz r!REFERENCE r!p hw r!vt!sg!UNDERTIE!ql TIE!pm INS",
    "ERTION nl!ASTERISM!ob mm!js lo!k au as a QUILL!i au as a QUILL!p hi r!hi hw r!hw hi r!TIRONIA",
    "N f ET!cg PILCROW f!t am mm$ac mm!bn ek!cg oo!CLOSE UP!l ASTERISKS ALIGNED tu!vk kk f!SWUNG f",
    "a!cu UNDERTIE!FLOWER eu r!s q eu!pc ol!w q eu!aa q eu!l q eu!w q r!fl el!TRICOLON!af w aw!bq ",
    "ur jd!mj th!FUNCTION APPLICATION!INVISIBLE ai$im$al@2066!vy ISOLATE!yd ISOLATE!FIRST STRONG I",
    "SOLATE!POP DIRECTIONAL ISOLATE!INHIBIT SYMMETRIC SWAPPING!ACTIVATE SYMMETRIC SWAPPING!INHIBIT",
    " jo d SHAPING!ACTIVATE jo d SHAPING!NATIONAL bh SHAPES!NOMINAL bh SHAPES!ns bt$eb c b I@2074$",
    "w$aa$ag$an$ah$ar$al f$kk$fx f$k ew$i ew$eb c b N!tr bt$o$l$s$w$aa$ag$an$ah$ar$al f$kk$fx f$k ",
    "ew$i ew@2090!eb tr c b A(E(O(X(pz(H(K(L(M(N(P(S(T@20A0!EURO-CURRENCY f!gn f!CRUZEIRO f!FRENCH",
    " FRANC f!LIRA f!MILL f!NAIRA f!PESETA f!RUPEE f!WON f!NEW SHEQEL f!DONG f!EURO f!KIP f!TUGRIK",
    " f!DRACHMA f!GERMAN PENNY f!PESO f!GUARANI f!AUSTRAL f!HRYVNIA f!CEDI f!LIVRE TOURNOIS f!SPES",
    "MILO f!TENGE f!INDIAN RUPEE f!TURKISH LIRA f!NORDIC r f!MANAT f!RUBLE f!LARI f!BITCOIN f!SOM ",
    "f@20D0!fj k do j$i do j$bz af cs iv$ec af cs iv$ka h j$nc h j$k h j$i h j$bi iv$nc bi iv$ka b",
    "i iv$s aw j$w aw j$ENCLOSING av%au%fg%av sz$k i h j$ENCLOSING SCREEN%KEYCAP%UPWARD cy bl$jk i",
    "o iv$p af y iv$ANNUITY z$em UNDERDOT$WIDE BRIDGE j$am h iv$bz p io iv$ac do a bm bj$am do a b",
    "m bj$k h m$i h m$ek j@2100!ACCOUNT OF!ADDRESSED TO fp SUBJECT!ow e C!DEGREE CELSIUS!dm cs z!C",
    "ARE OF!CADA UNA!EULER CONSTANT!SCRUPLE!DEGREE FAHRENHEIT!if c G$e H!vh e H!ow e H!PLANCK CONS",
    "TANT%ay l PI!if e I!vh e I!if e L$c L!L B ak z!ow e N!NUMERO f!kz RECORDING COPYRIGHT!if e P!",
    "ow e P%Q!if e R!vh e R!ow e R!PRESCRIPTION TAKE!RESPONSE!SERVICE r!oq f!TRADE r f!VERSICLE!ow",
    " e Z!OUNCE f!OHM f!cu OHM f!vh e Z!by id c b gs!KELVIN f!ANGSTROM f!if e B!vh e C!ESTIMATED z",
    "!if c E$e E%F!by e F!if e M$c O!ba z!BET z!le z!DALET z!INFORMATION SOURCE!db e Q!FACSIMILE f",
    "!ow c PI%iy$e iy%PI$N-ARY SUMMATION!by iw e G&L!cg iw e L!by iw e Y!ow oy e D%c D&E&I&J!PROPE",
    "RTY cs!by rd!PER f!AKTIESELSKAB!by c F!z fm SAMARITAN SOURCE!VULGAR js o SEVENTH&NINTH&TENTH&",
    "nt%l ra%o FIFTH%l FIFTHS%s FIFTHS%w FIFTHS%o SIXTH%aa SIXTHS%o hs%s lt%aa lt%an lt!js NUMERAT",
    "OR o!ROMAN px o%l%s%w%aa%ag%an%ah%ar%ca%ny%my%gg%o aq%aa aq%o az!c ROMAN px o&l&s&w&aa&ag&an&",
    "ah&ar&ca&ny&my&gg&o aq&aa aq&o az!ROMAN px o az C D%aa az%ca az%cg o aq!eb c b cg C!ROMAN px ",
    "ag LATE d%gg EARLY d&az%o aq az!VULGAR js bt ra!by bh l%s@2190!am h!bp h!ac h!bj h!k i h!UP a",
    "p h!eh dv h$da h!ev da h$dv h!am h a y!ac h a y!am jh h!ac jh h!am l HEADED h!bp l HEADED h!a",
    "c l HEADED h!bj l HEADED h!am h a dr!ac h a dr!am h gp ak!bp h gp ak!ac h gp ak!bj h gp ak!UP",
    " ap h a BASE!am h a x!ac h a x!am h a kj!ac h a kj!k i jh h%h a y!bj sx h!bp h a TIP am(ac!bj",
    " h a TIP am(ac!ac h a gl bj!bj h a gl am!ka ey wi h!nc ey wi h!eh dv h TO bz ak!am h TO ak ay",
    " ac h TO ak!ka bw av h!nc bw av h!am do a bm bp(bj!bp do a bm ac(am!ac do a bm bp(bj!bj do a ",
    "bm ac(am!ac h ay am h!bp h am OF bj h!am h ay ac h$sh lc!bp sh lc!ac sh lc!bj sh lc!am do ay ",
    "ac do!ac do ay am do!am p h a y!k i p h a y!ac p h a y!am p h!bp p h!ac p h!bj p h!k i p h!UP",
    " ap p h!eh dv p h$da p h!ev da p h$dv p h!am em h!ac em h!am SQUIGGLE h!ac SQUIGGLE h!bp h a ",
    "p y!bj h a p y!am ne h!bp ne h!ac ne h!bj ne h!am h TO ak!ac h TO ak!am v h!bp v h!ac v h!bj ",
    "v h!bp v h gp ak&ON PEDESTAL)a bf ak*af ak%p h(ON PEDESTAL!ac v h gp WALL!eh dv h TO gl!ev da",
    " h TO gl!UP ap v h!i h a c av!bj h am OF bp h!s ac lc!am h a af y!ac h a af y!k i h a af y!am",
    " h a p af y!ac h a p af y!k i h a p af y!am OPEN-HEADED h!ac OPEN-HEADED h!k i OPEN-HEADED h!",
    "fm ALL!COMPLEMENT!uu uc!THERE EXISTS$DOES dh EXIST!EMPTY SET!INCREMENT!NABLA!pp OF!dh AN pp O",
    "F!c pp OF!ri AS MEMBER!DOES dh CONTAIN AS MEMBER!c ri AS MEMBER!gw OF PROOF!N-ARY nn$COPRODUC",
    "T$SUMMATION!kk f!MINUS-OR-PLUS f!q al!rl lo!SET kk!ek es!bi es!mm es!au ROOT!CUBE ROOT!FOURTH",
    " ROOT!PROPORTIONAL TO!um!i dw!dw!wa dw!SPHERICAL dw!DIVIDES!DOES dh DIVIDE!si TO!dh si TO!nh ",
    "g$OR!kw!la!jv!p jv!em jv!CONTOUR jv!SURFACE jv!VOLUME jv!nc jv$CONTOUR jv!ka CONTOUR jv!THERE",
    "FORE!BECAUSE!RATIO!PROPORTION!q kk!EXCESS!GEOMETRIC PROPORTION!HOMOTHETIC!bg es!cg bg!cu LAZY",
    " S!SINE jh!WREATH nn!dh bg!kk bg!ASYMPTOTICALLY bb TO!dh ASYMPTOTICALLY bb TO!vf bb TO$BUT dh",
    " ACTUALLY bb TO!NEITHER vf NOR ACTUALLY bb TO!lb bb TO!dh lb bb TO!lb bb OR bb TO!em bg!ALL b",
    "b TO!lv TO!GEOMETRICALLY lv TO!DIFFERENCE kr!APPROACHES fp LIMIT!GEOMETRICALLY bb TO!vf bb TO",
    " OR fp IMAGE OF!IMAGE OF OR vf bb TO!gn fx!fx gn!bi IN bb TO$bb TO!CORRESPONDS TO!ESTIMATES!E",
    "QUIANGULAR TO!dk fx!jl bb TO!bb TO BY DEFINITION!wa BY!QUESTIONED bb TO!dh bb TO!xg TO!dh xg ",
    "TO!STRICTLY lv TO!dg OR bb TO!dj OR bb TO!dg ay bb TO!dj ay bb TO!dg BUT dh bb TO!dj BUT dh b",
    "b TO!MUCH dg$dj!kr!dh lv TO$dg$dj!NEITHER dg NOR bb TO$dj NOR bb TO!dg OR lv TO!dj OR lv TO!N",
    "EITHER dg NOR lv TO$dj NOR lv TO!dg OR dj!dj OR dg!NEITHER dg NOR dj$dj NOR dg!nm!nr!nm OR bb",
    " TO!nr OR bb TO!nm OR lv TO!nr OR lv TO!DOES dh PRECEDE%SUCCEED!ib OF!iq OF!dh A ib OF%iq OF!",
    "ib OF OR bb TO!iq OF OR bb TO!NEITHER A ib OF NOR bb TO%iq OF NOR bb TO!ib OF a dh bb TO!iq O",
    "F a dh bb TO!MULTISET$pa$la!au IMAGE OF$wd OF$IMAGE OF OR bb TO$wd OF OR bb TO$CAP$CUP!ds al$",
    "kk$ai$rl lo$q es$bi es$ek es$fx$fa!fz al$kk$ai$q es!i gd!k gd!ap gd!UP gd!ASSERTION!MODELS!TR",
    "UE!FORCES!em af ak i sv!p af ak p i sv!DOES dh PROVE!dh TRUE!DOES dh FORCE!NEGATED p af ak p ",
    "i sv!nm UNDER RELATION!nr UNDER RELATION!pw so OF!ri AS pw so!pw so OF OR bb TO!ri AS pw so O",
    "R bb TO!wd OF!IMAGE OF!MULTIMAP!HERMITIAN CONJUGATE MATRIX!INTERCALATE!XOR!NAND!NOR!i dw a AR",
    "C$bl!N-ARY nh g%OR$kw$la!fg es!q es!dk es!rl ai!BOWTIE!k pw FACTOR wj nn!i pw FACTOR wj nn!k ",
    "wj nn!i wj nn!cg bg fx!hu nh OR%g!p ib$iq$kw$la!PITCHFORK!bb g si TO!dg a q!dj a q!hq MUCH dg",
    "%dj!dg bb TO OR dj!dj bb TO OR dg!bb TO OR dg&dj&nm&nr!DOES dh PRECEDE OR bb%SUCCEED OR bb!dh",
    " au IMAGE OF OR bb TO%wd OF OR bb TO!au IMAGE OF OR dh bb TO$wd OF OR dh bb TO!dg BUT dh lv T",
    "O!dj BUT dh lv TO!nm BUT dh lv TO!nr BUT dh lv TO!dh pw so OF!DOES dh CONTAIN AS pw so!dh pw ",
    "so OF OR bb TO!DOES dh CONTAIN AS pw so OR bb!af ro!MIDLINE bf ro!UP i ep ro!ap i ep ro!pp OF",
    " a bz bf y&af ak AT gw OF bf y!c pp OF a af ak AT gw OF bf y!pp OF a q j&nk!c pp OF a nk!pp O",
    "F a ih&l bf STROKES!ri a bz bf y%af ak AT gw OF bf y!c ri a af ak AT gw OF bf y!ri a nk!c ri ",
    "a nk!Z se BAG MEMBERSHIP!DIAMETER f!ELECTRIC h!HOUSE!UP cm!ap cm!PROJECTIVE!PERSPECTIVE!WAVY ",
    "cs!k qk!i qk!k pq!i pq!gj i CROP$k CROP!ey i CROP$k CROP!cg dh f!au ni!ARC!SEGMENT!SECTOR!oq ",
    "RECORDER!POSITION ru!VIEWDATA au!PLACE OF INTEREST f!by dh f!WATCH!xe!ey k gl$i gl!gj k gl$i ",
    "gl!ey ao jv!gj ao jv!FROWN!SMILE!UP cm kr l bf BARS!OPTION KEY!ERASE TO fp i!X IN A tn BOX!vx",
    "!jm dw as!ik dw as!ERASE TO fp k!BENZENE bi!CYLINDRICITY!ALL AROUND-PROFILE!SYMMETRY!TOTAL RU",
    "NOUT!DIMENSION ORIGIN!CONICAL TAPER!SLOPE!COUNTERBORE!COUNTERSINK!APL FUNCTIONAL z I-BEAM&SQU",
    "ISH mv&mv bb(DIVIDE(fg(JOT(av&av STILE(JOT&lo ak&sz ak&mv lo(sz(dg(dj&am VANE&ac VANE&mv am h",
    "(ac h&av sz&ap gd ih&jl STILE&mv ap pm(jl&ap gd JOT&bp VANE&mv bp h&UP gd nk&DEL STILE&mv UP ",
    "pm(DEL&UP gd JOT&bj VANE&mv bj h&QUOTE ih&jl ih&fg ih&JOT ih&av ih&UP SHOE JOT&QUOTE mv&av dk",
    "&mv gn&UP gd ch&DEL ch&dk ch&JOT ch&av ch&ap SHOE STILE&k SHOE STILE&bg ch&dj ch&de ak&DEL bg",
    "&ZILDE&STILE bg&oo ih&mv dh bb(hi&ap pm bg&UP pm bg&gs&RHO&fo&gf ih&hv ih&gs ih&fo ih&gf!dh n",
    "w r!i dw a bj sx h!SHOULDERED bw BOX!BELL z!af cs a ae q!INSERTION z!CONTINUOUS UNDERLINE z!D",
    "ISCONTINUOUS UNDERLINE z!EMPHASIS z!COMPOSITION z!v au a dm af cs!ENTER z!ALTERNATIVE KEY z!H",
    "ELM z!ds bf ak a NOTCH$bl ap!BROKEN av a NORTHWEST h!UNDO z!MONOSTABLE z!HYSTERESIS z!OPEN-CI",
    "RCUIT-OUTPUT H-TYPE z$L-TYPE z!PASSIVE-PULL-DOWN-OUTPUT z!PASSIVE-PULL-UP-OUTPUT z!DIRECT CUR",
    "RENT z d l!SOFTWARE-FUNCTION z!APL FUNCTIONAL z mv!DECIMAL im KEY z!PREVIOUS PAGE!NEXT PAGE!P",
    "RINT SCREEN z!CLEAR SCREEN z!k ew bv x%rq%bk x!i ew bv x%rq%bk x!k au as bv gl&rq&bk gl!i au ",
    "as bv gl&rq&bk gl!k hu as bv x&ae PIECE&bk x!hu as rq!i hu as bv x&ae PIECE&bk x!jv rq!bf cs ",
    "rq!bv k OR bk i hu as il$i OR bk k hu as il!SUMMATION ey$gj!ey au as!gj au as&ay ey au as!RAD",
    "ICAL z gj!k af BOX cs!i af BOX cs!bf SCAN LINE-1%LINE-3%LINE-7%LINE-9!DENTISTRY z bd af g ey ",
    "i)gj i(a av&ap g bf a av&UP g bf a av&af a bl&ap g bf a bl&UP g bf a bl&af g jh&ap g bf a jh&",
    "UP g bf a jh&ap g bf&UP g bf&af g ey k)gj k!au FOOT!RETURN z!EJECT z!af cs rq!METRICAL dn$bz ",
    "ay ec$ec ay bz$bz ay l SHORTS$l SHORTS ay bz&JOINED$TRISEME$TETRASEME$PENTASEME!ms GROUND!FUS",
    "E!ey ew!gj ew!ey hu as!gj hu as!ey ko in as!gj ko in as!v TRAPEZIUM!BENZENE bi a av!STRAIGHTN",
    "ESS!FLATNESS!AC CURRENT!ELECTRICAL kw!DECIMAL EXPONENT z!t ik p bl$jm p bl$mz p bl$nx p bl$ik",
    " p bl a af ak$jm p bl a af ak$ik bl a p af ak!ALARM CLOCK!STOPWATCH!TIMER CLOCK!xe a FLOWING ",
    "SAND!t bq jm bl%ik bl%mz bl%nx bl!p af ak!t au fm cl$av fm RECORD!POWER z$ON-OFF z$ON z$SLEEP",
    " z!OBSERVER EYE z!z fm NULL%START OF HEADING(TEXT%gw OF TEXT(TRANSMISSION%ENQUIRY%ACKNOWLEDGE",
    "%BELL%BACKSPACE%bf TABULATION%cs FEED%af TABULATION%d FEED%CARRIAGE RETURN%SHIFT OUT&IN%DATA ",
    "LINK ESCAPE%DEVICE CONTROL o(l(s(w%mb ACKNOWLEDGE%SYNCHRONOUS IDLE%gw OF TRANSMISSION di%CANC",
    "EL%gw OF bq%SUBSTITUTE%ESCAPE%FILE im%GROUP im%RECORD im%UNIT im%jd%DELETE!BLANK z!bw BOX!z f",
    "m NEWLINE%DELETE d l%SUBSTITUTE d l@2440!OCR x$CHAIR$FORK$cu FORK$BELT BUCKLE$BOW TIE$BRANCH ",
    "BANK IDENTIFICATION$AMOUNT OF nw$fa$CUSTOMER ACCOUNT cz$p sz@2460!ds bh o%l%s%w%aa%ag%an%ah%a",
    "r$cz ca%ny%my%ss%rs%ox%qb%sl%qp%sd%fc!xs bh o%l%s%w%aa%ag%an%ah%ar$cz ca%ny%my%ss%rs%ox%qb%sl",
    "%qp%sd%fc!bh o ea cl$l ea cl$s ea cl$w ea cl$aa ea cl$ag ea cl$an ea cl$ah ea cl$ar ea cl!cz ",
    "ca ea cl$ny ea cl$my ea cl$ss ea cl$rs ea cl$ox ea cl$qb ea cl$sl ea cl$qp ea cl$sd ea cl$fc ",
    "ea cl!xs eb c b A(B(C(D(E(F(G(H(I(J(K(L(M(N(O(P(Q(R(S(T(U(V(W(X(Y(Z!ds eb e b A(B(C(D(E(F(G(H",
    "(I(J(K(L(M(N(O(P(Q(R(S(T(U(V(W(X(Y(Z%c b A(B(C(D(E(F(G(H(I(J(K(L(M(N(O(P(Q(R(S(T(U(V(W(X(Y(Z$",
    "bh bt!mb ds cz ny&my&ss&rs&ox&qb&sl&qp&sd&fc!p ds bh o&l&s&w&aa&ag&an&ah&ar%cz ca!mb ds bh bt",
    "!BOX DRAWINGS bd bf%ad bf%bd af%ad af%bd em fa bf%ad em fa bf%bd em fa af%ad em fa af%bd pc f",
    "a bf%ad pc fa bf%bd pc fa af%ad pc fa af%bd ap g i%ap bd g i ad&ad g i bd%ad ap g i%bd ap g k",
    "%ap bd g k ad&ad g k bd%ad ap g k%bd UP g i%UP bd g i ad&ad g i bd%ad UP g i%bd UP g k%UP bd ",
    "g k ad&ad g k bd%ad UP g k%bd af g i%af bd g i ad%UP ad g i ap bd%ap ad g i UP bd%af ad g i b",
    "d%ap bd g i UP ad%UP bd g i ap ad%ad af g i%bd af g k%af bd g k ad%UP ad g k ap bd%ap ad g k ",
    "UP bd%af ad g k bd%ap bd g k UP ad%UP bd g k ap ad%ad af g k%bd ap g bf%k ad g i ap bd%i ad g",
    " k ap bd%ap bd g bf ad&ad g bf bd%i bd g k ap ad%k bd g i ap ad%ad ap g bf%bd UP g bf%k ad g ",
    "i UP bd%i ad g k UP bd%UP bd g bf ad&ad g bf bd%i bd g k UP ad%k bd g i UP ad%ad UP g bf%bd a",
    "f g bf%k ad g i af bd%i ad g k af bd%af bd g bf ad%UP ad g ap bf bd%ap ad g UP bf bd%af ad g ",
    "bf bd%k UP ad g i ap bd%i UP ad g k ap bd%k ap ad g i UP bd%i ap ad g k UP bd%ap bd g UP bf a",
    "d%UP bd g ap bf ad%i bd g k af ad%k bd g i af ad%ad af g bf%bd p fa bf%ad p fa bf%bd p fa af%",
    "ad p fa af%p bf&af%ap cq g i p&p g i cq%p ap g i%ap cq g k p&p g k cq%p ap g k%UP cq g i p&p ",
    "g i cq%p UP g i%UP cq g k p&p g k cq%p UP g k%af cq g i p&p g i cq%p af g i%af cq g k p&p g k",
    " cq%p af g k%ap cq g bf p&p g bf cq%p ap g bf%UP cq g bf p&p g bf cq%p UP g bf%af cq g bf p&p",
    " g bf cq%p af g bf%bd ARC ap g i*k(UP g k*i&ep bv i TO bk k)k TO bk i(el&k&UP&i&ap%ad k&UP&i&",
    "ap%bd k g ad i&UP g ad ap%ad k g bd i&UP g bd ap!bv ao di!bk o hs di%gi di$s lt di$ao di$aa l",
    "t di$s mf di$an lt di!ea di!k an lt di$s mf di$aa lt di$ao di$s lt di$o gi di%hs di!i ao di!b",
    "d mh!bq mh!DARK mh!bv o hs di!i o hs di!me bk k%i$bv k&g bk k g bk i)i(bv i g bk k,i%i&g bk k",
    "*g bk i!t au!v au%a py ua%tb t c au!au a bf mt%af mt%ORTHOGONAL CROSSHATCH mt%bv k TO bk i mt",
    "&i TO bk k mt%ep CROSSHATCH mt!t c au!v c au!t tn!v tn!t af tn!v af tn!t PARALLELOGRAM!v PARA",
    "LLELOGRAM!t mz bl!v mz bl!t mz c bl!v mz c bl!t ik bl!v ik bl!t ik c bl!v ik c bl!t ik POINTE",
    "R!v ik POINTER!t nx bl!v nx bl!t nx c bl!v nx c bl!t jm bl!v jm bl!t jm c bl!v jm c bl!t jm P",
    "OINTER!v jm POINTER!t fg!v fg%tb t c fg!FISHEYE!ni!v av!fl av!av a af mt!BULLSEYE!t av!av a k",
    " ao t%i ao t%bk ao t%bv ao t&i me t%ALL BUT bv k me t!k ao t av!i ao t av!pr mm$v av!bv ao pr",
    " v av!bk ao pr v av!bv k me vj ARC$i me vj ARC!bk i me vj ARC$k me vj ARC!bv ao av!bk ao av!t",
    " bk i bl%k bl$bv k bl%i bl!v mm!au a k ao t%i ao t%bv k ep ao t%bk i ep ao t!v au a af BISECT",
    "ING cs$mz bl a q!mz bl a k ao t&i ao t!co av!v au a bv k me&bk k me(i me&bv i me$av a bv k me",
    "&bk k me(i me&bv i me!bv k bl$i bl!bk k bl!v bq au!t bq au!v bq c au!t bq c au!bk i bl!t SUN ",
    "a RAYS!CLOUD!wm!SNOWMAN!COMET!t dk!v dk!xm!THUNDERSTORM!SUN!ASCENDING NODE!DESCENDING NODE!CO",
    "NJUNCTION!OPPOSITION!t oq!v oq!ta BOX%a nw&X!pd!wm a RAIN DROPS!HOT BEVERAGE!v SHOGI PIECE!t ",
    "SHOGI PIECE!SHAMROCK!cg db FLORAL he mm!t k cy bc$i cy bc!v k cy bc$UP cy bc$i cy bc$ap cy bc",
    "!SKULL g CROSSBONES!CAUTION f!RADIOACTIVE f!BIOHAZARD f!CADUCEUS!ANKH!ORTHODOX el!CHI RHO!el ",
    "OF LORRAINE%JERUSALEM!dk g ub!FARSI z!ADI SHAKTI!HAMMER g SICKLE!PEACE z!YIN YANG!TRIGRAM fm ",
    "HEAVEN%LAKE%FIRE%THUNDER%WIND%nu%sb%ms!WHEEL OF DHARMA!v FROWNING at$ky at!t ky at!v SUN a RA",
    "YS!FIRST gi hx!LAST gi hx!MERCURY!FEMALE f!ms!MALE f!JUPITER!SATURN!URANUS!NEPTUNE!PLUTO!ARIE",
    "S!TAURUS!GEMINI!CANCER!LEO!VIRGO!LIBRA!SCORPIUS!SAGITTARIUS!CAPRICORN!AQUARIUS!PISCES!v gk ki",
    "%ll%ROOK%nv%hn%PAWN!t gk ki%ll%ROOK%nv%hn%PAWN$SPADE SUIT!v he SUIT$fg SUIT!t CLUB SUIT!v SPA",
    "DE SUIT!t he SUIT$fg SUIT!v CLUB SUIT!HOT SPRINGS!gi jn!hs jn!BEAMED hs NOTES$ux NOTES!MUSIC ",
    "FLAT f$NATURAL f$SHARP f!dv SYRIAC el!da SYRIAC el!UNIVERSAL RECYCLING z!RECYCLING z fm TYPE-",
    "1 tl&TYPE-2 tl&TYPE-3 tl&TYPE-4 tl&TYPE-5 tl&TYPE-6 tl&TYPE-7 tl&GENERIC MATERIALS!t UNIVERSA",
    "L RECYCLING z!RECYCLED PAPER z!PARTIALLY-RECYCLED PAPER z!PERMANENT PAPER f!WHEELCHAIR z!DIE ",
    "FACE-1$FACE-2$FACE-3$FACE-4$FACE-5$FACE-6!v av a q i&l aw!t av a v q i&l v aw!ut fm YANG%YIN!",
    "DIGRAM fm GREATER YANG%LESSER YIN&YANG%GREATER YIN!v FLAG!t FLAG!HAMMER g PICK!ANCHOR!nd SWOR",
    "DS!STAFF OF AESCULAPIUS!SCALES!ALEMBIC!FLOWER!GEAR!STAFF OF HERMES!ATOM z!FLEUR-DE-LIS!tk v d",
    "k!s LINES CONVERGING i&k!WARNING f!ci VOLTAGE f!DOUBLED FEMALE f$MALE f!INTERLOCKED FEMALE g ",
    "MALE f!MALE g FEMALE f$a y f&g MALE g FEMALE f!af MALE a y f!bf MALE a y f!bq v av$t av$c v a",
    "v!MARRIAGE z!DIVORCE z!UNMARRIED PARTNERSHIP z!COFFIN!FUNERAL URN!NEUTER!CERES!PALLAS!JUNO!VE",
    "STA!CHIRON!t hx LILITH!SEXTILE!SEMISEXTILE!QUINCUNX!SESQUIQUADRATE!SOCCER BALL!BASEBALL!fz KE",
    "Y!v DRAUGHTS MAN%ki!t DRAUGHTS MAN%ki!SNOWMAN WITHOUT SNOW!SUN BEHIND CLOUD!RAIN!t SNOWMAN!TH",
    "UNDER CLOUD g RAIN!by v SHOGI PIECE$t SHOGI PIECE!v fg IN au!go LANES!DISABLED CAR!OPHIUCHUS!",
    "PICK!CAR SLIDING!HELMET a v el!ds go LANES!CHAINS!NO ENTRY!ir ONE-WAY k WAY TRAFFIC!t TWO-WAY",
    " k WAY TRAFFIC!v TWO-WAY k WAY TRAFFIC!t k LANE MERGE!v k LANE MERGE!DRIVE SLOW f!ad v nx bl!",
    "k fw ENTRY!fz pd!td ep IN v av IN t au!t TRUCK!RESTRICTED k ENTRY-1%ENTRY-2!ASTRONOMICAL z fm",
    " URANUS!ad av a y g l aw j!xt!RIGHT-HANDED INTERLACED xt!LEFT-HANDED INTERLACED xt!cu xt!t el",
    " ON SHIELD!SHINTO SHRINE!CHURCH!CASTLE!HISTORIC SITE!GEAR WITHOUT HUB$a HANDLES!MAP z fm LIGH",
    "THOUSE!sb!wm ON GROUND!FOUNTAIN!FLAG IN HOLE!FERRY!SAILBOAT!au w ua!SKIER!ICE SKATE!lk a BALL",
    "!TENT!tg BANK z!HEADSTONE GRAVEYARD z!FUEL PUMP!CUP ON t au!v FLAG a bf ae t STRIPE!t SAFETY ",
    "uv!bv BLADE uv!t uv!bk BLADE uv!v uv$ad nw r!oq LOCATION f!TAPE DRIVE!sy!qq!hy FIST$gq!VICTOR",
    "Y gq!WRITING gq!bk i PENCIL!PENCIL!bv i PENCIL!v NIB!t NIB!nw r!ad nw r!pa X!ad pa X!ta X!ad ",
    "ta X!tk id el!ad id el!bw dm el!ad bw dm el!eb el!np v eb el!tk eb el!MALTESE el!dk OF DAVID!",
    "w tt ek$yq ek!ad w yq ek!w CLUB-SPOKED ek!t w fy dk!v w fy dk!SPARKLES!STRESS tk v dk!ds v dk",
    "!bw dm t dk!t dm v dk!tk t dk!ad tk t dk!qx dk!np v dk!ad ek!bw dm ek!ah kn ek$fy t dk%qx dk!",
    "ag fy t dk!ah fy RECTILINEAR t dk!ad ah fy RECTILINEAR t dk!my fy t dk!qb fy ek!tt ek!bw dm t",
    "t ek!ad tt ek!ag PETALLED t g v FLORETTE!t FLORETTE!v FLORETTE!ah PETALLED tk t FLORETTE!ds b",
    "w dm ah fy dk!ad tt qx ek!SNOWFLAKE!TIGHT TRIFOLIATE SNOWFLAKE!ad CHEVRON SNOWFLAKE!SPARKLE!a",
    "d SPARKLE!yq ek!ah tt PROPELLER ek!ad ah tt PROPELLER ek!el r!np v av!mb fz el r!bk i DROP-SH",
    "ADOWED v au!bv i DROP-SHADOWED v au!bk i np v au!bv i np v au!t hi r dz!v hi r dz$hw r dz!t f",
    "g kk v X!ad hw r z!bd af ak!bq af ak!ad af ak$cq by de gz r dz%de gz r dz$p by de gz r dz%de ",
    "gz r dz$bn cq de gz r dz%p de gz r dz!ov STEM we f dz!ad hw r dz$he hw r dz$t he!db ad t he m",
    "m!FLORAL he!db FLORAL he mm!bq k ew dz$i ew dz$xb k ew dz%i ew dz$jm dw as dz$ik dw as dz!ad ",
    "jm dw gz r dz$ik dw gz r dz$jm dw as dz$ik dw as dz!bd k ko in as dz$i ko in as dz!bq k hu as",
    " dz$i hu as dz!DINGBAT mb ds bh o(l(s(w(aa(ag(an(ah(ar&cz ca$ds iw bh o(l(s(w(aa(ag(an(ah(ar&",
    "cz ca$mb ds iw bh o)l)s)w)aa)ag)an)ah)ar(cz ca!ad WIDE-HEADED ac h$al f$kk f$rl f$ev da h$ac ",
    "h$eh da h!DRAFTING nl ac h!ad ROUND-TIPPED ac h!cn ac h!ad cn ac h!ne cn ac h!ad ne cn ac h!t",
    " ac h!THREE-D TOP-LIGHTED ac cm$BOTTOM-LIGHTED ac cm!t ac cm!ad t ov bj g ac h&bp g ac h!SQUA",
    "T t ac h!ad CONCAVE-POINTED t ac h!zj v ac h!LEFT-SHADED v ac h!BACK-TILTED np v ac h!yu np v",
    " ac h!ad bk yc v ac h$bv yc v ac h!qv bk yc v ac h!hu kj!qv bv yc v ac h!ds ad v ac h!WHITE-F",
    "EATHERED ac h!BLACK-FEATHERED ev da h$ac h$eh da h!ad BLACK-FEATHERED ev da h%ac h%eh da h!TE",
    "ARDROP-BARBED ac h!ad TEARDROP-SHANKED ac h!WEDGE-TAILED ac h!ad WEDGE-TAILED ac h!OPEN-OUTLI",
    "NED ac h!p hu kj!s DIMENSIONAL dw!v bl tb c v bl!zb!bw ib$iq!k S-SHAPED BAG wv!i S-SHAPED BAG",
    " wv!OR a q ju!jk io PRECEDING ib!iq PRECEDING io!af ak a bf y!ur no ep!bz rl!ur td ep!fz nh g",
    "%OR!v fg a rf q!g a q!pp OF OPENING bp!bk i gl a q!bv k gl a q!k OUTER JOIN!i OUTER JOIN!ea O",
    "UTER JOIN!co UP gd$ap gd!k g i p sv&gd$MULTIMAP!bz i gd$k gd!UP gd a av j!ni DIVIDED BY bf RU",
    "LE!v CONCAVE-SIDED fg&a am TICK(ac TICK$au a am TICK&ac TICK!ur k v au as$i v au as$k dw as$i",
    " dw as$k p dw as$i p dw as$k v ko in as$i v ko in as$k xb ew$i xb ew!bp pc h!bj pc h!ka GAPPE",
    "D av h!nc GAPPED av h!i h a ds al!bz am h$ac h$k i h$am p h$ac p h$k i p h$am h gp ak$ac h gp",
    " ak$am p h gp ak$ac p h gp ak%SQUIGGLE h!BRAILLE PATTERN BLANK%DOTS-1%DOTS-2%DOTS-12%DOTS-3%D",
    "OTS-13%DOTS-23%DOTS-123%DOTS-4%DOTS-14%DOTS-24%DOTS-124%DOTS-34%DOTS-134%DOTS-234%DOTS-1234%D",
    "OTS-5%DOTS-15%DOTS-25%DOTS-125%DOTS-35%DOTS-135%DOTS-235%DOTS-1235%DOTS-45%DOTS-145%DOTS-245%",
    "DOTS-1245%DOTS-345%DOTS-1345%DOTS-2345%DOTS-12345%DOTS-6%DOTS-16%DOTS-26%DOTS-126%DOTS-36%DOT",
    "S-136%DOTS-236%DOTS-1236%DOTS-46%DOTS-146%DOTS-246%DOTS-1246%DOTS-346%DOTS-1346%DOTS-2346%DOT",
    "S-12346%DOTS-56%DOTS-156%DOTS-256%DOTS-1256%DOTS-356%DOTS-1356%DOTS-2356%DOTS-12356%DOTS-456%",
    "DOTS-1456%DOTS-2456%DOTS-12456%DOTS-3456%DOTS-13456%DOTS-23456%DOTS-123456%DOTS-7%DOTS-17%DOT",
    "S-27%DOTS-127%DOTS-37%DOTS-137%DOTS-237%DOTS-1237%DOTS-47%DOTS-147%DOTS-247%DOTS-1247%DOTS-34",
    "7%DOTS-1347%DOTS-2347%DOTS-12347%DOTS-57%DOTS-157%DOTS-257%DOTS-1257%DOTS-357%DOTS-1357%DOTS-",
    "2357%DOTS-12357%DOTS-457%DOTS-1457%DOTS-2457%DOTS-12457%DOTS-3457%DOTS-13457%DOTS-23457%DOTS-",
    "123457%DOTS-67%DOTS-167%DOTS-267%DOTS-1267%DOTS-367%DOTS-1367%DOTS-2367%DOTS-12367%DOTS-467%D",
    "OTS-1467%DOTS-2467%DOTS-12467%DOTS-3467%DOTS-13467%DOTS-23467%DOTS-123467%DOTS-567%DOTS-1567%",
    "DOTS-2567%DOTS-12567%DOTS-3567%DOTS-13567%DOTS-23567%DOTS-123567%DOTS-4567%DOTS-14567%DOTS-24",
    "567%DOTS-124567%DOTS-34567%DOTS-134567%DOTS-234567%DOTS-1234567%DOTS-8%DOTS-18%DOTS-28%DOTS-1",
    "28%DOTS-38%DOTS-138%DOTS-238%DOTS-1238%DOTS-48%DOTS-148%DOTS-248%DOTS-1248%DOTS-348%DOTS-1348",
    "%DOTS-2348%DOTS-12348%DOTS-58%DOTS-158%DOTS-258%DOTS-1258%DOTS-358%DOTS-1358%DOTS-2358%DOTS-1",
    "2358%DOTS-458%DOTS-1458%DOTS-2458%DOTS-12458%DOTS-3458%DOTS-13458%DOTS-23458%DOTS-123458%DOTS",
    "-68%DOTS-168%DOTS-268%DOTS-1268%DOTS-368%DOTS-1368%DOTS-2368%DOTS-12368%DOTS-468%DOTS-1468%DO",
    "TS-2468%DOTS-12468%DOTS-3468%DOTS-13468%DOTS-23468%DOTS-123468%DOTS-568%DOTS-1568%DOTS-2568%D",
    "OTS-12568%DOTS-3568%DOTS-13568%DOTS-23568%DOTS-123568%DOTS-4568%DOTS-14568%DOTS-24568%DOTS-12",
    "4568%DOTS-34568%DOTS-134568%DOTS-234568%DOTS-1234568%DOTS-78%DOTS-178%DOTS-278%DOTS-1278%DOTS",
    "-378%DOTS-1378%DOTS-2378%DOTS-12378%DOTS-478%DOTS-1478%DOTS-2478%DOTS-12478%DOTS-3478%DOTS-13",
    "478%DOTS-23478%DOTS-123478%DOTS-578%DOTS-1578%DOTS-2578%DOTS-12578%DOTS-3578%DOTS-13578%DOTS-",
    "23578%DOTS-123578%DOTS-4578%DOTS-14578%DOTS-24578%DOTS-124578%DOTS-34578%DOTS-134578%DOTS-234",
    "578%DOTS-1234578%DOTS-678%DOTS-1678%DOTS-2678%DOTS-12678%DOTS-3678%DOTS-13678%DOTS-23678%DOTS",
    "-123678%DOTS-4678%DOTS-14678%DOTS-24678%DOTS-124678%DOTS-34678%DOTS-134678%DOTS-234678%DOTS-1",
    "234678%DOTS-5678%DOTS-15678%DOTS-25678%DOTS-125678%DOTS-35678%DOTS-135678%DOTS-235678%DOTS-12",
    "35678%DOTS-45678%DOTS-145678%DOTS-245678%DOTS-1245678%DOTS-345678%DOTS-1345678%DOTS-2345678%D",
    "OTS-12345678!ac pg h a af y(p af y!am p h a af y!ac p h a af y!k i p h a af y!ac pg h gp ak!a",
    "m p h gp ak!ac p h gp ak!bj h a bf y!bp h a bf y$em h!bj em h!am p fa h!ac p fa h!am em fa h!",
    "ac em fa h$pg em fa h$h a fl STEM!bp h TO ak!bj h TO ak!ac h a dr a af y)p af y$pg h a dr)a a",
    "f y*p af y!am wp!ac wp!am p wp!ac p wp!am h TO t fg!ac h TO t fg!am h gp ak TO t fg!ac h gp a",
    "k TO t fg!eh dv g ev da h$da g ev dv h$dv h a x$da h a x!ev da h a x$dv h a x!eh dv h g eh da",
    " h$da h g ev da h!ev da h g ev dv h$dv h g eh dv h!no ep go td ep!td ep go no ep!ev da h go e",
    "h da h!eh da h go ev da h!td ep go eh da h!no ep go ev da h!eh da h go eh dv h$dv h go eh da ",
    "h!jh h cy DIRECTLY i!h cy ac THEN CURVING bp)bj%bj THEN CURVING am)ac!RIGHT-SIDE ARC nc h!LEF",
    "T-SIDE ARC ka h!ey ARC ka h!gj ARC ka h!ey ARC nc h a kk%ka h a al!bk i zk nc h$k zk ka h!ka ",
    "fw av h!nc fw av h!ac h j ec am h!am h j ec ac h!ec ac h j am h!ac h a al m!am h a al m!ac h ",
    "mx X!k i h mx c av!bp pg h gp c av!k bm UP i bm ap do%ap i bm UP do!UP bm i ap bm k do%k ap b",
    "m i do!k bm UP i bm UP do!UP bm i ap bm i do!k bm ap i bm ap do!UP bm k ap bm k do!am do a bm",
    " UP TO ak!ac do a bm UP TO ak!bp do a bm i TO ak!bj do a bm i TO ak!am do a bm ap TO ak!ac do",
    " a bm ap TO ak!bp do a bm k TO ak!bj do a bm k TO ak!am do a bm UP gp ak!ac do a bm UP gp ak!",
    "bp do a bm i gp ak!bj do a bm i gp ak!am do a bm ap gp ak!ac do a bm ap gp ak!bp do a bm k gp",
    " ak!bj do a bm k gp ak!am do a bm UP j am do a bm ap!bp do a bm k pk bp do a bm i!ac do a bm ",
    "UP j ac do a bm ap!bj do a bm k pk bj do a bm i!am do a bm UP j ac do a bm UP(ap j ac do a bm",
    " ap!ac do a bm UP j am do a bm UP(ap j am do a bm ap!am do a bm UP j bz fa(ap m bz fa!ac do a",
    " bm UP j bz fa(ap m bz fa!bp do a bm k pk bj do a bm i!bj do a bm k pk bp do a bm i!i p h a p",
    "y jt!fx f j ac h!bg es j ac h!am h j bg es!ac h j bg es&lb bb TO!dg j am h!am h mx dg!dj j ac",
    " h!ib j ac h!am h mx ib!iq j am h!k FISH dr!i FISH dr!UP FISH dr!ap FISH dr!em af ak wv!Z se ",
    "SPOT%TYPE gn!k v hu as!i v hu as!k v ew!i v ew!Z se k IMAGE as%i IMAGE as%k BINDING as%i BIND",
    "ING as!k au as a ih!i au as a ih!k au as a TICK IN ey gl!i au as a TICK IN gj gl!k au as a TI",
    "CK IN gj gl!i au as a TICK IN ey gl!k dw as a q!i dw as a q!k ARC dg as!i ARC dj as!p k ARC d",
    "j as$i ARC dg as!k t ko in as!i t ko in as!fl FENCE!af sx cs!wa dw OPENING k!i dw jg a au!wa ",
    "i dw a q!dw a S ju!bo dw!SPHERICAL dw OPENING k&UP!by dw!cg dw!dw a ih!cg dw a ih!mc dw OPENI",
    "NG UP&ap!wa dw a bw ARM ENDING IN h cy UP g i:k.ap g i:k.i g UP.k g UP.i g ap.k g ap!cg EMPTY",
    " SET!EMPTY SET a nk&c av j&i h j&k h j!av a bf ak!ds af ak$si$jk io$zb!av DIVIDED BY bf ak g ",
    "ey ao DIVIDED BY af ak$a SUPERIMPOSED X!ds ANTICLOCKWISE-ROTATED rl f!UP h mx av!ds v mm$mm$d",
    "g$dj!av a c av TO fp i%l bf STROKES TO fp i!fz no ep lo$td ep lo$ek$c av$au!l JOINED SQUARES!",
    "bl a q j%ih!S IN bl!bl a SERIFS AT gj!i bl j k bl!k bl pk af ak!af ak pk i bl!BOWTIE a k ao t",
    "%i ao t!t BOWTIE!ai a k ao t%i ao t!v xe!t xe!k WIGGLY FENCE!i WIGGLY FENCE!k p WIGGLY FENCE!",
    "i p WIGGLY FENCE!INCOMPLETE um!TIE ay um!um NEGATED a af ak!DOUBLE-ENDED MULTIMAP!au a CONTOU",
    "RED OUTLINE!INCREASES AS!SHUFFLE nn!fx f g jc si)a bg j!xg TO g jc si!GLEICH STARK!THERMODYNA",
    "MIC!nx bl a k ao t&i ao t!t fg a ap h$ni!v av a ap h!t av a ap h!ERROR-BARRED v au$t au$v fg$",
    "t fg$v av$t av!RULE-DELAYED!jk io es!io a nk!jk io a bf y!BIG io$jk io!p al!em al!jm ov dw as",
    "!ik ov dw as!TINY!MINY!N-ARY ds q es%al es%ai es$la es a q(al$au kw es%la es!l nh g es%OR es!",
    "N-ARY ai es!MODULO l SUM!SUMMATION a jv!pc jv es!FINITE PART jv!jv a p y$AVERAGE a lo!CIRCULA",
    "TION FUNCTION!ka INTEGRATION!cs INTEGRATION a RECTANGULAR PATH AROUND POLE&zk PATH AROUND POL",
    "E%dh INCLUDING fp POLE!jv AROUND A nl es!QUATERNION jv es!jv a am h a x%ai f%kw%la%nk%ih!JOIN",
    "!co k bl es!Z se SCHEMA COMPOSITION&PIPING&PROJECTION!al f a c av j&cb fi j&bg j&q m&bg m&tr ",
    "l&t bl!kk f a de j&q m&td aw&no aw!al f IN k ao av&i ao av!VECTOR OR el nn!pa f a q j&ih!wj n",
    "n a gj fw!SMASH nn!pa f IN k ao av&i ao av!ds pa f a cb fi!pa f IN p av!ds rl f!al f IN bl!kk",
    " f IN bl!pa f IN bl!INTERIOR nn!RIGHTHAND INTERIOR nn!Z se RELATIONAL COMPOSITION!AMALGAMATIO",
    "N OR COPRODUCT!kw a q!la a kk f%nk!kw a nk%nh g!la a nh OR$j kw!kw j la!la j ak j kw!kw j ak ",
    "j la!la pk g JOINED a la!kw pk g JOINED a kw!fw la a SERIFS$kw a SERIFS!p au kw%la!fw la a SE",
    "RIFS g SMASH nn!nh g a q j$OR a q j!p nh g%OR!l INTERSECTING nh g&OR!SLOPING co OR%g!nh OR OV",
    "ERLAPPING nh g$g a ae STEM$OR a ae STEM$g a bf fa$OR a bf fa$g a p nk&ih&p ih!c VEE a ih!nh O",
    "R a p nk(ih!Z se DOMAIN ANTIRESTRICTION%RANGE ANTIRESTRICTION!fx f a q m!xg a q j!em bf ak a ",
    "p af y(em af y!bg es a q j&no aw!tq kk tq!CONGRUENT a q j!fx a ek!lb bb TO a cb fi!vf bb OR b",
    "b TO!fx f j al f!al f j fx f!fx f j bg es!p gn bb!l CONSECUTIVE fx SIGNS!s CONSECUTIVE fx SIG",
    "NS!fx f a l aw j g l aw m!lv a w aw j!dg a av ju!dj a av ju!dg a hi r j!dj a hi r j!dg OR jc ",
    "bb TO!dj OR jc bb TO!dg OR jc bb TO a q ju!dj OR jc bb TO a q ju!dg OR jc bb TO a q j!dj OR j",
    "c bb TO a q j!dg OR jc bb TO a q j i!dj OR jc bb TO a q j k!dg OR wo!dj OR wo!dg g uw dh bb T",
    "O!dj g uw dh bb TO!dg g dh wo!dj g dh wo!dg j uf bb j dj!dj j uf bb j dg!dg j tq OR bb!dj j t",
    "q OR bb!dg j tq j dj!dj j tq j dg!dg j dj j uf bb!dj j dg j uf bb!dg j jc bb j dj j jc bb!dj ",
    "j jc bb j dg j jc bb!jc bb TO OR dg(dj(dg a q ju(dj a q ju!uf bb TO OR dg(dj$jc bb TO OR dg)d",
    "j!tq OR dg%dj$j dg j fx f%dj j fx f!p NESTED dg%dj%dg a ih!dj OVERLAPPING dg$pk dg!dg fw BY k",
    "c!dj fw BY kc!dg fw BY kc j jc bb!dj fw BY kc j jc bb!SMALLER THAN!LARGER THAN!SMALLER THAN O",
    "R bb TO!LARGER THAN OR bb TO!fx f a BUMPY j!nm j uw fx f!nr j uw fx f!nm j uw dh bb TO!nr j u",
    "w dh bb TO!nm j fx f!nr j fx f!nm j dh bb TO!nr j dh bb TO!nm j lb bb TO!nr j lb bb TO!nm j d",
    "h lb bb TO!nr j dh lb bb TO!p nm$nr!ib a q!iq a q!ib a al f m!iq a al f m!ib a pa f m!iq a pa",
    " f m!ib OF OR bb TO a q j!iq OF OR bb TO a q j!ib OF j fx f!iq OF j fx f!ib OF j bg es!iq OF ",
    "j bg es!ib OF j lb bb TO!iq OF j lb bb TO!ib OF j dh bb TO!iq OF j dh bb TO!au k bw BOX es$i ",
    "bw BOX es!fw ib$iq$ib OR bb TO$iq OR bb TO!ib j iq!iq j ib!ib j ib!iq j iq$pk ib%g JOINED BY ",
    "fa a ib!pp OF OPENING bj!PITCHFORK a TEE ey!TRANSVERSAL kw!FORKING!NONFORKING!ec k gd$ap gd$U",
    "P gd!zb a S!af ak em i sv!p af ak k sv!af ak p k sv!p af ak p k sv!bz fa gp k MEMBER OF p af!",
    "ec ap gd a nk$UP gd a ih&j ec ap gd!p ap gd$UP gd$y dh f!cg p y dh f!DOES dh DIVIDE a cg NEGA",
    "TION lo!af cs a av j(m!ap gd a av m!si a bf y%bg es!em af ak BINARY RELATION&a bf y$gn es$NES",
    "TED dg%dj!uf jc dg OR bb TO%dj OR bb TO!em io BINARY RELATION!co em af ak es!p io es!v af ak!",
    "N-ARY v af ak!eh da v h$dv v h!ev da v h$dv v h!k i v h!am t h!bp t h!bj t h!eh da t h$dv t h",
    "!ev da t h$dv t h!k i t h!UP ap t h!ac h a TIP bj(bp!am h a TIP bj(bp!au a ey ao t%gj ao t%bv",
    " i ep ao t%bk k ep ao t!fg a k ao t%i ao t%ey ao t%gj ao t!fl au!t co au!v co au!t hq c au!v ",
    "hq c au!t wf!v wf$HEXAGON!t HEXAGON!bf t HEXAGON!t co av$bq fg!v bq fg!t bq ni!v bq ni!t c fg",
    "%ni!v c ni!t bf ELLIPSE!v bf ELLIPSE!t af ELLIPSE!v af ELLIPSE!k h a c av!s am lc!k h a ds al",
    "!bz am SQUIGGLE h!am pg h a af y(p af y&gp ak%em fa h$h a fl STEM&dr a af y)p af y$pg h a dr)",
    "a af y*p af y$h mx X!jh h cy DIRECTLY k!fx f j am h!jk bg es j am h!am h j jk lb bb TO!ac h m",
    "x dj&iq!am pc h!ac pc h!jk bg es j ac h!ac h j jk lb bb TO!bg es j am h!am h j lb bb TO&jk bg",
    " es!ac h j jk bg es!bj cn sx h!ec jc eh h$BACKSLANTED ev h!v bq dk!t c dk!v c dk!t ik wf!v ik",
    " wf!ad co av$OVAL a OVAL ju$av a av ju%$ds pd!jc eh h a HOOKED jt!BACKSLANTED ev h a HOOKED d",
    "r!jc eh h a bf dr!BACKSLANTED ev h a bf dr!gu h cy bj THEN eh da!ec gu h cy bj THEN eh da!am ",
    "cn h!bp cn h!ac cn h!bj cn h!k i cn h!UP ap cn h!eh dv cn h$da cn h!ev da cn h$dv cn h!am cn ",
    "ne h!bp cn ne h!ac cn ne h!bj cn ne h!nc cn bw av h!ka cn bw av h!am cn h TO ak!bp cn h TO ak",
    "!ac cn h TO ak!bj cn h TO ak@2B76!eh dv cn h TO ak$da cn h TO ak!ev da cn h TO ak$dv cn h TO ",
    "ak!am cn h a p bf y!bp cn h a p bf y!ac cn h a p bf y!bj cn h a p bf y!bf TAB KEY!af TAB KEY!",
    "am cn h ay ac cn h!bp cn h am OF bj cn h!ac cn h ay am cn h!bj cn h am OF bp cn h!am cn sh lc",
    "!bp cn sh lc!ac cn sh lc!bj cn sh lc!am t ds v h!bp t ds v h!ac t ds v h!bj t ds v h!ka cn i ",
    "wl h%gj wl h%k wl h%ey wl h!RETURN k$i!NEWLINE k$i!w gl lc CIRCLING ka!ac t h@2B97!z fm TYPE ",
    "A ELECTRONICS!THREE-D TOP-LIGHTED am ii cm$RIGHT-LIGHTED bp ii cm$TOP-LIGHTED ac ii cm$LEFT-L",
    "IGHTED bj ii cm!t am ii cm$bp ii cm$ac ii cm$bj ii cm!bj cn h a bz TIP am*ac!bp cn h a bz TIP",
    " am*ac!am cn h a bz TIP bp!ac cn h a bz TIP bp!am cn h a bz TIP bj!ac cn h a bz TIP bj!t ov b",
    "j g am h(ac h%bp g am h(ac h%am g bp h%ac g bp h%am g bj h%ac g bj h!RIBBON h ap k&i%UP k&i%k",
    " UP%i UP%k ap%i ap!bp v h gp ak a bf ak!UP cm IN A tn BOX!OVERLAPPING v SQUARES%g t SQUARES$t",
    " SQUARES!ta BOX a bd X!ds X$hc X!t au rf$fg rf!by t wf!bf t OCTAGON!t OCTAGON$bq mz bl rf%nx ",
    "bl rf%jm bl rf%ik bl rf!NEPTUNE d l!ey ao t av!gj ao t av!bd w fy t CUSP!db bd w fy t CUSP!v ",
    "w fy CUSP!db v w fy CUSP!au POSITION ru!UNCERTAINTY f!GROUP r!PLUTO d l%s%w%aa!TRANSPLUTO!PRO",
    "SERPINA!ASTRAEA!HYGIEA!PHOLUS!NESSUS!v hx SELENA!t fg ON el!TRUE bd hx ARTA!CUPIDO!HADES!ZEUS",
    "!KRONOS!APOLLON!ADMETOS!VULCANUS!POSEIDON!k ao t dk!i ao t dk!dk a k ao t%i ao t!am pg h a bl",
    " wq!bp pg h a bl wq!ac pg h a bl wq!bj pg h a bl wq!ERIS d o%l!SEDNA!RUSSIAN ASTROLOGICAL z V",
    "IGINTILE&NOVILE&QUINTILE&BINOVILE&SENTAGON&TREDECILE!fx f a um m!UNITED z!SEPARATED z!DOUBLED",
    " z!PASSED z!cg i dw!HELLSCHREIBER PAUSE z!GLAGOLITIC e b AZU&BUKY&VEDE&GLAGOLI&DOBRO&YESTU&ZH",
    "IVETE&DZELO&ZEMLJA&IZHE&ab IZHE&I&DJERVI&KAKO&LJUDIJE&MYSLITE&NASHI&ONU&POKOJI&RITSI&SLOVO&TV",
    "RIDO&UKU&FRITU&HERU&OTU&PE&SHTA&TSI&CHRIVI&ck&YERU&YERI&YATI&SPIDERY HA&YU&c hj)a dr&YO&un c ",
    "hj&BIG hj&un BIG hj&FITA&uo&SHTAPIC&TROKUTASTI A&LATINATE MYSLITE&CAUDATE CHRIVI$c b AZU&BUKY",
    "&VEDE&GLAGOLI&DOBRO&YESTU&ZHIVETE&DZELO&ZEMLJA&IZHE&ab IZHE&I&DJERVI&KAKO&LJUDIJE&MYSLITE&NAS",
    "HI&ONU&POKOJI&RITSI&SLOVO&TVRIDO&UKU&FRITU&HERU&OTU&PE&SHTA&TSI&CHRIVI&ck&YERU&YERI&YATI&SPID",
    "ERY HA&YU&c hj)a dr&YO&un c hj&BIG hj&un BIG hj&FITA&uo&SHTAPIC&TROKUTASTI A&LATINATE MYSLITE",
    "&CAUDATE CHRIVI!eb e b L a p ak$c b L a p ak$e b L a ae bg&P a y&R a dr$c b A a y&T a ep y$e ",
    "b H a ff$c b H a ff$e b K a ff$c b K a ff$e b Z a ff$c b Z a ff$e b gf&M a x&by A(gf$c b V a ",
    "i x$e b W a x$c b W a x&V a ix$e b ao H$c b ao H&TAILLESS PHI&E a NOTCH&by R a dr&O a bn bi j",
    "u$b c e by E$tr c b J!gy b e V!eb e b S a SWASH dr&Z a SWASH dr!ic e b ALFA$c b ALFA$e b VIDA",
    "$c b VIDA$e b iy$c b iy$e b DALDA$c b DALDA$e b EIE$c b EIE$e b SOU$c b SOU$e b ZATA$c b ZATA",
    "$e b HATE$c b HATE$e b THETHE$c b THETHE$e b IAUDA$c b IAUDA$e b KAPA$c b KAPA$e b LAULA$c b ",
    "LAULA$e b MI$c b MI$e b NI$c b NI$e b KSI$c b KSI$e b O$c b O$e b PI$c b PI$e b RO$c b RO$e b",
    " SIMA$c b SIMA$e b TAU$c b TAU$e b UA$c b UA$e b FI$c b FI$e b KHI$c b KHI$e b PSI$c b PSI$e ",
    "b OOU$c b OOU$e b rk ba$c b rk ba$e b du ic ge$c b du ic ge$e b qo EIE$c b qo EIE$e b rk KAPA",
    "$c b rk KAPA$e b rk NI$c b rk NI$e b qo NI$c b qo NI$e b du ic OOU$c b du ic OOU$e b SAMPI$c ",
    "b SAMPI$e b nd SHEI$c b nd SHEI$e b du ic SHEI$c b du ic SHEI$e b du ic ESH$c b du ic ESH$e b",
    " AKHMIMIC KHEI$c b AKHMIMIC KHEI$e b rk HORI$c b rk HORI$e b du ic HORI$c b du ic HORI$e b du",
    " ic HA$c b du ic HA$e b L-SHAPED HA$c b L-SHAPED HA$e b du ic HEI$c b du ic HEI$e b du ic HAT",
    "$c b du ic HAT$e b du ic GANGIA$c b du ic GANGIA$e b du ic DJA$c b du ic DJA$e b du ic SHIMA$",
    "c b du ic SHIMA$e b du qw SHIMA$c b du qw SHIMA$e b du qw NGI$c b du qw NGI$e b du qw NYI$c b",
    " du qw NYI$e b du qw WAU$c b du qw WAU$z KAI%MI RO%PI RO%STAUROS%TAU RO%KHI RO%SHIMA SIMA$e b",
    " qo SHEI$c b qo SHEI$e b qo GANGIA$c b qo GANGIA$fj NI j%SPIRITUS ASPER&LENIS$e b BOHAIRIC KH",
    "EI$c b BOHAIRIC KHEI@2CF9$du qw ea cl&DIRECT hi r&INDIRECT hi r&VERSE ue$js o ao$ea cl$MORPHO",
    "LOGICAL ue!vp c b AN&BAN&GAN&DON&EN&VIN&ZEN&TAN&IN&KAN&LAS&MAN&NAR&ON&PAR&ZHAR&RAE&SAN&TAR&UN",
    "&PHAR&KHAR&GHAN&QAR&ha&CHIN&CAN&JIL&CIL&CHAR&XAN&JHAN&HAE&HE&HIE&WE&HAR&HOE@2D27&YN@2D2D&AEN@",
    "2D30!TIFINAGH b YA%YAB%YABH%YAG%YAGHH%BERBER ACADEMY YAJ%YAJ%YAD%YADH%YADD%YADDH%YEY%YAF%YAK%",
    "TUAREG YAK%YAKHH%YAH%BERBER ACADEMY YAH%TUAREG YAH%YAHH%YAA%YAKH%TUAREG YAKH%YAQ%TUAREG YAQ%Y",
    "I%YAZH%AHAGGAR YAZH%TUAREG YAZH%YAL%YAM%YAN%TUAREG YAGN&YANG%YAP%YU%YAR%YARR%YAGH%TUAREG YAGH",
    "%AYER YAGH%YAS%YASS%YASH%YAT%YATH%YACH%YATT%YAV%YAW%YAY%YAZ%TAWELLEMET YAZ%YAZZ%YE%YO@2D6F$gy",
    " b LABIALIZATION r$im r@2D7F$is th!ETHIOPIC lp LOA%MOA%ROA%SOA%SHOA%BOA%TOA%COA%NOA%NYOA%hl O",
    "A%ZOA%DOA%DDOA%JOA%THOA%CHOA%PHOA%POA%GGWA%GGWI%GGWEE%GGWE@2DA0%fh%SSU%SSI%SSAA%SSEE%SSE%SSO@",
    "2DA8%CCA%CCU%CCI%CCAA%CCEE%CCE%CCO@2DB0%ZZA%ZZU%ZZI%ZZAA%ZZEE%ZZE%ZZO@2DB8%CCHA%CCHU%CCHI%CCH",
    "AA%CCHEE%CCHE%CCHO@2DC0%QYA%QYU%QYI%QYAA%QYEE%QYE%QYO@2DC8%KYA%KYU%KYI%KYAA%KYEE%KYE%KYO@2DD0",
    "%XYA%XYU%XYI%XYAA%XYEE%XYE%XYO@2DD8%GYA%GYU%GYI%GYAA%GYEE%GYE%GYO@2DE0!fj mo b BE&VE&GHE&DE&Z",
    "HE&ZE&KA&EL&EM&EN&O&PE&ER&ES&TE&HA&TSE&CHE&ck&SHCHA&FITA&ES-TE&A&IE&DJERV&MONOGRAPH UK&YAT&YU",
    "&lh A&dp hj&BIG hj&lh BIG hj!i dw uz sa%fl uz sa!k uz as!i uz as!k fl uz as!i fl uz as!hy INT",
    "ERPOLATION sa$fl INTERPOLATION sa!fl zn sa!k zn as!i zn as!hy au!k hy OMISSION as!i hy OMISSI",
    "ON as!EDITORIAL CORONIS!PARAGRAPHOS!FORKED PARAGRAPHOS!cg FORKED PARAGRAPHOS!HYPODIASTOLE!fl ",
    "OBELOS!bj ANCORA!bp ANCORA!fl ik dw!p mc ob!cu vt!PALM BRANCH!ob a ch!bg a bi j!k bn PARAPHRA",
    "SE as!i bn PARAPHRASE as!bg a q j&m!k af ak a QUILL!i af ak a QUILL!ey k ao as$i ao as!gj k a",
    "o as$i ao as!k qz U as!i qz U as!k p ew!i p ew!l aw ay o q eu!o q ay l aw eu!fz w q eu!aa q r",
    "!cg hi r!af bg!bi nl!mj im ae q!by de!hy q$de!by oo!DAGGER a k GUARD%i GUARD!by DAGGER!ey ao ",
    "il f!TWO-EM fa!THREE-EM fa!STENOGRAPHIC ea cl!af ag aw!WIGGLY af cs!CAPITULUM!p ob!cg de!p LO",
    "W-REVERSED-9 gz r!fa a k UPTURN!p SUSPENSION r!cu bn KAVYKA&a KAVYKA j!bn KAVYKA%a q!p STACKE",
    "D de!fl io!em DAGGER!MEDIEVAL de!PARAGRAPHUS r!PUNCTUS ELEVATUS r!CORNISH VERSE ue!el PATTY a",
    " i CROSSBAR&k CROSSBAR!TIRONIAN f e ET!MEDIEVAL hw r$hi r!k au as a y!i au as a y!k au as a p",
    " y!i au as a p y!ey ao k ew%i ew!gj ao k ew%i ew!mc ob@2E80!CJK RADICAL REPEAT%CLIFF%to o&l&s",
    "%lk%BOX%TABLE%KNIFE o&l%DIVINATION%SEAL%c o&l%LAME o&l&s&w%SNAKE%THREAD%SNOUT o&l%he o&l%gq%R",
    "AP@2E9B%CHOKE%SUN%hx%DEATH%MOTHER%CIVILIAN%nu o&l%FIRE%PAW o&l%yi ao TREE TRUNK%COW%DOG%JADE%",
    "BOLT OF CLOTH%EYE%SPIRIT o&l%BAMBOO%SILK%lr SILK%NET o&l&s&w%MESH%SHEEP%RAM%EWE%du%BRUSH o&l%",
    "MEAT%MORTAR%GRASS o&l&s%TIGER%CLOTHES%dv o&l%lr SEE%yi ga%ga%lr SPEECH&in%FOOT%lr CART%yi WAL",
    "K%WALK o&l%CITY%lr GOLD%bz o&l%lr bz&GATE%MOUND o&l%RAIN%BLUE%lr TANNED LEATHER&iz&WIND&FLY%E",
    "AT o&l&s%lr EAT%jt%lr HORSE%BONE%GHOST%lr FISH&BIRD&SALT%yi WHEAT&YELLOW%lr FROG%xj EVEN%lr E",
    "VEN%xj TOOTH%lr TOOTH%xj rn%lr rn%TURTLE%xj TURTLE%lr TURTLE@2F00!KANGXI RADICAL o%cs%q%lo%to",
    "%x%l%LID%MAN%LEGS%ENTER%ah%ap BOX%COVER%ICE%TABLE%bw BOX%KNIFE%POWER%WRAP%SPOON%i bw BOX%HIDI",
    "NG ENCLOSURE%ca%DIVINATION%SEAL%CLIFF%PRIVATE%AGAIN%jj%ENCLOSURE%ms%SCHOLAR%GO&SLOWLY%EVENING",
    "%BIG%WOMAN%CHILD%ROOF%INCH%c%LAME%CORPSE%SPROUT%sb%RIVER%WORK%ONESELF%TURBAN%DRY%ec THREAD%fl",
    " CLIFF%bz STRIDE%l HANDS%SHOOT%BOW%SNOUT%BRISTLE%STEP%he%HALBERD%DOOR%gq%BRANCH%RAP%if%DIPPER",
    "%AXE%au%dh%SUN%SAY%hx%TREE%LACK%cl%DEATH%WEAPON%DO dh%COMPARE%FUR%CLAN%STEAM%nu%FIRE%CLAW%FAT",
    "HER%p X%ao TREE TRUNK%SLICE%FANG%COW%DOG%PROFOUND%JADE%MELON%TILE%SWEET%LIFE%USE%FIELD%BOLT O",
    "F CLOTH%SICKNESS%fl TENT%v%SKIN%iu%EYE%SPEAR%h%STONE%SPIRIT%TRACK%GRAIN%CAVE%STAND%BAMBOO%RIC",
    "E%SILK%JAR%NET%SHEEP%FEATHER%du%g%PLOW%EAR%BRUSH%MEAT%MINISTER%SELF%ARRIVE%MORTAR%TONGUE%OPPO",
    "SE%BOAT%STOPPING%COLOR%GRASS%TIGER%INSECT%BLOOD%WALK ENCLOSURE%CLOTHES%dv%SEE%ga%SPEECH%VALLE",
    "Y%BEAN%PIG%BADGER%in%RED%RUN%FOOT%BODY%CART%BITTER%MORNING%WALK%CITY%WINE%DISTINGUISH%VILLAGE",
    "%GOLD%bz%GATE%MOUND%SLAVE%ec TAILED BIRD%RAIN%BLUE%WRONG%at%LEATHER%TANNED LEATHER%LEEK%kz%iz",
    "%WIND%FLY%EAT%jt%FRAGRANT%HORSE%BONE%TALL%HAIR%FIGHT%SACRIFICIAL WINE%CAULDRON%GHOST%FISH%BIR",
    "D%SALT%DEER%WHEAT%HEMP%YELLOW%MILLET%t%EMBROIDERY%FROG%TRIPOD%DRUM%RAT%NOSE%EVEN%TOOTH%rn%TUR",
    "TLE%FLUTE@2FF0!lx DESCRIPTION ql k TO i&j TO m&k TO ae g i&j TO ae g m&ea SURROUND&SURROUND g",
    "p j)m)k)bv k*i)bk k&OVERLAID@3000$jd$de$ea cl!DITTO r!tg INDUSTRIAL STANDARD z!lx qt r$CLOSIN",
    "G r$cz bt!k dw as!i dw as!k p dw as!i p dw as!k gl as!i gl as!k v gl as!i v gl as!k t rx as!i",
    " t rx as!POSTAL r!GETA r!k ko in as!i ko in as!k v rx as!i v rx as!k v ko in as!i v ko in as!",
    "k v au as!i v au as!jh fa!cg p ol gz r!p ol gz r!bn p ol gz r!POSTAL r at!HANGZHOU px o%l%s%w",
    "%aa%ag%an%ah%ar!lx LEVEL cd r$no cd r$DEPARTING cd r$ENTERING cd r!qs cq q cd r$p q cd r!WAVY",
    " fa!af KANA REPEAT r&a qg kz r&r bv ao&a qg kz r bv ao&r bk ao!ds POSTAL r!lx TELEGRAPH cs FE",
    "ED im z!HANGZHOU px ca%fc%je!af lx qt r!MASU r!PART ALTERNATION r!lx wn ru$ao mt jd@3041!uk b",
    " c A%A%c I%I%c U%U%c E%E%c O%O%KA%GA%KI%GI%KU%GU%KE%GE%KO%GO%SA%ZA%SI%ZI%SU%ZU%SE%ZE%SO%ZO%TA",
    "%DA%TI%DI%c TU%TU%DU%TE%DE%TO%DO%NA%NI%NU%NE%NO%HA%BA%PA%HI%BI%PI%HU%BU%PU%HE%BE%PE%HO%BO%PO%",
    "MA%MI%MU%ME%MO%c YA%YA%c YU%YU%c YO%YO%RA%RI%RU%RE%RO%c WA%WA%WI%WE%WO%N%VU%c KA&KE@3099!fj v",
    "v qg kz r%SEMI-VOICED kz r!vv qg kz r$SEMI-VOICED kz r!uk qt r$qg qt r$hk YORI!vv p ob!oz b c",
    " A%A%c I%I%c U%U%c E%E%c O%O%KA%GA%KI%GI%KU%GU%KE%GE%KO%GO%SA%ZA%SI%ZI%SU%ZU%SE%ZE%SO%ZO%TA%D",
    "A%TI%DI%c TU%TU%DU%TE%DE%TO%DO%NA%NI%NU%NE%NO%HA%BA%PA%HI%BI%PI%HU%BU%PU%HE%BE%PE%HO%BO%PO%MA",
    "%MI%MU%ME%MO%c YA%YA%c YU%YU%c YO%YO%RA%RI%RU%RE%RO%c WA%WA%WI%WE%WO%N%VU%c KA&KE%VA%VI%VE%VO",
    "$ae q!vv PROLONGED kz r!oz qt r$qg qt r$hk KOTO@3105!BOPOMOFO b B%P%M%F%D%T%N%L%G%K%H%J%Q%X%Z",
    "H%CH%SH%R%Z%C%S%A%O%E%EH%AI%EI%AU%OU%AN%EN%ANG%ENG%ER%I%U%IU%V%NG%GN%IH%O a q j%NN@3131!qs b ",
    "rw%yl%KIYEOK-SIOS%NIEUN%xp%xq%su%yn%RIEUL%xx%xy%xz%ya%zh%zg%xw%MIEUM%PIEUP%ym%xu%SIOS%SSANGSI",
    "OS%IEUNG%CIEUC%yk%rg%rv%sr%sj%HIEUH%A%AE%YA%YAE%EO%E%YEO%YE%O%WA%WAE%OE%YO%U%WEO%WE%WI%YU%EU%",
    "YI%I$qr$b SSANGNIEUN%za%NIEUN-SIOS%NIEUN-PANSIOS%zw%zi%zx%RIEUL-PANSIOS%zz%MIEUM-PIEUP%MIEUM-",
    "SIOS%MIEUM-PANSIOS%yw%PIEUP-KIYEOK%zd%zu%zc%PIEUP-CIEUC%PIEUP-THIEUTH%yy%zr%SIOS-KIYEOK%SIOS-",
    "NIEUN%SIOS-TIKEUT%SIOS-PIEUP%SIOS-CIEUC%PANSIOS%SSANGIEUNG%YESIEUNG%YESIEUNG-SIOS%YESIEUNG-PA",
    "NSIOS%yx%SSANGHIEUH%YEORINHIEUH%YO-YA%YO-YAE%YO-I%YU-YEO%YU-YE%YU-I%ARAEA%ARAEAE@3190!lx ANNO",
    "TATION LINKING r%jk r%o r%l r%s r%w r%ey r%ae r%gj r%FIRST r%to r%nt r%FOURTH r%HEAVEN r%ms r",
    "%MAN r!BOPOMOFO b BU%ZI%JI%GU%EE%ENN%OO%ONN%IR%ANN%INN%UNN%IM%NGG%AINN%AUNN%AM%OM%ONG%INNN$n ",
    "b P&T&K&H$b GH%LH%ZY$n b G$b GW%KW%OE%AH!CJK y T%WG%XG%BXG%SW%HZZ%HZG%HP%HZWG%SZWG%HZT%HZZP%H",
    "PWG%HZW%HZZZ%N%H%S%P%SP%D%HZ%HG%SZ%SWZ%ST%SG%PD%PZ%TN%SZZ%SWG%HXWG%HZZZG%PG%Q@31F0!oz b c KU&",
    "SI&SU&TO&NU&HA&HI&HU&HE&HO&MU&RA&RI&RU&RE&RO!xs qs rw%NIEUN%su%RIEUL%MIEUM%PIEUP%SIOS%IEUNG%C",
    "IEUC%rg%rv%sr%sj%HIEUH%rw A%NIEUN A%su A%RIEUL A%MIEUM A%PIEUP A%SIOS A%IEUNG A%CIEUC A%rg A%",
    "rv A%sr A%sj A%HIEUH A%CIEUC U$KOREAN ql OJEON&O HU@3220$xh o%l%s%w%aa%ag%an%ah%ar%ca%hx%FIRE",
    "%nu%WOOD%METAL%ms%SUN%STOCK%HAVE%SOCIETY%NAME%SPECIAL%FINANCIAL%CONGRATULATION%LABOR%REPRESEN",
    "T%CALL%STUDY%SUPERVISE%ENTERPRISE%RESOURCE%ALLIANCE%FESTIVAL%km%SELF%REACH!ds xh hi%KINDERGAR",
    "TEN%SCHOOL%KOTO$cz ca ON t au%fc ON t au%je ON t au%kd ON t au%gg ON t au%kx ON t au%gb ON t ",
    "au%lu ON t au!PARTNERSHIP f!ds cz fc o&l&s&w&aa&ag&an&ah&ar%je&o&l&s&w&aa$qs rw%NIEUN%su%RIEU",
    "L%MIEUM%PIEUP%SIOS%IEUNG%CIEUC%rg%rv%sr%sj%HIEUH%rw A%NIEUN A%su A%RIEUL A%MIEUM A%PIEUP A%SI",
    "OS A%IEUNG A%CIEUC A%rg A%rv A%sr A%sj A%HIEUH A$KOREAN ql CHAMKO&JUEUI$qs IEUNG U!KOREAN STA",
    "NDARD z!ds xh o%l%s%w%aa%ag%an%ah%ar%ca%hx%FIRE%nu%WOOD%METAL%ms%SUN%STOCK%HAVE%SOCIETY%NAME%",
    "SPECIAL%FINANCIAL%CONGRATULATION%LABOR%SECRET%MALE%FEMALE%SUITABLE%EXCELLENT%PRINT%ATTENTION%",
    "ITEM%km%COPY%CORRECT%ci%dm%bn%k%i%MEDICINE%RELIGION%STUDY%SUPERVISE%ENTERPRISE%RESOURCE%ALLIA",
    "NCE%NIGHT$cz je ag&an&ah&ar%kd&o&l&s&w&aa&ag&an&ah&ar%gg!lx TELEGRAPH z fm JANUARY(FEBRUARY(M",
    "ARCH(APRIL(MAY(JUNE(JULY(AUGUST(SEPTEMBER(OCTOBER(NOVEMBER(DECEMBER!au HG$ERG$EV!LIMITED LIAB",
    "ILITY f!ds oz A%I%U%E%O%KA%KI%KU%KE%KO%SA%SI%SU%SE%SO%TA%TI%TU%TE%TO%NA%NI%NU%NE%NO%HA%HI%HU%",
    "HE%HO%MA%MI%MU%ME%MO%YA%YU%YO%RA%RI%RU%RE%RO%WA%WI%WE%WO!au ERA NAME REIWA$APAATO$ARUHUA$ANPE",
    "A$AARU$ININGU$INTI$UON$ESUKUUDO$EEKAA$ONSU$OOMU$KAIRI$KARATTO$KARORII$GARON$GANMA$GIGA$GINII$",
    "KYURII$GIRUDAA$KIRO$KIROGURAMU$KIROMEETORU$KIROWATTO$GURAMU$GURAMUTON$KURUZEIRO$KUROONE$KEESU",
    "$KORUNA$KOOPO$SAIKURU$SANTIIMU$SIRINGU$SENTI$SENTO$DAASU$DESI$DORU$TON$NANO$NOTTO$HAITU$PAASE",
    "NTO$PAATU$BAARERU$PIASUTORU$PIKURU$PIKO$BIRU$HUARADDO$HUIITO$BUSSYERU$HURAN$HEKUTAARU$PESO$PE",
    "NIHI$HERUTU$PENSU$PEEZI$BEETA$POINTO$BORUTO$HON$PONDO$HOORU$HOON$MAIKURO$MAIRU$MAHHA$MARUKU$M",
    "ANSYON$MIKURON$MIRI$MIRIBAARU$MEGA$MEGATON$MEETORU$YAADO$YAARU$YUAN$RITTORU$RIRA$RUPII$RUUBUR",
    "U$REMU$RENTOGEN$WATTO!lx TELEGRAPH z fm HOUR bt)o)l)s)w)aa)ag)an)ah)ar)ca)ny)my)ss)rs)ox)qb)s",
    "l)qp)sd)fc)TWENTY-ONE)TWENTY-TWO)TWENTY-THREE)TWENTY-FOUR!au HPA$DA$AU$ak$OV$PC$DM%fz%CUBED$I",
    "U$ERA NAME HEISEI&SYOUWA&TAISYOU&MEIZI$CORPORATION$PA AMPS$NA$MU A$MA$KA$KB$MB$GB$CAL$KCAL$PF",
    "$NF$MU F%G$MG$KG$HZ$KHZ$MHZ$GHZ$THZ$MU L$ML$DL$KL$FM$NM$MU M$MM$CM$KM$MM fz$CM fz$M fz$KM fz$",
    "MM CUBED$CM CUBED$M CUBED$KM CUBED$M ay S(fz$PA$KPA$MPA$GPA$RAD%ay S(fz$PS$NS$MU S$MS$PV$NV$M",
    "U V$MV$KV$MV MEGA$PW$NW$MU W$MW$KW$MW MEGA$K OHM$M OHM$AM$BQ$CC$CD$C ay KG$CO$DB$GY$HA$HP$IN$",
    "KK$KM e$KT$LM$LN$LOG$LX$MB c$MIL$MOL$PH$PM$PPM$PR$SR$SV$WB$V ay M$A ay M!lx TELEGRAPH z fm DA",
    "Y o)l)s)w)aa)ag)an)ah)ar)ca)ny)my)ss)rs)ox)qb)sl)qp)sd)fc)TWENTY-ONE)TWENTY-TWO)TWENTY-THREE)",
    "TWENTY-FOUR)yp)TWENTY-SIX)TWENTY-SEVEN)TWENTY-EIGHT)TWENTY-NINE)je)THIRTY-ONE!au GAL@4DC0!HEX",
    "AGRAM fm fp CREATIVE HEAVEN&RECEPTIVE ms%DIFFICULTY AT fp BEGINNING%YOUTHFUL FOLLY%WAITING%CO",
    "NFLICT%fp ARMY%ul TOGETHER%c TAMING%TREADING%PEACE%STANDSTILL%FELLOWSHIP%GREAT POSSESSION%MOD",
    "ESTY%ENTHUSIASM%FOLLOWING%WORK ON fp DECAYED%APPROACH%CONTEMPLATION%BITING mx%GRACE%SPLITTING",
    " APART%RETURN%INNOCENCE%GREAT TAMING%jj ua%GREAT PREPONDERANCE%fp ABYSMAL nu&CLINGING FIRE%IN",
    "FLUENCE%DURATION%RETREAT%GREAT POWER%PROGRESS%DARKENING OF fp bd%fp FAMILY%OPPOSITION%OBSTRUC",
    "TION%DELIVERANCE%DECREASE%INCREASE%BREAKTHROUGH%COMING TO MEET%GATHERING TOGETHER%PUSHING UPW",
    "ARD%OPPRESSION%fp WELL%REVOLUTION%fp CAULDRON&AROUSING THUNDER&KEEPING STILL sb%DEVELOPMENT%f",
    "p MARRYING MAIDEN%ABUNDANCE%fp WANDERER&GENTLE WIND&JOYOUS LAKE%DISPERSION%LIMITATION%INNER T",
    "RUTH%c PREPONDERANCE%AFTER COMPLETION%BEFORE COMPLETION@A000!YI lp IT%IX%I%IP%IET%IEX%IE%IEP%",
    "AT%AX%A%AP%UOX%UO%UOP%OT%OX%O%OP%EX%E%WU%BIT%BIX%BI%BIP%BIET%BIEX%BIE%BIEP%BAT%BAX%BA%BAP%BUO",
    "X%BUO%BUOP%BOT%BOX%BO%BOP%BEX%BE%BEP%BUT%BUX%BU%BUP%BURX%BUR%BYT%BYX%BY%BYP%BYRX%BYR%PIT%PIX%",
    "PI%PIP%PIEX%PIE%PIEP%PAT%PAX%PA%PAP%PUOX%PUO%PUOP%POT%POX%PO%POP%PUT%PUX%PU%PUP%PURX%PUR%PYT%",
    "PYX%PY%PYP%PYRX%PYR%BBIT%BBIX%BBI%BBIP%BBIET%BBIEX%BBIE%BBIEP%BBAT%BBAX%BBA%BBAP%BBUOX%BBUO%B",
    "BUOP%BBOT%BBOX%BBO%BBOP%BBEX%BBE%BBEP%BBUT%BBUX%BBU%BBUP%BBURX%BBUR%BBYT%BBYX%BBY%BBYP%NBIT%N",
    "BIX%NBI%NBIP%NBIEX%NBIE%NBIEP%NBAT%NBAX%NBA%NBAP%NBOT%NBOX%NBO%NBOP%NBUT%NBUX%NBU%NBUP%NBURX%",
    "NBUR%NBYT%NBYX%NBY%NBYP%NBYRX%NBYR%HMIT%HMIX%HMI%HMIP%HMIEX%HMIE%HMIEP%HMAT%HMAX%HMA%HMAP%HMU",
    "OX%HMUO%HMUOP%HMOT%HMOX%HMO%HMOP%HMUT%HMUX%HMU%HMUP%HMURX%HMUR%HMYX%HMY%HMYP%HMYRX%HMYR%MIT%M",
    "IX%MI%MIP%MIEX%MIE%MIEP%MAT%MAX%MA%MAP%MUOT%MUOX%MUO%MUOP%MOT%MOX%MO%MOP%MEX%ME%MUT%MUX%MU%MU",
    "P%MURX%MUR%MYT%MYX%MY%MYP%FIT%FIX%FI%FIP%FAT%FAX%FA%FAP%FOX%FO%FOP%FUT%FUX%FU%FUP%FURX%FUR%FY",
    "T%FYX%FY%FYP%VIT%VIX%VI%VIP%VIET%VIEX%VIE%VIEP%VAT%VAX%VA%VAP%VOT%VOX%VO%VOP%VEX%VEP%VUT%VUX%",
    "VU%VUP%VURX%VUR%VYT%VYX%VY%VYP%VYRX%VYR%DIT%DIX%DI%DIP%DIEX%DIE%DIEP%DAT%DAX%DA%DAP%DUOX%DUO%",
    "q%DOX%DO%DOP%DEX%DE%DEP%DUT%DUX%DU%DUP%DURX%DUR%TIT%TIX%TI%TIP%TIEX%TIE%TIEP%TAT%TAX%TA%TAP%T",
    "UOT%TUOX%TUO%TUOP%TOT%TOX%TO%ey%TEX%TE%TEP%TUT%TUX%TU%TUP%TURX%TUR%DDIT%DDIX%DDI%DDIP%DDIEX%D",
    "DIE%DDIEP%DDAT%DDAX%ef%DDAP%DDUOX%DDUO%DDUOP%DDOT%DDOX%DDO%DDOP%DDEX%DDE%DDEP%DDUT%DDUX%DDU%D",
    "DUP%DDURX%DDUR%NDIT%NDIX%NDI%NDIP%NDIEX%NDIE%NDAT%NDAX%NDA%NDAP%NDOT%NDOX%NDO%NDOP%NDEX%NDE%N",
    "DEP%NDUT%NDUX%NDU%NDUP%NDURX%NDUR%HNIT%HNIX%HNI%HNIP%HNIET%HNIEX%HNIE%HNIEP%HNAT%HNAX%HNA%HNA",
    "P%HNUOX%HNUO%HNOT%HNOX%HNOP%HNEX%HNE%HNEP%HNUT%NIT%NIX%NI%NIP%NIEX%NIE%NIEP%NAX%NA%NAP%NUOX%N",
    "UO%NUOP%dh%NOX%NO%NOP%NEX%NE%NEP%NUT%NUX%NU%NUP%NURX%NUR%HLIT%HLIX%HLI%HLIP%HLIEX%HLIE%HLIEP%",
    "HLAT%HLAX%HLA%HLAP%HLUOX%HLUO%HLUOP%HLOX%HLO%HLOP%HLEX%HLE%HLEP%HLUT%HLUX%HLU%HLUP%HLURX%HLUR",
    "%HLYT%HLYX%HLY%HLYP%HLYRX%HLYR%LIT%LIX%LI%LIP%LIET%LIEX%LIE%LIEP%LAT%LAX%LA%LAP%LUOT%LUOX%LUO",
    "%LUOP%LOT%LOX%LO%LOP%LEX%LE%LEP%LUT%LUX%LU%LUP%LURX%LUR%LYT%LYX%LY%LYP%LYRX%LYR%GIT%GIX%GI%GI",
    "P%GIET%GIEX%GIE%GIEP%GAT%GAX%GA%GAP%GUOT%GUOX%GUO%GUOP%GOT%GOX%GO%GOP%GET%GEX%GE%GEP%GUT%GUX%",
    "GU%GUP%GURX%GUR%KIT%KIX%KI%KIP%KIEX%KIE%KIEP%KAT%KAX%KA%KAP%KUOX%KUO%KUOP%KOT%KOX%KO%KOP%KET%",
    "KEX%KE%KEP%KUT%KUX%KU%KUP%KURX%KUR%GGIT%GGIX%GGI%GGIEX%GGIE%GGIEP%GGAT%GGAX%GGA%GGAP%GGUOT%GG",
    "UOX%GGUO%GGUOP%GGOT%GGOX%GGO%GGOP%GGET%GGEX%GGE%GGEP%GGUT%GGUX%GGU%GGUP%GGURX%GGUR%MGIEX%MGIE",
    "%MGAT%MGAX%MGA%MGAP%MGUOX%MGUO%MGUOP%MGOT%MGOX%MGO%MGOP%MGEX%MGE%MGEP%MGUT%MGUX%MGU%MGUP%MGUR",
    "X%MGUR%HXIT%HXIX%HXI%HXIP%HXIET%HXIEX%HXIE%HXIEP%HXAT%HXAX%HXA%HXAP%HXUOT%HXUOX%HXUO%HXUOP%HX",
    "OT%HXOX%HXO%HXOP%HXEX%HXE%HXEP%NGIEX%NGIE%NGIEP%NGAT%NGAX%cj%NGAP%NGUOT%NGUOX%NGUO%NGOT%NGOX%",
    "NGO%NGOP%NGEX%NGE%NGEP%HIT%HIEX%HIE%HAT%HAX%HA%HAP%HUOT%HUOX%HUO%HUOP%HOT%HOX%HO%HOP%HEX%HE%H",
    "EP%WAT%WAX%WA%WAP%WUOX%WUO%WUOP%WOX%WO%WOP%WEX%WE%WEP%ZIT%ZIX%ZI%ZIP%ZIEX%ZIE%ZIEP%ZAT%ZAX%ZA",
    "%ZAP%ZUOX%ZUO%ZUOP%ZOT%ZOX%ZO%ZOP%ZEX%ZE%ZEP%ZUT%ZUX%ZU%ZUP%ZURX%ZUR%ZYT%ZYX%ZY%ZYP%ZYRX%ZYR%",
    "CIT%CIX%CI%CIP%CIET%CIEX%CIE%CIEP%CAT%CAX%CA%CAP%CUOX%CUO%CUOP%COT%COX%CO%COP%CEX%CE%CEP%CUT%",
    "CUX%CU%CUP%CURX%CUR%CYT%CYX%CY%CYP%CYRX%CYR%ZZIT%ZZIX%ZZI%ZZIP%ZZIET%ZZIEX%ZZIE%ZZIEP%ZZAT%ZZ",
    "AX%ZZA%ZZAP%ZZOX%ZZO%ZZOP%ZZEX%ZZE%ZZEP%ZZUX%ZZU%ZZUP%ZZURX%ZZUR%ZZYT%ZZYX%ZZY%ZZYP%ZZYRX%ZZY",
    "R%NZIT%NZIX%NZI%NZIP%NZIEX%NZIE%NZIEP%NZAT%NZAX%NZA%NZAP%NZUOX%NZUO%NZOX%NZOP%NZEX%NZE%NZUX%N",
    "ZU%NZUP%NZURX%NZUR%NZYT%NZYX%NZY%NZYP%NZYRX%NZYR%SIT%ag%SI%SIP%SIEX%SIE%SIEP%SAT%SAX%SA%SAP%S",
    "UOX%SUO%SUOP%SOT%SOX%SO%SOP%SEX%SE%SEP%SUT%SUX%SU%SUP%SURX%SUR%SYT%SYX%SY%SYP%SYRX%SYR%SSIT%S",
    "SIX%SSI%SSIP%SSIEX%SSIE%SSIEP%SSAT%SSAX%fh%SSAP%SSOT%SSOX%SSO%SSOP%SSEX%SSE%SSEP%SSUT%SSUX%SS",
    "U%SSUP%SSYT%SSYX%SSY%SSYP%SSYRX%SSYR%ZHAT%ZHAX%ZHA%ZHAP%ZHUOX%ZHUO%ZHUOP%ZHOT%ZHOX%ZHO%ZHOP%Z",
    "HET%ZHEX%ZHE%ZHEP%ZHUT%ZHUX%ZHU%ZHUP%ZHURX%ZHUR%ZHYT%ZHYX%ZHY%ZHYP%ZHYRX%ZHYR%CHAT%CHAX%cr%CH",
    "AP%CHUOT%CHUOX%CHUO%CHUOP%CHOT%CHOX%CHO%CHOP%CHET%CHEX%CHE%CHEP%CHUX%CHU%CHUP%CHURX%CHUR%CHYT",
    "%CHYX%CHY%CHYP%CHYRX%CHYR%RRAX%RRA%RRUOX%RRUO%RROT%RROX%RRO%RROP%RRET%RREX%RRE%RREP%RRUT%RRUX",
    "%RRU%RRUP%RRURX%RRUR%RRYT%RRYX%RRY%RRYP%RRYRX%RRYR%NRAT%NRAX%NRA%NRAP%NROX%NRO%NROP%NRET%NREX",
    "%NRE%NREP%NRUT%NRUX%NRU%NRUP%NRURX%NRUR%NRYT%NRYX%NRY%NRYP%NRYRX%NRYR%SHAT%SHAX%ck%SHAP%SHUOX",
    "%SHUO%SHUOP%SHOT%SHOX%SHO%SHOP%SHET%SHEX%gc%SHEP%SHUT%SHUX%SHU%SHUP%SHURX%SHUR%SHYT%SHYX%SHY%",
    "SHYP%SHYRX%SHYR%RAT%RAX%RA%RAP%RUOX%RUO%RUOP%ROT%ROX%RO%ROP%REX%RE%REP%RUT%RUX%RU%RUP%RURX%RU",
    "R%RYT%RYX%RY%RYP%RYRX%RYR%JIT%JIX%JI%JIP%JIET%JIEX%JIE%JIEP%JUOT%JUOX%JUO%JUOP%JOT%JOX%JO%JOP",
    "%JUT%JUX%JU%JUP%JURX%JUR%JYT%JYX%JY%JYP%JYRX%JYR%QIT%QIX%QI%QIP%QIET%QIEX%QIE%QIEP%QUOT%QUOX%",
    "QUO%QUOP%QOT%QOX%QO%QOP%QUT%QUX%QU%QUP%QURX%QUR%QYT%QYX%QY%QYP%QYRX%QYR%JJIT%JJIX%JJI%JJIP%JJ",
    "IET%JJIEX%JJIE%JJIEP%JJUOX%JJUO%JJUOP%JJOT%JJOX%JJO%JJOP%JJUT%JJUX%JJU%JJUP%JJURX%JJUR%JJYT%J",
    "JYX%JJY%JJYP%NJIT%NJIX%NJI%NJIP%NJIET%NJIEX%NJIE%NJIEP%NJUOX%NJUO%NJOT%NJOX%NJO%NJOP%NJUX%NJU",
    "%NJUP%NJURX%NJUR%NJYT%NJYX%NJY%NJYP%NJYRX%NJYR%NYIT%NYIX%NYI%NYIP%NYIET%NYIEX%NYIE%NYIEP%NYUO",
    "X%NYUO%NYUOP%NYOT%NYOX%NYO%NYOP%NYUT%NYUX%NYU%NYUP%XIT%XIX%XI%XIP%XIET%XIEX%XIE%XIEP%XUOX%XUO",
    "%XOT%XOX%XO%XOP%XYT%XYX%XY%XYP%XYRX%XYR%YIT%YIX%YI%YIP%YIET%YIEX%YIE%YIEP%YUOT%YUOX%YUO%YUOP%",
    "YOT%YOX%YO%YOP%YUT%YUX%YU%YUP%YURX%YUR%YYT%YYX%YY%YYP%YYRX%YYR@A490$RADICAL QOT%LI%KIT%NYIP%C",
    "YP%SSI%GGOP%GEP%MI%HXIT%LYR%BBUT%MOP%YO%PUT%HXUO%TAT%GA%ZUP%CYT%DDUR%BUR%GGUO%NYOP%TU%OP%JJUT",
    "%ZOT%PYT%HMO%YIT%VUR%SHY%VEP%ZA%JO%NZUP%JJY%GOT%JJIE%WO%DU%SHUR%LIE%CY%CUOP%CIP%HXOP%SHAT%ZUR",
    "%SHOP%CHE%ZZIET%NBIE%KE@A4D0!LISU b BA%PA%dq%DA%TA%df%GA%KA%cv%JA%CA%cr%DZA%hb%mi%MA%NA%LA%SA",
    "%ZHA%ZA%cj%HA%XA%HHA%FA%WA%ck%YA%ei%A%AE%E%EU%I%O%U%UE%UH%OE%cd MYA TI&NA PO&MYA CYA(BO(NA(JE",
    "U$eu de%ea cl!VAI lp EE%EEN%HEE%WEE%WEEN%PEE%BHEE%BEE%MBEE%KPEE%MGBEE%GBEE%FEE%VEE%TEE%THEE%D",
    "HEE%DHHEE%LEE%REE%DEE%NDEE%SEE%SHEE%ZEE%ZHEE%CEE%JEE%NJEE%YEE%KEE%NGGEE%GEE%MEE%NEE%NYEE%I%IN",
    "%HI%HIN%WI%WIN%PI%BHI%BI%MBI%KPI%MGBI%GBI%FI%VI%TI%THI%DHI%DHHI%LI%RI%DI%NDI%SI%SHI%ZI%ZHI%CI",
    "%JI%NJI%YI%KI%NGGI%GI%MI%NI%NYI%A%AN%NGAN%HA%HAN%WA%WAN%PA%er%BA%MBA%KPA%KPAN%MGBA%GBA%FA%VA%",
    "TA%df%eg%DHHA%LA%RA%DA%NDA%SA%ck%ZA%ZHA%CA%JA%NJA%YA%KA%KAN%NGGA%GA%MA%NA%ct%OO%OON%HOO%WOO%W",
    "OON%POO%BHOO%BOO%MBOO%KPOO%MGBOO%GBOO%FOO%VOO%TOO%THOO%DHOO%DHHOO%LOO%ROO%DOO%NDOO%SOO%SHOO%Z",
    "OO%ZHOO%COO%JOO%NJOO%YOO%KOO%NGGOO%GOO%MOO%NOO%NYOO%U%UN%HU%HUN%WU%WUN%PU%BHU%BU%MBU%KPU%MGBU",
    "%GBU%FU%VU%TU%THU%DHU%DHHU%LU%RU%DU%NDU%SU%SHU%ZU%ZHU%CU%JU%NJU%YU%KU%NGGU%GU%MU%NU%NYU%O%ON%",
    "NGON%HO%HON%WO%WON%PO%BHO%BO%MBO%KPO%MGBO%GBO%GBON%FO%VO%TO%THO%DHO%DHHO%LO%RO%DO%NDO%SO%SHO%",
    "ZO%ZHO%CO%JO%NJO%YO%KO%NGGO%GO%MO%NO%NYO%E%EN%NGEN%HE%HEN%WE%WEN%PE%BHE%BE%MBE%KPE%KPEN%MGBE%",
    "GBE%GBEN%FE%VE%TE%fp%DHE%DHHE%LE%RE%DE%NDE%SE%gc%ZE%ZHE%CE%JE%NJE%YE%KE%NGGE%NGGEN%GE%GEN%ME%",
    "NE%NYE%NG%xl$de$ea cl$hi r$lp NDOLE FA&KA&SOO$z FEENG%KEENG%TING%NII%BANG%FAA%TAA%DANG%DOONG%",
    "KUNG%TONG%DO-O%JONG$bh bt%o%l%s%w%aa%ag%an%ah%ar$lp NDOLE MA&DO@A640!mo e b ZEMLYA$c b ZEMLYA",
    "$e b DZELO$c b DZELO$e b cg DZE$c b cg DZE$e b gs$c b gs$e b DJERV$c b DJERV$e b MONOGRAPH UK",
    "$c b MONOGRAPH UK$e b BROAD fo$c b BROAD fo$e b ja YER$c b ja YER$e b YERU a BACK YER$c b YER",
    "U a BACK YER$e b lh YAT$c b lh YAT$e b cg YU$c b cg YU$e b lh A$c b lh A$e b fw dp hj$c b fw ",
    "dp hj$e b BLENDED hj$c b BLENDED hj$e b lh fw dp hj$c b lh fw dp hj$e b YN$c b YN$e b cg TSE$",
    "c b cg TSE$e b SOFT DE$c b SOFT DE$e b SOFT EL$c b SOFT EL$e b SOFT EM$c b SOFT EM$e b xo O$c",
    " b xo O$e b BINOCULAR O$c b BINOCULAR O$e b p xo O$c b p xo O$b MULTIOCULAR O!fj mo VZMET%ca ",
    "tj f%aq tj f%az tj f!SLAVONIC ek!fj mo b UKRAINIAN IE&I&YI&U&HARD f&YERU&SOFT f&fo%KAVYKA%PAY",
    "EROK!mo KAVYKA$PAYEROK$e b DWE$c b DWE$e b DZWE$c b DZWE$e b ZHWE$c b ZHWE$e b CCHE$c b CCHE$",
    "e b DZZE$c b DZZE$e b TE a ae x$c b TE a ae x$e b TWE$c b TWE$e b TSWE$c b TSWE$e b TSSE$c b ",
    "TSSE$e b TCHE$c b TCHE$e b HWE$c b HWE$e b SHWE$c b SHWE$e b p O$c b p O$e b nd O$c b nd O!gy",
    " b mo HARD f&SOFT f!fj mo b EF&lh E!BAMUM b A%KA%U%KU%EE%REE%TAE%O%NYI%I%LA%PA%RII%RIEE%LEEEE",
    "%MEEEE%TAA%NDAA%NJAEM%M%SUU%MU%SHII%SI%SHEUX%SEUX%KYEE%KET%NUAE%NU%NJUAE%YOQ%SHU%YUQ%YA%NSHA%",
    "KEUX%PEUX%NJEE%NTEE%PUE%WUE%PEE%FEE%RU%LU%MI%NI%REUX%RAE%KEN%NGKWAEN%NGGA%cj%SHO%PUAE%FU%FOM%",
    "WA%NA%LI%PI%LOQ%KO%MBEN%REN%MEN%MA%TI%KI%MO%MBAA%TET%KPA%ca%NTUU%SAMBA%FAAMAE%KOVUU%KOGHOM$fj",
    " r KOQNDON&TUKWENTIS$NJAEMLI$ea cl$gn$de$oo$hi r@A700!gy b CHINESE cd YIN PING(YANG PING(YIN ",
    "SHANG(YANG SHANG(YIN QU(YANG QU(YIN RU(YANG RU%wy fl cd ak%ci fl cd ak%MID fl cd ak%bn fl cd ",
    "ak%wz fl cd ak%wy fl ps cd ak%ci fl ps cd ak%MID fl ps cd ak%bn fl ps cd ak%wz fl ps cd ak%wy",
    " ps cd ak%ci ps cd ak%MID ps cd ak%bn ps cd ak%wz ps cd ak%q af ak&lo&bf ak%bk i gl dw%hy UP ",
    "h&ap h&hw r&cu hw r%bn cu hw r%STRESS g ci cd(bn cd!eb e b ww ba$c b ww ba$e b ww ge$c b ww g",
    "e$e b HENG$c b HENG$e b TZ$c b TZ$e b TRESILLO$c b TRESILLO$e b wu$c b wu$e b wu a de$c b wu ",
    "a de$b c e F(S$e b AA$c b AA$e b AO$c b AO$e b AU$c b AU$e b AV$c b AV$e b AV a bf ak$c b AV ",
    "a bf ak$e b AY$c b AY$e b cg C a q$c b cg C a q$e b K a y$c b K a y$e b K a ep y$c b K a ep y",
    "$e b K a y g ep y$c b K a y g ep y$e b BROKEN L$c b BROKEN L$e b L a ci y$c b L a ci y$e b O ",
    "a bz y iv$c b O a bz y iv$e b O a kj$c b O a kj$e b OO$c b OO$e b P a y mx ff$c b P a y mx ff",
    "$e b P a vn$c b P a vn$e b P a SQUIRREL dr$c b P a SQUIRREL dr$e b Q a y mx ff$c b Q a y mx f",
    "f$e b Q a ep y$c b Q a ep y$e b R ROTUNDA$c b R ROTUNDA$e b RUM ROTUNDA$c b RUM ROTUNDA$e b V",
    " a ep y$c b V a ep y$e b VY$c b VY$e b VISIGOTHIC Z$c b VISIGOTHIC Z$e b THORN a y$c b THORN ",
    "a y$e b THORN a y mx ff$c b THORN a y mx ff$e b VEND$c b VEND$e b ET$c b ET$e b IS$c b IS$e b",
    " CON$c b CON!gy b US!eb c b DUM&LUM&MUM&NUM&RUM$b c e RUM$c b TUM&UM$e b kg D$c b kg D$e b kg",
    " F$c b kg F$e b kg G&by kg G$c b by kg G$e b by L$c b by L$e b kg R$c b kg R$e b kg S$c b kg ",
    "S$e b kg T$c b kg T!gy b bn cb fi%gn%ec fx f!eb e b SALTILLO$c b SALTILLO$e b by H$c b L a ex",
    " x g BELT$b SINOLOGICAL q$e b N a ff$c b N a ff$e b C a ak$c b C a ak)hh x&H a hh x$e b B a v",
    "n$c b B a vn$e b F a y$c b F a y$e b vc AE$c b vc AE$e b vc OE$c b vc OE$e b vc UE$c b vc UE$",
    "e b G a mc y$c b G a mc y$e b K a mc y$c b K a mc y$e b N a mc y$c b N a mc y$e b R a mc y$c ",
    "b R a mc y$e b S a mc y$c b S a mc y$e b H a x&cg bw E&if G&L a BELT&c e I$b c e Q$e b by K(T",
    "&J a qn&CHI&jr$c b jr$e b fo$c b fo$e b U a y$c b U a y$e b hl A$c b hl A$e b hl I$c b hl I$e",
    " b hl U$c b hl U$e b du POLISH O$c b du POLISH O$e b ANGLICANA W$c b ANGLICANA W$e b C a hh x",
    "&S a x&Z a hh x&D a ec y iv$c b D a ec y iv$e b S a ec y iv$c b S a ec y iv@A7D0$e b fw kg G$",
    "c b fw kg G@A7D3&p THORN@A7D5(WYNN$e b ae SCOTS S$c b ae SCOTS S$e b SIGMOID S$c b SIGMOID S@",
    "A7F2!gy b e C&F&Q!eb e b cg ao H$c b cg ao H$EPIGRAPHIC b qz I!gy b e H a y%c gh OE!eb b c e ",
    "by M$EPIGRAPHIC b cg F(P&cu M&I LONGA&jp M!SYLOTI NAGRI b A&I%f DVISVARA%b U&E&O%f HASANTA%b ",
    "KO&KHO&GO&GHO%f ed%b CO&CHO&JO&JHO&TTO&TTHO&DDO&DDHO&TO&THO&DO&DHO&NO&PO&PHO&BO&BHO&MO&RO&LO&",
    "RRO&SO&HO%be f A(I(U(E(OO%POETRY MARK-1&MARK-2&MARK-3&MARK-4%f ir HASANTA@A830!eh INDIC js o ",
    "gi(ao&s mf&o ux(hs&s yj%gi r%PLACEHOLDER r%RUPEE r%QUANTITY r@A840!PHAGS-PA b KA%cv%GA%cj%CA%",
    "cr%JA%ct%TA%df%DA%NA%PA%dq%BA%MA%hb%mi%DZA%WA%ZHA%ZA%c A%YA%RA%LA%ck%SA%HA%A%I%U%E%O%QA%XA%FA",
    "%GGA%EE$uy b WA&YA$b ee%ez%ef%eq%ir YA%VOICELESS ck%qg HA%ASPIRATED FA$uy b RA$SUPERFIXED b R",
    "A$b gm$cq jt r$p jt r$r ln%p ln@A880!SAURASHTRA f ed%fv$b A%AA%I%II%U%UU%dl R&RR&L&LL%E%EE%AI",
    "%O%OO%AU%KA%cv%GA%ei%cj%CA%cr%JA%fu%ct%ee%ez%ef%fe%eq%TA%df%DA%eg%NA%PA%dq%BA%er%MA%YA%RA%LA%",
    "VA%ck%fh%SA%HA%LLA$is f HAARU$be f AA&I&II&U&UU&dl R(RR(L(LL&E&EE&AI&O&OO&AU$f fd%gm@A8CE$gv$",
    "p gv$bh bt%o%l%s%w%aa%ag%an%ah%ar@A8E0!fj DEVANAGARI bh bt&o&l&s&w&aa&ag&an&ah&ar%b A&U&KA&NA",
    "&PA&RA&VI%f ld!DEVANAGARI f SPACING gm%gm fd%p gm fd%gm l&s&ld%PUSHPIKA$GAP qr$pm$HEADSTROKE$",
    "f tp$JAIN OM$b AY$be f AY!KAYAH LI bh bt&o&l&s&w&aa&ag&an&ah&ar%b KA&cv&GA&cj&SA&ck&ZA&ct&TA&",
    "HTA&NA&PA&dq&MA&DA&BA&RA&YA&LA&WA&df&HA&VA&CA&A&OE&I&OO%be UE&E&U&EE&O%cd PLOPHU&CALYA(PLOPHU",
    "%f CWI&SHYA!REJANG b KA%GA%cj%TA%DA%NA%PA%BA%MA%CA%JA%ct%SA%RA%LA%YA%WA%HA%MBA%NGGA%NDA%NYJA%",
    "A$be f I&U&E&AI&O&AU&EU&EA$is f NG&N&R&H$fd@A95F$il r!qs CHOSEONG TIKEUT-MIEUM%TIKEUT-PIEUP%T",
    "IKEUT-SIOS%TIKEUT-CIEUC%xx%zy%zi%RIEUL-SSANGTIKEUT%xy%xz%RIEUL-SSANGPIEUP%zv%ya%RIEUL-CIEUC%R",
    "IEUL-KHIEUKH%MIEUM-KIYEOK%MIEUM-TIKEUT%MIEUM-SIOS%PIEUP-SIOS-THIEUTH%PIEUP-KHIEUKH%PIEUP-HIEU",
    "H%SSANGSIOS-PIEUP%IEUNG-RIEUL%IEUNG-HIEUH%SSANGCIEUC-HIEUH%SSANGTHIEUTH%PHIEUPH-HIEUH%HIEUH-S",
    "IOS%SSANGYEORINHIEUH@A980!JAVANESE f PANYANGGA%CECAK%LAYAR%WIGNYAN$b A%I KAWI&%II%U%PA CEREK%",
    "cj LELET(RASWADI%E%AI%O%KA&SASAK&pb%GA&pb%cj%CA&pb%JA%ct pb%JA rz%ct%ee&rz%ef&rz%NA pb%TA&pb%",
    "DA&rz%NA%PA&pb%BA&pb%MA%YA%RA&AGUNG%LA%WA%SA pb&rz&%HA$f CECAK TELU$be f TARUNG&TOLONG&WULU(M",
    "ELIK&SUKU(MENDUT&TALING&DIRGA MURE&PEPET$is f KERET&PENGKAL&CAKRA$PANGKON$k RERENGGAN$i REREN",
    "GGAN$PADA ANDAP%MADYA%LUHUR%WINDU%PANGKAT%LINGSA%LUNGSI%ADEG&ADEG%PISELEH$by PADA PISELEH@A9C",
    "F$PANGRANGKEP$bh bt%o%l%s%w%aa%ag%an%ah%ar@A9DE$PADA TIRTA TUMETES%ISEN-ISEN!MYANMAR b SHAN e",
    "i&cr&fu&eq&er$f SHAN SAW$gy b SHAN REDUPLICATION$b TAI LAING ct(FA(GA(ei(JA(fu(ef(fe(eq$TAI L",
    "AING bh bt(o(l(s(w(aa(ag(an(ah(ar$b TAI LAING LLA(DA(eg(BA(er@AA00!CHAM b A%I%U%E%AI%O%KA%cv%",
    "GA%ei%NGUE%cj%cr%CHHA%JA%fu%NHUE%NHA%NHJA%TA%df%DA%eg%NUE%NA%ef%PA%PPA%dq%BA%er%MUE%MA%BBA%YA",
    "%RA%LA%VA%fh%SA%HA$be f AA&I&II&EI&U&OE&O&AI&AU&UE$is f YA&RA&LA&WA@AA40$b n K&G&NG$is f n NG",
    "$b n CH&T&N&P&Y&R&L&SS$is f n M(H@AA50$bh bt%o%l%s%w%aa%ag%an%ah%ar@AA5C$eu SPIRAL%gv%p gv%em",
    " gv!MYANMAR b KHAMTI GA&CA&cr&JA&fu&ct&ee&ez&ef&fe&eg&NA&SA&HA&HHA&FA$gy b KHAMTI REDUPLICATI",
    "ON$b KHAMTI XA&ZA&RA$vz KHAMTI OAY&QN&HM$z AITON hw&o&l$b AITON RA$f PAO KAREN cd%TAI LAING q",
    "d(qe$b SHWE PALAUNG cr(ck!TAI VIET b bn KO&ci KO&bn KHO&ci KHO&bn KHHO&ci KHHO&bn GO&ci GO&bn",
    " NGO&ci NGO&bn CO&ci CO&bn CHO&ci CHO&bn SO&ci SO&bn NYO&ci NYO&bn DO&ci DO&bn TO&ci TO&bn TH",
    "O&ci THO&bn NO&ci NO&bn BO&ci BO&bn PO&ci PO&bn PHO&ci PHO&bn FO&ci FO&bn MO&ci MO&bn YO&ci Y",
    "O&bn RO&ci RO&bn LO&ci LO&bn VO&ci VO&bn HO&ci HO&bn O&ci O%MAI KANG%be AA&I&UE&U&E&O%MAI KHI",
    "T%be IA&UEA&UA&AUE&AY&AN&AM%cd MAI EK(NUENG(THO(SONG@AADB%z KON&NUENG&SAM&HO HOI&KOI KOI!MEET",
    "EI MAYEK b E&O&cr&ct&ee&ez&ef&fe&eq&ck&fh%be f II(UU(AAI(AU(AAU%CHEIKHAN%AHANG KHUDAM%ANJI%lp",
    " REPETITION r%mj REPETITION r%be f fv%fd@AB01!ETHIOPIC lp TTHU%TTHI%TTHAA%TTHEE%TTHE%TTHO@AB0",
    "9%DDHU%DDHI%DDHAA%DDHEE%DDHE%DDHO@AB11%DZU%DZI%DZAA%DZEE%DZE%DZO@AB20%CCHHA%CCHHU%CCHHI%CCHHA",
    "A%CCHHEE%CCHHE%CCHHO@AB28%BBA%BBU%BBI%BBAA%BBEE%BBE%BBO@AB30!eb c b pj gf&A REVERSED-SCHWA&BL",
    "ACKLETTER E&pj E&E a vn&LENIS F&if G a qn&L a cu LAZY S)p ae bg)ae bi&M a qn&N a qn&ENG a qn&",
    "BLACKLETTER O)a y&bw O a y&cu OE&by OE a y*bf y(O OPEN-O*a y&STIRRUP R$b c e R a i LEG$c b R ",
    "WITHOUT HANDLE&p R&R a qn&p R a qn&if R)a bi&BASELINE ESH&U a ec i LEG(ak a ec i LEG&UI&by UI",
    "&U a k x&CHI(a bn i bi*k SERIF&X a bn i bi)bz k LEG,g bn i bi,a SERIF&Y a ec i LEG!gy dn a cu",
    " dn$b c HENG&L a cu LAZY S)ae bg&U a k x!eb c b SAKHA YAT&lh E&bw OE&UO&cu gf!id b c e fo!eb ",
    "c b DZ hk a ex x&TS hk a ex x&by R a ae bg!gy b c by W%k gd%i gd@AB70!CHEROKEE c b A&E&I&O&U&",
    "V&GA&KA&GE&GI&GO&GU&GV&HA&HE&HI&HO&HU&HV&LA&LE&LI&LO&LU&LV&MA&ME&MI&MO&MU&NA&HNA&NAH&NE&NI&NO",
    "&NU&NV&QUA&QUE&QUI&QUO&QUU&QUV&SA&S&SE&SI&SO&SU&SV&DA&TA&DE&TE&DI&TI&DO&DU&DV&DLA&TLA&TLE&TLI",
    "&TLO&TLU&TLV&hb&TSE&TSI&TSO&TSU&TSV&WA&WE&WI&WO&WU&WV&YA!MEETEI MAYEK b KOK&SAM&LAI&MIT&PA&NA",
    "&CHIL&TIL&KHOU&NGOU&THOU&WAI&YANG&HUK&UN&I&PHAM&ATIYA&GOK&JHAM&RAI&BA&JIL&DIL&GHOU&DHOU&BHAM&",
    "KOK ry&LAI ry&MIT ry&PA ry&NA ry&TIL ry&NGOU ry&I ry%be f ONAP(INAP(ANAP(YENAP(SOUNAP(UNAP(CH",
    "EINAP(NUNG%CHEIKHEI%LUM IYEK%APUN IYEK@ABF0%bh bt&o&l&s&w&aa&ag&an&ah&ar@D7B0!qs JUNGSEONG O-",
    "YEO%O-O-I%YO-A%YO-AE%YO-EO%U-YEO%U-I-I%YU-AE%YU-O%EU-A%EU-EO%EU-E%EU-O%I-YA-O%I-YAE%I-YEO%I-Y",
    "E%I-O-I%I-YO%I-YU%I-I%ARAEA-A%ARAEA-E@D7CB$JONGSEONG NIEUN-RIEUL%NIEUN-CHIEUCH%yn%SSANGTIKEUT",
    "-PIEUP%TIKEUT-PIEUP%TIKEUT-SIOS%TIKEUT-SIOS-KIYEOK%TIKEUT-CIEUC%TIKEUT-CHIEUCH%TIKEUT-THIEUTH",
    "%zy%RIEUL-KIYEOK-HIEUH%SSANGRIEUL-KHIEUKH%RIEUL-MIEUM-HIEUH%RIEUL-PIEUP-TIKEUT%RIEUL-PIEUP-PH",
    "IEUPH%RIEUL-YESIEUNG%RIEUL-YEORINHIEUH-HIEUH%KAPYEOUNRIEUL%MIEUM-NIEUN%MIEUM-SSANGNIEUN%SSANG",
    "MIEUM%MIEUM-PIEUP-SIOS%MIEUM-CIEUC%zd%PIEUP-RIEUL-PHIEUPH%PIEUP-MIEUM%ym%zc%PIEUP-CIEUC%PIEUP",
    "-CHIEUCH%SIOS-MIEUM%SIOS-KAPYEOUNPIEUP%SSANGSIOS-KIYEOK%SSANGSIOS-TIKEUT%SIOS-PANSIOS%SIOS-CI",
    "EUC%SIOS-CHIEUCH%SIOS-THIEUTH%SIOS-HIEUH%PANSIOS-PIEUP%PANSIOS-KAPYEOUNPIEUP%YESIEUNG-MIEUM%Y",
    "ESIEUNG-HIEUH%CIEUC-PIEUP%CIEUC-SSANGPIEUP%yk%PHIEUPH-SIOS%PHIEUPH-THIEUTH@F900!CJK COMPATIBI",
    "LITY IDEOGRAPH-#&&&&&&&&&&&&&&&&&&&&&&&&&&&&&&&&&&&&&&&&&&&&&&&&&&&&&&&&&&&&&&&&&&&&&&&&&&&&&",
    "&&&&&&&&&&&&&&&&&&&&&&&&&&&&&&&&&&&&&&&&&&&&&&&&&&&&&&&&&&&&&&&&&&&&&&&&&&&&&&&&&&&&&&&&&&&&&",
    "&&&&&&&&&&&&&&&&&&&&&&&&&&&&&&&&&&&&&&&&&&&&&&&&&&&&&&&&&&&&&&&&&&&&&&&&&&&&&&&&&&&&&&&&&&&&&",
    "&&&&&&&&&&&&&&&&&&&&&&&&&&&&&&&&&&&&&&&&&&&&&&&&&&&&&&&&&&&&&&&&&&&&&&&&&&&&&&&&&&&&&&&&&&&&&",
    "&&&&&&&&&@FA70&&&&&&&&&&&&&&&&&&&&&&&&&&&&&&&&&&&&&&&&&&&&&&&&&&&&&&&&&&&&&&&&&&&&&&&&&&&&&&&",
    "&&&&&&&&&&&&&&&&&&&&&&&&&&&@FB00!eb c gh FF&FI&FL&FFI&FFL&bz S T&ST@FB13!vg c gh MEN NOW(ECH(",
    "INI&VEW NOW&MEN XEH@FB1D!HEBREW b YOD a HIRIQ$nl JUDEO-SPANISH VARIKA$gh YIDDISH YOD YOD PATA",
    "H$b ALTERNATIVE AYIN%WIDE ba&DALET&HE&gx&LAMED&n MEM&RESH&TAV%ALTERNATIVE al f%ha a ha q(SIN ",
    "q(it g ha q*SIN q%ba a PATAH(QAMATS(MAPIQ%BET a it%le a it%DALET a it%HE a MAPIQ%VAV a it%na ",
    "a it@FB38%TET a it%YOD a it%n gx a it%gx a it%LAMED a it@FB3E%MEM a it@FB40%ej a it%lm a it@F",
    "B43%n PE a it%PE a it@FB46%TSADI a it%QOF a it%RESH a it%ha a it%TAV a it%VAV a HOLAM%BET a R",
    "AFE%gx a RAFE%PE a RAFE$gh ba LAMED!jo b ba WASLA u d(n d%BEEH u d&n d&ab d&bs d%PEH u d&n d&",
    "ab d&bs d%BEHEH u d&n d&ab d&bs d%TTEHEH u d&n d&ab d&bs d%TEHEH u d&n d&ab d&bs d%TTEH u d&n",
    " d&ab d&bs d%VEH u d&n d&ab d&bs d%PEHEH u d&n d&ab d&bs d%DYEH u d&n d&ab d&bs d%NYEH u d&n ",
    "d&ab d&bs d%TCHEH u d&n d&ab d&bs d%TCHEHEH u d&n d&ab d&bs d%DDAHAL u d&n d%DAHAL u d&n d%DU",
    "L u d&n d%DDAL u d&n d%JEH u d&n d%RREH u d&n d%KEHEH u d&n d&ab d&bs d%GAF u d&n d&ab d&bs d",
    "%GUEH u d&n d&ab d&bs d%NGOEH u d&n d&ab d&bs d%fk GHUNNA u d(n d%RNOON u d&n d&ab d&bs d%hf ",
    "a ax j u d*n d&GOAL u d(n d(ab d(bs d&DOACHASHMEE u d(n d(ab d(bs d%ax BARREE u d(n d(a ft j ",
    "u d+n d$z q j&m%l aw j(m%s aw j(m(cy bj j*m%w aw j(m%p af ak m%l aw tu j)m%bi%c TAH j(m%WASLA",
    " j@FBD3$b NG u d&n d&ab d&bs d%U u d&n d%OE u d&n d%YU u d&n d%U a ft j u d%VE u d&n d%KIRGHI",
    "Z OE u d(n d&YU u d(n d%E u d&n d&ab d&bs d%UIGHUR KAZAKH KIRGHIZ ba cx ab d+bs d$gh ax a ft ",
    "j a ba u d,n d+AE u d,n d+fq u d,n d+U u d,n d+OE u d,n d+YU u d,n d+E u d,n d,ab d%UIGHUR KI",
    "RGHIZ ax a ft j a ba cx u d:n d:ab d$b FARSI ax u d(n d(ab d(bs d$gh ax a ft j a bx u d+br u ",
    "d+aj u d+ba cx u d+ax u d%BEH a bx u d(br u d(dt u d(aj u d(ba cx u d(ax u d%TEH a bx u d(br ",
    "u d(dt u d(aj u d(ba cx u d(ax u d%THEH a bx u d(aj u d(ba cx u d(ax u d%bx a br u d(aj u d%b",
    "r a bx u d(aj u d%dt a bx u d(br u d(aj u d%ht a bx u d(br u d(dt u d(aj u d%SAD a br u d(aj ",
    "u d%DAD a bx u d(br u d(dt u d(aj u d%TAH a br u d(aj u d%ZAH a aj u d%ge a bx u d(aj u d%kt ",
    "a bx u d(aj u d%FEH a bx u d(br u d(dt u d(aj u d(ba cx u d(ax u d%QAF a br u d(aj u d(ba cx ",
    "u d(ax u d%gx a ba u d(bx u d(br u d(dt u d(fs u d(aj u d(ba cx u d(ax u d%fs a bx u d(br u d",
    "(dt u d(aj u d(ba cx u d(ax u d%aj a bx u d(br u d(dt u d(aj u d(ba cx u d(ax u d%fk a bx u d",
    "(br u d(dt u d(aj u d(ba cx u d(ax u d%hf a bx u d(aj u d(ba cx u d(ax u d%ax a bx u d(br u d",
    "(dt u d(aj u d(ba cx u d(ax u d%THAL a ns ba u d%gt a ns ba u d%ba cx a ns ba u d%SHADDA a vm",
    " u d(vu u d(nz u d(po u d(ng u d(ns ba u d%ax a ft j a gt n d+ml n d+aj n d+fk n d+ba cx n d+",
    "ax n d%BEH a gt n d(ml n d(aj n d(fk n d(ba cx n d(ax n d%TEH a gt n d(ml n d(aj n d(fk n d(b",
    "a cx n d(ax n d%THEH a gt n d(ml n d(aj n d(fk n d(ba cx n d(ax n d%FEH a ba cx n d(ax n d%QA",
    "F a ba cx n d(ax n d%gx a ba n d(fs n d(aj n d(ba cx n d(ax n d%fs a aj n d(ba cx n d(ax n d%",
    "aj a ba n d(aj n d%fk a gt n d(ml n d(aj n d(fk n d(ba cx n d(ax n d%ba cx a ns ba n d%ax a g",
    "t n d(ml n d(aj n d(fk n d(ba cx n d(ax n d(ft j a bx ab d+br ab d+dt ab d+aj ab d+hf ab d%BE",
    "H a bx ab d(br ab d(dt ab d(aj ab d(hf ab d%TEH a bx ab d(br ab d(dt ab d(aj ab d(hf ab d%THE",
    "H a aj ab d%bx a br ab d(aj ab d%br a bx ab d(aj ab d%dt a bx ab d(aj ab d%ht a bx ab d(br ab",
    " d(dt ab d(aj ab d%SAD a br ab d(dt ab d(aj ab d%DAD a bx ab d(br ab d(dt ab d(aj ab d%TAH a ",
    "br ab d%ZAH a aj ab d%ge a bx ab d(aj ab d%kt a bx ab d(aj ab d%FEH a bx ab d(br ab d(dt ab d",
    "(aj ab d%QAF a br ab d(aj ab d%gx a bx ab d(br ab d(dt ab d(fs ab d(aj ab d%fs a bx ab d(br a",
    "b d(dt ab d(aj ab d(hf ab d%aj a bx ab d(br ab d(dt ab d(aj ab d%fk a bx ab d(br ab d(dt ab d",
    "(aj ab d(hf ab d%hf a bx ab d(aj ab d(ns ba ab d%ax a bx ab d(br ab d(dt ab d(aj ab d(hf ab d",
    "(ft j a aj bs d+hf bs d%BEH a aj bs d(hf bs d%TEH a aj bs d(hf bs d%THEH a aj bs d(hf bs d%ht",
    " a aj bs d(hf bs d%jw a aj bs d(hf bs d%gx a fs bs d(aj bs d%fs a aj bs d%fk a aj bs d(hf bs ",
    "d%ax a aj bs d(hf bs d%SHADDA a nz bs d(po bs d(ng bs d%TAH a ba cx u d(ax u d%ge a ba cx u d",
    "(ax u d%kt a ba cx u d(ax u d%ht a ba cx u d(ax u d%jw a ba cx u d(ax u d%br a ba cx u d(ax u",
    " d%bx a ba cx u d(ax u d%dt a ba cx u d(ax u d%SAD a ba cx u d(ax u d%DAD a ba cx u d(ax u d%",
    "jw a bx u d(br u d(dt u d(aj u d(gt u d%ht a gt u d%SAD a gt u d%DAD a gt u d%TAH a ba cx n d",
    "(ax n d%ge a ba cx n d(ax n d%kt a ba cx n d(ax n d%ht a ba cx n d(ax n d%jw a ba cx n d(ax n",
    " d%br a ba cx n d(ax n d%bx a ba cx n d(ax n d%dt a ba cx n d(ax n d%SAD a ba cx n d(ax n d%D",
    "AD a ba cx n d(ax n d%jw a bx n d(br n d(dt n d(aj n d(gt n d%ht a gt n d%SAD a gt n d%DAD a ",
    "gt n d%jw a bx ab d(br ab d(dt ab d(aj ab d%ht a hf ab d%jw a hf ab d%TAH a aj ab d%ht a bx b",
    "s d(br bs d(dt bs d%jw a bx bs d(br bs d(dt bs d%TAH a aj bs d%ZAH a aj bs d%ba a ui n d)u d!",
    "ORNATE k ew$i ew!jo gh RAHIMAHU ALLAAH%RADI ALLAAHU ANH(ANHAA(ANHUM(ANHUMAA(ANHUNNA%SALLALLAA",
    "HU ALAYHI WA-AALIH%ALAYHI wr%ALAYHIM wr%ALAYHIMAA wr%ALAYHI AS-SALAATU WAS-SALAAM%QUDDISA SIR",
    "RAH%SALLALLAHU ALAYHI WAAALIHEE WA-SALLAM%ALAYHAA wr%TABAARAKA WA-TAAALAA%RAHIMAHUM ALLAAH%TE",
    "H a bx a aj ab d(br a bx n d+ab d*aj ab d(dt a aj ab d(aj a bx ab d*br ab d*dt ab d%bx a aj a",
    " br n d+ab d%br a aj a ax n d*ba cx n d%ht a br a bx ab d(bx a br ab d*ba cx n d(aj a br n d+",
    "ab d*bx ab d*aj n d+ab d%SAD a br a br n d+ab d(aj a aj n d%jw a br a aj n d+ab d(bx a ax n d",
    "(aj a dt n d+ab d*aj n d+ab d%DAD a br a ba cx n d(dt a aj n d+ab d%TAH a aj a br n d+ab d*aj",
    " ab d*ax n d%ge a bx a aj n d(aj a aj n d+ab d*ba cx n d%kt a aj a aj n d*ax n d*ba cx n d%FE",
    "H a dt a aj n d+ab d%QAF a aj a br n d*aj n d%fs a br a aj n d*ax n d*ba cx n d(bx a bx ab d+",
    "n d(dt a aj n d+ab d(aj a br n d+ab d%aj a br a bx ab d*aj ab d*ax n d(bx a br ab d*aj ab d(d",
    "t a bx ab d*aj ab d@FD92(bx a dt ab d%hf a aj a bx ab d*aj ab d%fk a br a aj ab d*ba cx n d(b",
    "x a aj n d+ab d*ba cx n d(aj a ax n d*ba cx n d%ax a aj a aj n d+ab d%BEH a dt a ax n d%TEH a",
    " bx a ax n d*ba cx n d(dt a ax n d*ba cx n d(aj a ax n d*ba cx n d%bx a aj a ax n d(br a ba c",
    "x n d(aj a ba cx n d%ht a dt a ba cx n d%SAD a br a ax n d%jw a br a ax n d%DAD a br a ax n d",
    "%fs a bx a ax n d(aj a ax n d%ax a br a ax n d(bx a ax n d(aj a ax n d%aj a aj a ax n d%QAF a",
    " aj a ax n d%fk a br a ax n d%QAF a aj a br ab d%fs a br a aj ab d%ge a aj a ax n d%gx a aj a",
    " ax n d%fk a bx a br ab d%aj a dt a ax n d%fs a bx a aj ab d%gx a aj a aj n d%fs a bx a aj n ",
    "d%fk a bx a br n d%bx a br a ax n d%br a bx a ax n d%aj a bx a ax n d%FEH a aj a ax n d%BEH a",
    " br a ax n d%gx a aj a aj ab d%ge a bx a aj ab d%SAD a aj a aj ab d%ht a dt a ax n d%fk a bx ",
    "a ax n d@FDCF%SALAAMUHU ALAYNAA@FDF0%SALLA USED AS KORANIC cl f u d%QALA USED AS KORANIC cl f",
    " u d%ALLAH u d%AKBAR u d%MOHAMMAD u d%SALAM u d%RASOUL u d%ALAYHE u d%WASALLAM u d%SALLA u d%",
    "SALLALLAHOU ALAYHE WASALLAM%JALLAJALALOUHOU!RIAL f!jo gh BISMILLAH AR-RAHMAN AR-RAHEEM%SUBHAA",
    "NAHU WA TAAALAA%AZZA WA JALL!wn SELECTOR-1$SELECTOR-2$SELECTOR-3$SELECTOR-4$SELECTOR-5$SELECT",
    "OR-6$SELECTOR-7$SELECTOR-8$SELECTOR-9$SELECTOR-10$SELECTOR-11$SELECTOR-12$SELECTOR-13$SELECTO",
    "R-14$SELECTOR-15$SELECTOR-16!ze d fm af de(lx de)ea cl(gn(oo(hw r(hi r(k v rx as(i v rx BRAKC",
    "ET(bf ro@FE20!fj gh k ao%i ao$p bg k ao&i ao$cw k ao%i ao$CONJOINING cw$gh k ao m%i ao m$bg k",
    " ao m%i ao m$cw k ao m%i ao m$CONJOINING cw m$mo TITLO k ao&i ao!ze d fm af l q LEADER(EM fa(",
    "EN fa(bn cs(WAVY bn cs(k ew(i ew(k hu as(i hu as(k ko in as(i ko in as(k t rx as(i t rx as(k ",
    "p dw as(i p dw as(k dw as(i dw as(k gl as(i gl as(k v gl as(i v gl as!SESAME q!v SESAME q!ze ",
    "d fm af k au as(i au as!ne sg!CENTRELINE sg!WAVY sg!p WAVY sg!ne bn cs!CENTRELINE bn cs!WAVY ",
    "bn cs!c de$lx de$ea cl@FE54$oo$gn$hi r$hw r$EM fa$k ew$i ew$k hu as$i hu as$k ko in as$i ko i",
    "n as$cz f$rd$ek$al f$xf$dg f$dj f$fx f@FE68$jk io$tc f$PERCENT f$vk AT@FE70!jo ui u d$TATWEEL",
    " a ui j$vm u d$dr FRAGMENT$vu u d@FE76$nz u d%bs d$po u d%bs d$ng u d%bs d$SHADDA u d%bs d$SU",
    "KUN u d%bs d$b ft u d%ba a MADDA j u d*n d(ft j u d*n d%fq a ft j u d*n d%ba a ft m u d*n d%a",
    "x a ft j u d*n d*ab d*bs d%ba u d&n d%BEH u d&n d&ab d&bs d%TEH MARBUTA u d(n d&u d&n d&ab d&",
    "bs d%THEH u d&n d&ab d&bs d%bx u d&n d&ab d&bs d%br u d&n d&ab d&bs d%dt u d&n d&ab d&bs d%DA",
    "L u d&n d%THAL u d&n d%gt u d&n d%ml u d&n d%ht u d&n d&ab d&bs d%jw u d&n d&ab d&bs d%SAD u ",
    "d&n d&ab d&bs d%DAD u d&n d&ab d&bs d%TAH u d&n d&ab d&bs d%ZAH u d&n d&ab d&bs d%ge u d&n d&",
    "ab d&bs d%kt u d&n d&ab d&bs d%FEH u d&n d&ab d&bs d%QAF u d&n d&ab d&bs d%gx u d&n d&ab d&bs",
    " d%fs u d&n d&ab d&bs d%aj u d&n d&ab d&bs d%fk u d&n d&ab d&bs d%hf u d&n d&ab d&bs d%fq u d",
    "&n d%ba cx u d(n d%ax u d&n d&ab d&bs d$gh fs a ba a MADDA j u d,n d*ft j u d,n d+m u d,n d)u",
    " d)n d@FEFF!bt WIDTH NO-BREAK jd@FF01!FULLWIDTH hw r$gz r$cz f$tc f$PERCENT f$rd$qh$k ew$i ew",
    "$ek$al f$de$xf$ea cl$io$bh bt%o%l%s%w%aa%ag%an%ah%ar$gn$oo$dg f$fx f$dj f$hi r$vk AT$eb e b A",
    "(B(C(D(E(F(G(H(I(J(K(L(M(N(O(P(Q(R(S(T(U(V(W(X(Y(Z$k au as$jk io$i au as$cb fi$bn cs$cp fi$eb",
    " c b A(B(C(D(E(F(G(H(I(J(K(L(M(N(O(P(Q(R(S(T(U(V(W(X(Y(Z$k hu as$af cs$i hu as$bg$k v ew$i v ",
    "ew!HALFWIDTH lx ea cl$k gl as$i gl as$lx de$oz ae q%b WO&c A(I(U(E(O(YA(YU(YO(TU$vv PROLONGED",
    " kz r$oz b A&I&U&E&O&KA&KI&KU&KE&KO&SA&SI&SU&SE&SO&TA&TI&TU&TE&TO&NA&NI&NU&NE&NO&HA&HI&HU&HE&",
    "HO&MA&MI&MU&ME&MO&YA&YU&YO&RA&RI&RU&RE&RO&WA&N%qg kz r%SEMI-VOICED kz r$qs qr%b rw&yl&KIYEOK-",
    "SIOS&NIEUN&xp&xq&su&yn&RIEUL&xx&xy&xz&ya&zh&zg&xw&MIEUM&PIEUP&ym&xu&SIOS&SSANGSIOS&IEUNG&CIEU",
    "C&yk&rg&rv&sr&sj&HIEUH@FFC2&A&AE&YA&YAE&EO&E@FFCA&YEO&YE&O&WA&WAE&OE@FFD2&YO&U&WEO&WE&WI&YU@F",
    "FDA&EU&YI&I@FFE0!FULLWIDTH CENT f$POUND f$dh f$cw$BROKEN ak$YEN f$WON f@FFE8!HALFWIDTH FORMS ",
    "bd af$am h$bp h$ac h$bj h$t au$v av@FFF9!INTERLINEAR ANNOTATION ANCHOR%im%TERMINATOR!OBJECT R",
    "EPLACEMENT ql!REPLACEMENT ql@10000!LINEAR B lp B008 A&B038 E&B028 I&B061 O&B010 U&B001 DA&B04",
    "5 DE&B007 DI&B014 DO&B051 DU&B057 JA&B046 JE@1000D&B036 JO&B065 JU&B077 KA&B044 KE&B067 KI&B0",
    "70 KO&B081 KU&B080 MA&B013 ME&B073 MI&B015 MO&B023 MU&B006 NA&B024 NE&B030 NI&B052 NO&B055 NU",
    "&B003 PA&B072 PE&B039 PI&B011 PO&B050 PU&B016 QA&B078 QE&B021 QI&B032 QO@10028&B060 RA&B027 R",
    "E&B053 RI&B002 RO&B026 RU&B031 SA&B009 SE&B041 SI&B012 SO&B058 SU&B059 TA&B004 TE&B037 TI&B00",
    "5 TO&B069 TU&B054 WA&B075 WE&B040 WI&B042 WO@1003C&B017 ZA&B074 ZE@1003F&B020 ZO&B025 A2&B043",
    " A3&B085 AU&B071 DWE&B090 DWO&B048 NWA&B029 PU2&B062 PTE&B076 RA2&B033 RA3&B068 RO2&B066 TA2&",
    "B087 TWE&B091 l@10050%z B018&B019&B022&B034&B047&B049&B056&B063&B064&B079&B082&B083&B086&B089",
    "@10080%vs B100 MAN&B102 WOMAN&B104 DEER&B105 EQUID&B105F MARE&B105M STALLION&B106F EWE&B106M ",
    "RAM&B107F SHE-GOAT&B107M HE-GOAT&B108F SOW&B108M BOAR&B109F COW&B109M BULL&B120 WHEAT&B121 BA",
    "RLEY&B122 OLIVE&B123 SPICE&B125 CYPERUS%ut B127 KAPO&B128 KANAKO%vs B130 OIL&B131 WINE&B132%u",
    "t B133 AREPA&B135 MERI%vs B140 BRONZE&B141 GOLD&B142&B145 WOOL&B146&B150&B151 ga&B152&B153&B1",
    "54%ut B156 TURO2%vs B157&B158&B159 CLOTH&B160&B161&B162 GARMENT&B163 ARMOUR&B164&B165&B166&B1",
    "67&B168&B169&B170&B171&B172&B173 MONTH&B174&B176 TREE&B177&B178&B179&B180&B181&B182&B183&B184",
    "&B185&B189&B190&B191 HELMET&B220 FOOTSTOOL&B225 BATHTUB&B230 SPEAR&B231 h&B232&B233 SWORD&B23",
    "4&B236&B240 WHEELED CHARIOT&B241 CHARIOT&B242 CHARIOT FRAME&B243 WHEEL&B245&B246%ut B247 DIPT",
    "E%vs B248&B249&B251&B252&B253&B254 DART&B255&B256&B257&B258&B259&VESSEL B155(B200(B201(B202(B",
    "203(B204(B205(B206(B207(B208(B209(B210(B211(B212(B213(B214(B215(B216(B217(B218(B219(B221(B222",
    "(B226(B227(B228(B229(B250(B305@10100!AEGEAN mj im cs&q$nw r@10107$cz o%l%s%w%aa%ag%an%ah%ar%c",
    "a%fc%je%kd%gg%kx%gb%lu%fn%o aq%l aq%s aq%w aq%aa aq%ag aq%an aq%ah aq%ar aq%o az%l az%s az%w ",
    "az%aa az%ag az%an az%ah az%ar az%ca az%fc az%je az%kd az%gg az%kx az%gb az%lu az%fn az@10137$",
    "WEIGHT BASE UNIT%FIRST sp%to sp%nt sp%FOURTH sp$DRY us FIRST sp$LIQUID us FIRST sp$us to sp%n",
    "t sp!id ACROPHONIC ATTIC o gi(ao(DRACHMA&aa&gg&aa aq(az&gg az&aa ts&ca ts&gg ts&o aq ts&aa aq",
    " ts&o az ts&aa az ts(sn&ca sn&gg sn&o aq sn&aa aq sn&o az sn&ca az sn&gg az sn&ca MNAS%HERAEU",
    "M o PLETHRON%va o%HERMIONIAN o%EPIDAUREAN l%va l%CYRENAIC l DRACHMAS%EPIDAUREAN l DRACHMAS%TR",
    "OEZENIAN aa&ca(ir d%HERMIONIAN ca%MESSENIAN ca%va ca&je%TROEZENIAN gg(ir d%HERMIONIAN gg%va g",
    "g&o aq&s aq%EPIDAUREAN aa aq%TROEZENIAN aa aq%va aa aq%CARYSTIAN aa aq%NAXIAN aa aq%va o az&a",
    "a az%DELPHIC aa MNAS%STRATIAN gg MNAS$o ao f(ir d$l ra f$s mf f$YEAR f$TALENT f$DRACHMA f$OBO",
    "L f$l OBOLS f$s OBOLS f$w OBOLS f$aa OBOLS f$METRETES f$KYATHOS BASE f$LITRA f$OUNKIA f$XESTE",
    "S f$ARTABE f$AROURA f$GRAMMA f$TRYBLION BASE f$bt f$o gi f$SINUSOID f$INDICTION f!NOMISMA f@1",
    "0190!ROMAN SEXTANS f$UNCIA f$SEMUNCIA f$SEXTULA f$DIMIDIA SEXTULA f$SILIQUA f$DENARIUS f$QUIN",
    "ARIUS f$SESTERTIUS f$DUPONDIUS f$AS f$CENTURIAL f!ASCIA z@101A0!id z TAU RHO@101D0!PHAISTOS D",
    "ISC f PEDESTRIAN&PLUMED jt&TATTOOED jt&CAPTIVE&CHILD&WOMAN&HELMET&GAUNTLET&TIARA&h&BOW&SHIELD",
    "&CLUB&MANACLES&MATTOCK&SAW&LID&BOOMERANG&CARPENTRY PLANE&DOLIUM&COMB&SLING&COLUMN&BEEHIVE&SHI",
    "P&ga&HIDE&BULLS LEG&CAT&RAM&EAGLE&DOVE&TUNNY&BEE&PLANE TREE&VINE&PAPYRUS&ROSETTE&LILY&OX BACK",
    "&FLUTE&GRATER&STRAINER&c AXE&WAVY BAND&fj mc y@10280!LYCIAN b A%E%B%BH%G%D%I%W%Z%TH%J%K%Q%L%M",
    "%N%MM%NN%U%P%KK%R%S%T%TT%AN%EN%H%X@102A0!CARIAN b A%P2%D%L%UUU%R%LD%A2%Q%B%M%O%D2%T%SH%SH2%S%",
    "C-18%U%NN%X%N%TT2%P%SS%I%E%UUUU%K%K2%ND%UU%G%G2%ST%ST2%NG%II%C-39%TT%UUU2%RR%MB%MB2%MB3%MB4%L",
    "D2%E2%UUU3@102E0!ic EPACT st r%bh o&l&s&w&aa&ag&an&ah&ar%cz ca&fc&je&kd&gg&kx&gb&lu&fn&o aq&l",
    " aq&s aq&w aq&aa aq&ag aq&an aq&ah aq&ar aq@10300!du oy b A&BE&KE&DE&E&VE&ZE&HE&fp&I&KA&EL&EM",
    "&EN&ESH&O&PE&gc&KU&ER&ES&TE&U&EKS&PHE&KHE&EF&ERS&CHE&II&UU&ESS%px o&aa&ca&gg@1032D%b YE&NORTH",
    "ERN TSE&SOUTHERN TSE!GOTHIC b AHSA%BAIRKAN%GIBA%DAGS%AIHVUS%QAIRTHRA%IUJA%HAGL%THIUTH%EIS%KUS",
    "MA%LAGUS%MANNA%NAUTHS%JER%URUS%PAIRTHRA%fn%RAIDA%SAUIL%TEIWS%WINJA%FAIHU%IGGWS%HWAIR%OTHAL%ar",
    " aq@10350!du PERMIC b AN&BUR&GAI&DOI&E&ZHOI&DZHOI&ZATA&DZITA&I&KOKE&LEI&MENOE&NENOE&VOOI&PEEI",
    "&REI&SII&TAI&U&CHERY&SHOOI&SHCHOOI&YRY&YERU&O&OO&EF&HA&TSIU&VER&YER&YERI&YAT&IE&YU&YA&IA!fj d",
    "u PERMIC b AN(DOI(ZATA(NENOE(SII@10380!UGARITIC b ALPA%jr%GAMLA%cv%jl%HO%WO%ZETA%HOTA%TET%YOD",
    "%gx%ha%mu%MEM%DHAL%ej%ZU%SAMKA%ge%PU%SADE%QOPA%RASHA%THANNA%kt%TO%I%U%SSU@1039F$mj ue!du PERS",
    "IAN f A&I&U&KA&KU&GA&GU&XA&CA&JA&JI&TA&TU&DA&DI&DU&df&PA&BA&FA&NA&NU&MA&MI&MU&YA&VA&VI&RA&RU&",
    "LA&SA&ZA&ck&fh&HA@103C8&AURAMAZDAA&AURAMAZDAA-2&AURAMAZDAAHA&XSHAAYATHIYA&DAHYAAUSH&DAHYAAUSH",
    "-2&BAGA&BUUMISH%mj ue%cz o&l&ca&fc&aq@10400!DESERET e b bz I(E(A(AH(O(OO&ec I(E(A(AH(O(OO&AY&",
    "OW&WU&YEE&H&PEE&BEE&TEE&DEE&CHEE&JEE&KAY&GAY&EF&VEE&ETH&THEE&ES&ZEE&ESH&ZHEE&ER&EL&EM&EN&ENG&",
    "OI&EW$c b bz I(E(A(AH(O(OO&ec I(E(A(AH(O(OO&AY&OW&WU&YEE&H&PEE&BEE&TEE&DEE&CHEE&JEE&KAY&GAY&E",
    "F&VEE&ETH&THEE&ES&ZEE&ESH&ZHEE&ER&EL&EM&EN&ENG&OI&EW!SHAVIAN b PEEP%TOT%KICK%FEE%THIGH%SO%SUR",
    "E%CHURCH%YEA%HUNG%BIB%DEAD%GAG%VOW%THEY%ZOO%us%JUDGE%WOE%HA-HA%LOLL%MIME%IF%EGG%en%ADO%ON%WOO",
    "L%OUT%AH%ROAR%ej%EAT%AGE%ICE%UP%OAK%OOZE%OIL%AWE%ARE%OR%AIR%ERR%ARRAY%EAR%IAN%YEW!OSMANYA b b",
    "a%BA%TA%JA%XA%cv%DEEL%RA%SA%SHIIN%eg%CAYN%GA%FA%QAAF%KAAF%LAAN%MIIN%NUUN%fq%HA%YA%A%E%I%O%U%A",
    "A%EE%OO@104A0$bh bt%o%l%s%w%aa%ag%an%ah%ar@104B0!OSAGE e b A&AI&ge&AH&BRA&cr&EHCHA&E&EIN&HA&H",
    "YA&I&KA&EHKA&KYA&LA&MA&NA&O&OIN&PA&EHPA&SA&ck&TA&EHTA&hb&EHTSA&mi&eg&U&WA&cv&ei&ZA&ZHA@104D8$",
    "c b A&AI&ge&AH&BRA&cr&EHCHA&E&EIN&HA&HYA&I&KA&EHKA&KYA&LA&MA&NA&O&OIN&PA&EHPA&SA&ck&TA&EHTA&h",
    "b&EHTSA&mi&eg&U&WA&cv&ei&ZA&ZHA@10500!ELBASAN b A%BE%CE%CHE%DE%NDE%DHE%EI%E%FE%GE%GJE%HE%I%JE",
    "%KE%LE%LLE%ME%NE%NA%NJE%O%PE%QE%RE%RRE%SE%gc%TE%fp%U%VE%XE%Y%ZE%ZHE%GHE%GHAMMA%KHE@10530!CAUC",
    "ASIAN ALBANIAN b ALT&BET&GIM&DAT&EB&ZARL&EYN&ZHIL&TAS&cr&YOWD&ZHA&IRB&ck&LAN&INYA&XEYN&DYAN&C",
    "AR&JHOX&KAR&LYIT&HEYT&QAY&AOR&CHOY&CHI&CYAY&MAQ&QAR&NOWC&DZYAY&SHAK&JAYN&ON&TYAY&FAM&DZAY&CHA",
    "T&PEN&GHEYS&RAT&SEYK&VEYZ&TIWR&SHOY&IWN&CYAW&CAYN&YAYD&PIWR&KIW@1056F%CITATION r!VITHKUQI e b",
    " A&BBE&BE&CE&CHE&DE&DHE&EI&E&FE&GA@1057C&HA&HHA&I&IJE&JE&KA&LA&LLA&ME&NE&NJE&O&PE&QA&RE@1058C",
    "&SE&gc&TE&fp&U&VE&XE@10594&Y&ZE@10597$c b A&BBE&BE&CE&CHE&DE&DHE&EI&E&FE&GA@105A3&HA&HHA&I&IJ",
    "E&JE&KA&LA&LLA&ME&NE&NJE&O&PE&QA&RE@105B3&SE&gc&TE&fp&U&VE&XE@105BB&Y&ZE@10600!LINEAR A f AB0",
    "01&AB002&AB003&AB004&AB005&AB006&AB007&AB008&AB009&AB010&AB011&AB013&AB016&AB017&AB020&AB021&",
    "AB021F&AB021M&AB022&AB022F&AB022M&AB023&AB023M&AB024&AB026&AB027&AB028&A028B&AB029&AB030&AB03",
    "1&AB034&AB037&AB038&AB039&AB040&AB041&AB044&AB045&AB046&AB047&AB048&AB049&AB050&AB051&AB053&A",
    "B054&AB055&AB056&AB057&AB058&AB059&AB060&AB061&AB065&AB066&AB067&AB069&AB070&AB073&AB074&AB07",
    "6&AB077&AB078&AB079&AB080&AB081&AB082&AB085&AB086&AB087&A100-102&AB118&AB120&A120B&AB122&AB12",
    "3&AB131A&AB131B&A131C&AB164&AB171&AB180&AB188&AB191&A301&A302&A303&A304&A305&A306&A307&A308&A",
    "309A&A309B&A309C&A310&A311&A312&A313A&A313B&A313C&A314&A315&A316&A317&A318&A319&A320&A321&A32",
    "2&A323&A324&A325&A326&A327&A328&A329&A330&A331&A332&A333&A334&A335&A336&A337&A338&A339&A340&A",
    "341&A342&A343&A344&A345&A346&A347&A348&A349&A350&A351&A352&A353&A354&A355&A356&A357&A358&A359",
    "&A360&A361&A362&A363&A364&A365&A366&A367&A368&A369&A370&A371&A400-VAS&A401-VAS&A402-VAS&A403-",
    "VAS&A404-VAS&A405-VAS&A406-VAS&A407-VAS&A408-VAS&A409-VAS&A410-VAS&A411-VAS&A412-VAS&A413-VAS",
    "&A414-VAS&A415-VAS&A416-VAS&A417-VAS&A418-VAS&A501&A502&A503&A504&A505&A506&A508&A509&A510&A5",
    "11&A512&A513&A515&A516&A520&A521&A523&A524&A525&A526&A527&A528&A529&A530&A531&A532&A534&A535&",
    "A536&A537&A538&A539&A540&A541&A542&A545&A547&A548&A549&A550&A551&A552&A553&A554&A555&A556&A55",
    "7&A559&A563&A564&A565&A566&A568&A569&A570&A571&A572&A573&A574&A575&A576&A577&A578&A579&A580&A",
    "581&A582&A583&A584&A585&A586&A587&A588&A589&A591&A592&A594&A595&A596&A598&A600&A601&A602&A603",
    "&A604&A606&A608&A609&A610&A611&A612&A613&A614&A615&A616&A617&A618&A619&A620&A621&A622&A623&A6",
    "24&A626&A627&A628&A629&A634&A637&A638&A640&A642&A643&A644&A645&A646&A648&A649&A651&A652&A653&",
    "A654&A655&A656&A657&A658&A659&A660&A661&A662&A663&A664@10740&A701 A&A702 B&A703 D&A704 E&A705",
    " F&A706 H&A707 J&A708 K&A709 L&A709-2 L2&A709-3 L3&A709-4 L4&A709-6 L6&A710 W&A711 X&A712 Y&A",
    "713 fo&A714 ABB&A715 BB&A717 DD&A726 EYYY&A732 JE@10760&A800&A801&A802&A803&A804&A805&A806&A8",
    "07@10780!gy b c e AA%ns jf gn&ao jf gn%c AE&e B&B a x@10787&DZ hk)a ex x*ix&DEZH hk&D a dr)x*",
    "g dr&cg E&fw cg bw E&FENG hk&RAMS ga&e G&G a x&e G a x&H a y&e H&HENG a x&mr J a y g x&LS hk&",
    "LZ hk&L a BELT&e L a BELT&L a ex x g BELT&LEZH(a ex x&by Y)a BELT&O a y&e OE&fw fo&Q&by R a b",
    "z LEG,g ex x&R a dr)te&e R&TC hk a ix&TS hk)a ex x&TESH hk&T a ex x&V a i x@107B2&e Y%hl cl a",
    " y%cg hl cl a y%BILABIAL ou%DENTAL ou%LATERAL ou%ALVEOLAR ou%ex ou a ex x%c S a ix@10800!CYPR",
    "IOT lp A%E%I%O%U%JA@10808%JO@1080A%KA%KE%KI%KO%KU%LA%LE%LI%LO%LU%MA%ME%MI%MO%MU%NA%NE%NI%NO%N",
    "U%PA%PE%PI%PO%PU%RA%RE%RI%RO%RU%SA%SE%SI%SO%SU%TA%TE%TI%TO%TU%WA%WE%WI%WO@10837%XA%XE@1083C%Z",
    "A@1083F%ZO!IMPERIAL ARAMAIC b kp&kq&le&pn&HE&fq&na&lw&TETH&mk&li&lz&MEM&ej&lm&AYIN&PE&mg&QOPH",
    "&RESH&ha&TAW@10857%il f%cz o&l&s&ca&fc&o aq(az&ca az!PALMYRENE b kp%kq%le%pn%HE%fq%na%lw%TETH",
    "%mk%li%lz%MEM%n ej%ej%lm%AYIN%PE%mg%QOPH%RESH%ha%TAW$jm FLEURON$ik FLEURON$cz o%l%s%w%aa%ca%f",
    "c!NABATAEAN b n kp%kp%n kq%kq%le%pn%n HE%HE%fq%na%lw%TETH%n mk%mk%n li%li%n lz%lz%n MEM%MEM%n",
    " ej%ej%lm%AYIN%PE%mg%QOPH%RESH%n ha%ha%TAW@108A7$cz o%l%s%w$CRUCIFORM cz w$cz aa%ca%fc%o aq@1",
    "08E0!HATRAN b kp%kq%le%DALETH-RESH%HE%fq%ZAYN%lw%TETH%mk%li%lz%MEM%ej%lm%AYN%PE%mg%QOPH@108F4",
    "%ha%TAW@108FB$cz o%aa%ca%fc%o aq!PHOENICIAN b ALF%BET%GAML%DELT%HE%WAU%ZAI%HET%TET%YOD%gx%LAM",
    "D%MEM%ej%SEMK%ge%PE%SADE%QOF%ROSH%ha%TAU$cz o%ca%fc%o aq%l%s@1091F$mj im!LYDIAN b A%B%G%D%E%V",
    "%I%Y%K%L%M%N%O%R%SS%T%U%F%Q%S%TT%AN%EN%LY%NN%C@1093F$jf r@10980!MEROITIC HIEROGLYPHIC b A&E&I",
    "&O&YA&WA&BA&BA-2&PA&MA&NA&NA-2&NE&NE-2&RA&RA-2&LA&cv&HHA&SA&SA-2&SE&KA&QA&TA&TA-2&TE&TE-2&TO&",
    "DA%z VIDJ&VIDJ-2$CURSIVE b A&E&I&O&YA&WA&BA&PA&MA&NA&NE&RA&LA&cv&HHA&SA&jp SA&SE&KA&QA&TA&TE&",
    "TO&DA@109BC%js ny qf&o ao%vz RMT&IMN%cz o&l&s&w&aa&ag&an&ah&ar&ca&fc&je&kd&gg&kx&gb@109D2&o a",
    "q&l aq&s aq&w aq&aa aq&ag aq&an aq&ah aq&ar aq&o az&l az&s az&w az&aa az&ag az&an az&ah az&ar",
    " az&ca az&fc az&je az&kd az&gg az&kx az&gb az&lu az&fn az&o aq az&l aq az&s aq az&w aq az&aa ",
    "aq az&ag aq az&an aq az&ah aq az&ar aq az%js o TWELFTH&l qf&s qf&w qf&aa qf&ag qf&an qf&ah qf",
    "&ar qf&ca qf!KHAROSHTHI b A$be f I&U&dl R@10A05&E&O@10A0C%ma r$f p bi m%ed%fv$b KA%cv%GA%ei@1",
    "0A15%CA%cr%JA@10A19%ct%ee%ez%ef%fe%eq%TA%df%DA%eg%NA%PA%dq%BA%er%MA%YA%RA%LA%VA%ck%fh%SA%ZA%H",
    "A%KKA%TTTHA%TTTA%VHA@10A38$f ak j%CAUDA%q m@10A3F$fd$bh o%l%s%w$cz ca%fc%o aq&az$js o ao@10A5",
    "0$eu q%c av%av%ub ak%MANGALAM%LOTUS%gv%p gv%LINES@10A60!du ev ARABIAN b HE(lz(lw(MEM(QOPH(fq(",
    "ha(RESH(kq(TAW(SAT(li(ej(KHETH(mg(lm(FE(ba(AYN(DHADHE(le(pn(GHAYN(TETH(ZAYN(DHALETH(mk(THAW(T",
    "HETH&cz o(gg&NUMERIC ru$eh ARABIAN b hf(fs(br(aj(QAF(fq(ES-2(gt(BEH(TEH(ES-1(gx(fk(dt(SAD(ES-",
    "3(FEH(ba(ge(DAD(GEEM(DAL(kt(TAH(ml(THAL(ax(THEH(ZAH&cz o(ca(fc@10AC0!MANICHAEAN b kp%kq%BHETH",
    "%le%GHIMEL%pn%HE%fq$f UD$b na%ZHAYIN%JAYIN%JHAYIN%lw%TETH%mk%li%XAPH%KHAPH%lz%DHAMEDH%THAMEDH",
    "%MEM%ej%lm%AYIN%AAYIN%PE%FE%mg%QOPH%XOPH%QHOPH%RESH%ha%SSHIN%TAW$jy r j&m@10AEB$cz o%aa%ca%fc",
    "%o aq$eu dk%FLEURON%p q WITHIN q%q WITHIN q&%l aw%cs qr@10B00!AVESTAN b A%AA%AO%AAO%AN%AAN%AE",
    "%AEE%E%EE%O%OO%I%II%U%UU%KE%XE%XYE%XVE%GE%GGE%GHE%CE%JE%TE%fp%DE%DHE%TTE%PE%FE%BE%BHE%NGE%NGY",
    "E%NGVE%NE%NYE%NNE%ME%HME%YYE%YE%VE%RE%LE%SE%ZE%gc%ZHE%SHYE%SSHE%HE@10B39$jy r!TINY l aw ay o ",
    "q eu!c l aw ay o q eu!co l aw ay o q eu$o q ay l aw eu$l RINGS ay o bi eu$o bi ay l RINGS eu!",
    "INSCRIPTIONAL PARTHIAN b kp&kq&le&pn&HE&fq&na&lw&TETH&mk&li&lz&MEM&ej&lm&AYIN&PE&mg&QOPH&RESH",
    "&ha&TAW@10B58%cz o&l&s&w&ca&fc&o aq(az$PAHLAVI b kp&kq&le&pn&HE&WAW-AYIN-RESH&na&lw&TETH&mk&l",
    "i&lz&MEM-QOPH&ej&lm&PE&mg&ha&TAW@10B78%cz o&l&s&w&ca&fc&o aq(az!PSALTER PAHLAVI b kp&kq&le&pn",
    "&HE&WAW-AYIN-RESH&na&lw&mk&li&lz&MEM-QOPH&ej&lm&PE&mg&ha&TAW@10B99%il r%by il r%w aw a el)q@1",
    "0BA9%cz o&l&s&w&ca&fc&o aq@10C00!du TURKIC b hg A&hr A(AE&hg I&hr I(E&hg O(OE&hr OE&hg AB&hr ",
    "AB&hg AEB&hr AEB&hg AG&hr AG&hg AEG&hr AEG&hg AD&hr AD&hg AED(EZ&hr EZ&hg AY&hr AY&hg AEY&hr ",
    "AEY&hg AEK&hr AEK&hg OEK&hr OEK&hg AL&hr AL&hg AEL(ELT(EM(AN(AEN&hr AEN&hg ENT&hr ENT&hg ENC&",
    "hr ENC&hg ENY&hr ENY(ANG&hg ENG&hr AENG&hg EP(OP(IC(EC&hr EC&hg AQ&hr AQ&hg IQ&hr IQ&hg OQ&hr",
    " OQ&hg AR&hr AR&hg AER(AS(AES(en&hr en&hg ESH&hr ESH&hg AT&hr AT&hg AET&hr AET&hg OT(BASH@10C",
    "80$HUNGARIAN e b A(AA(EB(AMB(EC(ENC(ECS(ED(g(E(CLOSE E(EE(EF(EG(EGY(EH(I(II(EJ(EK(AK(UNK(EL(E",
    "LY(EM(EN(ENY(O(OO(xr OE(ye OE(OEE(EP(EMP(ER(ec ER(ES(ESZ(ET(ENT(ETY(ECH(U(UU(xr UE(ye UE(EV(E",
    "Z(EZS(ENT-SHAPED f(US@10CC0%c b A(AA(EB(AMB(EC(ENC(ECS(ED(g(E(CLOSE E(EE(EF(EG(EGY(EH(I(II(EJ",
    "(EK(AK(UNK(EL(ELY(EM(EN(ENY(O(OO(xr OE(ye OE(OEE(EP(EMP(ER(ec ER(ES(ESZ(ET(ENT(ETY(ECH(U(UU(x",
    "r UE(ye UE(EV(EZ(EZS(ENT-SHAPED f(US@10CFA%cz o&aa&ca&gg&o aq(az!HANIFI ROHINGYA b A&BA&PA&TA",
    "&ee&JA&CA&HA&cv&FA&DA&ef&RA&RRA&ZA&SA&ck&KA&GA&LA&MA&NA&WA&KINNA WA&YA&KINNA YA&cj&ct&VA%be A",
    "&I&U&E&O%r SAKIN&NA KHONNA%f HARBAHAY&TAHALA&TANA&TASSI@10D30%bh bt&o&l&s&w&aa&ag&an&ah&ar@10",
    "E60!RUMI bh o%l%s%w%aa%ag%an%ah%ar$cz ca%fc%je%kd%gg%kx%gb%lu%fn%o aq%l aq%s aq%w aq%aa aq%ag",
    " aq%an aq%ah aq%ar aq$js o ao&gi&nt%l ra@10E80!YEZIDI b ELIF%BE%PE%PHE%fp%SE%CIM%CHIM%CHHIM%H",
    "HA%XA%DAL%ZAL%RA%RHA%ZA%JA%SIN%ha%SAD%DAD%TA%ZE%EYN%XHEYN%FA%VA&ir d%QAF%gx%KHAF%GAF%fs%MIM%e",
    "j%UM%fq%OW%EW%HAY%YOT%ET@10EAB$fj ft r%MADDA r$HYPHENATION r@10EB0$b fs a q j%YOT a cb j@10F0",
    "0!du SOGDIAN b kp&n kp&kq&n kq&le&HE&n HE&fq&na&lw&mk&li&lz&MEM&ej&n ej)a af dr&lm&AYIN&ir AY",
    "IN&PE&mg&n mg)a af dr&RESH-AYIN-DALETH&ha&TAW&n TAW)a af dr%cz o&l&s&w&aa&ca&fc&je&o aq%js o ",
    "ao%gh AYIN-DALETH@10F30!SOGDIAN b kp%kq%le%HE%fq%na%lw%mk%li%lz%MEM%ej%lm%AYIN%PE%mg%RESH-AYI",
    "N%ha%TAW%FETH%LESH$rt ha$fj q m%l aw m%q j%l aw j%kc j&m%x j&m%bz x m%RESH m%y m$cz o%ca%fc%o",
    " aq$eu l af BARS)a aw%av a q%l nb a aw%ao av a q@10F70!du UYGHUR b kp&kq&GIMEL-HETH&fq&na&n l",
    "w&mk&li&lz&MEM&ej&lm&PE&mg&RESH&ha&TAW&LESH%fj q j(m&l aw j)m%eu ak&l BARS(aw&w aw@10FB0!CHOR",
    "ASMIAN b kp%c kp%kq%le%pn%HE%fq%CURLED fq%na%lw%mk%li%lz%MEM%ej%lm%AYIN%PE%RESH%ha%TAW$cz o%l",
    "%s%w%ca%fc%o aq@10FE0!ELYMAIC b kp%kq%le%pn%HE%fq%na%lw%TETH%mk%li%lz%MEM%ej%lm%AYIN%PE%mg%QO",
    "PH%RESH%ha%TAW$gh ZAYIN-YODH@11000!BRAHMI f gm%ed%fv%up%vb$b A%AA%I%II%U%UU%dl R&RR&L&LL%E%AI",
    "%O%AU%KA%cv%GA%ei%cj%CA%cr%JA%fu%ct%ee%ez%ef%fe%eq%TA%df%DA%eg%NA%PA%dq%BA%er%MA%YA%RA%LA%VA%",
    "ck%fh%SA%HA%LLA%du TAMIL LLLA(RRA(NNNA$be f AA&BHATTIPROLU AA&I&II&U&UU&dl R(RR(L(LL&E&AI&O&A",
    "U$fd$gv$p gv$eu q%p q%cs%ub ak%LOTUS@11052$cz o%l%s%w%aa%ag%an%ah%ar%ca%fc%je%kd%gg%kx%gb%lu%",
    "fn%o aq&az$bh bt%o%l%s%w%aa%ag%an%ah%ar$f du TAMIL fd$b du TAMIL ec E)O$be f du TAMIL ec E*O$",
    "b du TAMIL LLA@1107F$cz th!KAITHI f gm%ed%fv$b A%AA%I%II%U%UU%E%AI%O%AU%KA%cv%GA%ei%cj%CA%cr%",
    "JA%fu%ct%ee%ez%ef%DDDHA%fe%RHA%eq%TA%df%DA%eg%NA%PA%dq%BA%er%MA%YA%RA%LA%VA%ck%fh%SA%HA$be f ",
    "AA&I&II&U&UU&E&AI&O&AU$f fd%ie$jy f$ENUMERATION f$cz f$il r$p il r$gv$p gv$be f dl R@110CD$cz",
    " f j@110D0!SORA SOMPENG b SAH&TAH&BAH&CAH&DAH&GAH&MAH&NGAH&LAH&NAH&VAH&PAH&YAH&RAH&br&KAH&JAH",
    "&NYAH&AH&EEH&IH&UH&OH&EH&MAE@110F0%bh bt&o&l&s&w&aa&ag&an&ah&ar@11100!CHAKMA f gm%ed%fv$b AA%",
    "I%U%E%KAA%KHAA%GAA%GHAA%NGAA%CAA%CHAA%JAA%JHAA%NYAA%TTAA%TTHAA%DDAA%DDHAA%NNAA%TAA%THAA%DAA%D",
    "HAA%NAA%PAA%PHAA%BAA%BHAA%MAA%YYAA%YAA%RAA%LAA%WAA%SAA%HAA$be f A&I&II&U&UU&E&AI&O&AU&OI$O r$",
    "AU r$fd$MAAYYAA@11136$bh bt%o%l%s%w%aa%ag%an%ah%ar$il r$gv$p gv$hi r$b LHAA$be f AA&EI$b VAA@",
    "11150!MAHAJANI b A%I%U%E%O%KA%cv%GA%ei%CA%cr%JA%fu%ct%ee%ez%ef%fe%eq%TA%df%DA%eg%NA%PA%dq%BA%",
    "er%MA%RA%LA%VA%SA%HA%RRA$f ie$jy f$il r$gh SHRI@11180!SHARADA f gm%ed%fv$b A%AA%I%II%U%UU%dl ",
    "R&RR&L&LL%E%AI%O%AU%KA%cv%GA%ei%cj%CA%cr%JA%fu%ct%ee%ez%ef%fe%eq%TA%df%DA%eg%NA%PA%dq%BA%er%M",
    "A%YA%RA%LA%LLA%VA%ck%fh%SA%HA$be f AA&I&II&U&UU&dl R(RR(L(LL&E&AI&O&AU$f fd%ld%up%vb$OM$gv$p ",
    "gv$jy f$im$SANDHI r$f ie$be gy r$EXTRA ec be r$SUTRA r$be f zf E$f cu gm$bh bt%o%l%s%w%aa%ag%",
    "an%ah%ar$EKAM$f tp$HEADSTROKE$CONTINUATION f$il MARK-1%MARK-2@111E1!SINHALA jp bh o&l&s&w&aa&",
    "ag&an&ah&ar%cz ca&fc&je&kd&gg&kx&gb&lu&fn&o aq(az@11200!KHOJKI b A%AA%I%U%E%AI%O%AU%KA%cv%GA%",
    "GGA%ei%cj%CA%cr%JA%JJA@11213%ct%ee%ez%ef%fe%eq%TA%df%DA%DDDA%eg%NA%PA%dq%BA%BBA%er%MA%YA%RA%L",
    "A%VA%SA%HA%LLA$be f AA&I&II&U&E&AI&O&AU$f ed%fd%ie%SHADDA$gv$p gv$mj im$il r$p il r$jy f$f SU",
    "KUN@11280!MULTANI b A%I%U%E%KA%cv%GA@11288%ei@1128A%CA%cr%JA%JJA@1128F%ct%ee%ez%ef%DDDA%fe%eq",
    "%TA%df%DA%eg%NA%PA%dq%BA@1129F%er%MA%YA%RA%LA%VA%SA%HA%RRA%RHA$il r@112B0!KHUDAWADI b A%AA%I%",
    "II%U%UU%E%AI%O%AU%KA%cv%GA%GGA%ei%cj%CA%cr%JA%JJA%fu%ct%ee%ez%ef%DDDA%RRA%fe%eq%TA%df%DA%eg%N",
    "A%PA%dq%BA%BBA%er%MA%YA%RA%LA%VA%ck%SA%HA$f ed$be f AA&I&II&U&UU&E&AI&O&AU$f ie%fd@112F0$bh b",
    "t%o%l%s%w%aa%ag%an%ah%ar@11300!GRANTHA f fj ed j%gm%ed%fv@11305$b A%AA%I%II%U%UU%dl R&L@1130F",
    "%EE%AI@11313%OO%AU%KA%cv%GA%ei%cj%CA%cr%JA%fu%ct%ee%ez%ef%fe%eq%TA%df%DA%eg%NA@1132A%PA%dq%BA",
    "%er%MA%YA%RA@11332%LA%LLA@11335%VA%ck%fh%SA%HA@1133B!fj BINDU m!GRANTHA f ie%ld$be f AA&I&II&",
    "U&UU&dl R(RR@11347&EE&AI@1134B&OO&AU$f fd@11350$OM@11357$AU ma r@1135D$f PLUTA$b VEDIC ed&p e",
    "d%dl RR&LL$be f dl L(LL@11366!fj GRANTHA bh bt&o&l&s&w&aa&ag@11370%b A&KA&NA&VI&PA@11400!NEWA",
    " b A%AA%I%II%U%UU%dl R&RR&L&LL%E%AI%O%AU%KA%cv%GA%ei%cj%NGHA%CA%cr%JA%fu%ct%NYHA%ee%ez%ef%fe%",
    "eq%TA%df%DA%eg%NA%NHA%PA%dq%BA%er%MA%MHA%YA%RA%RHA%LA%LHA%WA%ck%fh%SA%HA$be f AA&I&II&U&UU&dl",
    " R(RR(L(LL&E&AI&O&AU$f fd%gm%ed%fv%ie%ld%n ed$OM$SIDDHI$gv$p gv$de$GAP qr$jy f$bh bt%o%l%s%w%",
    "aa%ag%an%ah%ar$p de$PLACEHOLDER r@1145D$INSERTION f$SANDHI r$b VEDIC ed$f up%vb@11480!TIRHUTA",
    " ANJI$b A%AA%I%II%U%UU%dl R&RR&L&LL%E%AI%O%AU%KA%cv%GA%ei%cj%CA%cr%JA%fu%ct%ee%ez%ef%fe%eq%TA",
    "%df%DA%eg%NA%PA%dq%BA%er%MA%YA%RA%LA%VA%ck%fh%SA%HA$be f AA&I&II&U&UU&dl R(RR(L(LL&E&ec E&AI&",
    "O&ec O&AU$f gm%ed%fv%fd%ie%ld$GVANG$jy f$OM@114D0$bh bt%o%l%s%w%aa%ag%an%ah%ar@11580!tp b A%A",
    "A%I%II%U%UU%dl R&RR&L&LL%E%AI%O%AU%KA%cv%GA%ei%cj%CA%cr%JA%fu%ct%ee%ez%ef%fe%eq%TA%df%DA%eg%N",
    "A%PA%dq%BA%er%MA%YA%RA%LA%VA%ck%fh%SA%HA$be f AA&I&II&U&UU&dl R(RR@115B8&E&AI&O&AU$f gm%ed%fv",
    "%fd%ie%tp$gv$p gv$im q%ak$REPETITION MARK-1%MARK-2%MARK-3$gw OF TEXT r$il r a TRIDENT g wl OR",
    "NAMENTS*fl rj(RAYS g fl rj+p rj+em rj&p bi)a RAYS&a p rj(em rj(pc rj(SEPTUPLE rj(nb g RAYS*l ",
    "ENCLOSURES*w ENCLOSURES$b THREE-CIRCLE ir I%TWO-CIRCLE ir I(II%ir U$be f ir U(UU@11600!MODI b",
    " A%AA%I%II%U%UU%dl R&RR&L&LL%E%AI%O%AU%KA%cv%GA%ei%cj%CA%cr%JA%fu%ct%ee%ez%ef%fe%eq%TA%df%DA%",
    "eg%NA%PA%dq%BA%er%MA%YA%RA%LA%VA%ck%fh%SA%HA%LLA$be f AA&I&II&U&UU&dl R(RR(L(LL&E&AI&O&AU$f e",
    "d%fv%fd%ARDHACANDRA$gv$p gv$jy f$f HUVA@11650$bh bt%o%l%s%w%aa%ag%an%ah%ar@11660!MONGOLIAN pl",
    " a dz$db pl$p pl a dz$em pl a dz$pl a p dz$db pl a dz(p dz$cu pl&a p dz$SWIRL pl&a dz(p dz$by",
    " SWIRL pl a p dz@11680!TAKRI b A%AA%I%II%U%UU%E%AI%O%AU%KA%cv%GA%ei%cj%CA%cr%JA%fu%ct%ee%ez%e",
    "f%fe%eq%TA%df%DA%eg%NA%PA%dq%BA%er%MA%YA%RA%LA%VA%ck%SA%HA%RRA$f ed%fv$be f AA&I&II&U&UU&E&AI",
    "&O&AU$f fd%ie$b jp cv$jy f@116C0$bh bt%o%l%s%w%aa%ag%an%ah%ar@11700!AHOM b KA%cv%cj%NA%TA%ir ",
    "TA%PA%dq%BA%MA%JA%cr%df%RA%LA%SA%ct%HA%A%DA%eg%GA%ir GA%ei%er%fu%ir BA@1171D$is f bs LA(RA(LI",
    "GATING RA$be f A&AA&I&II&U&UU&E&AW&O&AI&AM$f KILLER@11730$bh bt%o%l%s%w%aa%ag%an%ah%ar$cz ca%",
    "fc$f c il%il%RULAI$z VI$b CA%ee%ez%ef%fe%eq%LLA@11800!DOGRA b A%AA%I%II%U%UU%E%AI%O%AU%KA%cv%",
    "GA%ei%cj%CA%cr%JA%fu%ct%ee%ez%ef%fe%eq%TA%df%DA%eg%NA%PA%dq%BA%er%MA%YA%RA%LA%VA%ck%fh%SA%HA%",
    "RRA$be f AA&I&II&U&UU&dl R(RR&E&AI&O&AU$f ed%fv%fd%ie$jy f@118A0!WARANG CITI e b NGAA(A(WI(YU",
    "(YA(YO(II(UU(E(O(ANG(GA(KO(ENY(YUJ(UC(ENN(ODD(TTE(NUNG(DA(AT(AM(BU(PU(HIYO(HOLO(HORR(HAR(SSUU",
    "(SII(VIYO%c b NGAA(A(WI(YU(YA(YO(II(UU(E(O(ANG(GA(KO(ENY(YUJ(UC(ENN(ODD(TTE(NUNG(DA(AT(AM(BU(",
    "PU(HIYO(HOLO(HORR(HAR(SSUU(SII(VIYO%bh bt&o&l&s&w&aa&ag&an&ah&ar%cz ca&fc&je&kd&gg&kx&gb&lu&f",
    "n@118FF%OM!DIVES AKURU b A&AA&I&II&U&UU&E@11909&O@1190C&KA&cv&GA&ei&cj&CA&cr&JA@11915&ct&ee@1",
    "1918&ef&fe&eq&TA&df&DA&eg&NA&PA&dq&BA&er&MA&YA&YYA&RA&LA&VA&ck&fh&SA&HA&LLA&ZA%be f AA(I(II(U",
    "(UU(E@11937(AI(O@1193B%f ed&gm&HALANTA%fd%PREFIXED NASAL f%bs YA%ab RA%bs RA%f ie%p gv%GAP qr",
    "%gw OF TEXT r@11950%bh bt&o&l&s&w&aa&ag&an&ah&ar@119A0!NANDINAGARI b A%AA%I%II%U%UU%dl R&RR@1",
    "19AA%E%AI%O%AU%KA%cv%GA%ei%cj%CA%cr%JA%fu%ct%ee%ez%ef%fe%eq%TA%df%DA%eg%NA%PA%dq%BA%er%MA%YA%",
    "RA%LA%VA%ck%fh%SA%HA%LLA%RRA$be f AA&I&II&U&UU&dl R(RR@119DA&E&AI&O&AU$f ed%fv%fd%ld%tp$HEADS",
    "TROKE$be f zf E@11A00!ZANABAZAR au b A%be f I(UE(U(E(OE(O(AI(AU(cg I&ma r%b KA&cv&GA&ei&cj&CA",
    "&cr&JA&ct&ee&ez&ef&fe&eq&TA&df&DA&eg&NA&PA&dq&BA&er&MA&hb&mi&DZA&DZHA&ZHA&ZA&-A&YA&RA&LA&VA&c",
    "k&fh&SA&HA&KSSA%n is r%f fd&gm(a dz&ls a dz&ed&fv%CLUSTER-INITIAL b RA%CLUSTER-FINAL b YA(RA(",
    "LA(VA%ab jt r%CLOSING jt r%r pf&ln&p ln&bz pf%ab DOUBLE-LINED jt r%CLOSING DOUBLE-LINED jt r%",
    "SUBJOINER@11A50!SOYOMBO b A$be f I&UE&U&E&O&OE&AI&AU&dl R(L%ma r$b KA%cv%GA%ei%cj%CA%cr%JA%fu",
    "%ct%ee%ez%ef%fe%eq%TA%df%DA%eg%NA%PA%dq%BA%er%MA%hb%mi%DZA%ZHA%ZA%-A%YA%RA%LA%VA%ck%fh%SA%HA%",
    "KSSA$f up%vb$CLUSTER-INITIAL b RA&LA&ck&SA$n is f G(K(NG(D(N(B(M(R(L(SH(S(-A$f ed%fv$vo r$SUB",
    "JOINER$r pf%ln%p ln%PLUTA$jt r a hx g SUN g em FLAME,FLAME+$TERMINAL MARK-1%MARK-2@11AB0!CANA",
    "DIAN SYLLABICS NATTILIK HI&HII&HO&HOO&HA&HAA&SHRI&SHRII&SHRO&SHROO&SHRA&SHRAA%SPE%SPI%SPO%SPA",
    "!PAU CIN HAU b PA(KA(LA(MA(DA(ZA(VA(cj(HA(GA(cv(SA(BA(CA(TA(df(NA(dq(RA(FA(cr(A(E(I(O(U(UA(IA",
    "(n P)K)T)M)N)L)W)NG)Y&no cd bz)&SANDHI hl cl&no cd bz n)n&SANDHI hl cl n(cd bz))bz n)n&MID-LE",
    "VEL cd&hl cl jg&MID-LEVEL cd bz n)n&LOW-FALLING cd bz)&hl cl&LOW-FALLING cd bz n)n&hl cl n@11",
    "C00!BHAIKSUKI b A%AA%I%II%U%UU%dl R&RR&L@11C0A%E%AI%O%AU%KA%cv%GA%ei%cj%CA%cr%JA%fu%ct%ee%ez%",
    "ef%fe%eq%TA%df%DA%eg%NA%PA%dq%BA%er%MA%YA%RA%LA%VA%ck%fh%SA%HA$be f AA&I&II&U&UU&dl R(RR(L@11",
    "C38&E&AI&O&AU$f gm%ed%fv%fd%ld$gv$p gv$mj im$GAP FILLER-1%FILLER-2@11C50$bh bt%o%l%s%w%aa%ag%",
    "an%ah%ar$cz o%l%s%w%aa%ag%an%ah%ar%ca%fc%je%kd%gg%kx%gb%lu%fn$HUNDREDS UNIT r@11C70!MARCHEN j",
    "t r$r ln$b KA%cv%GA%cj%CA%cr%JA%ct%TA%df%DA%NA%PA%dq%BA%MA%hb%mi%DZA%WA%ZHA%ZA%-A%YA%RA%LA%ck",
    "%SA%HA%A@11C92$uy b KA&cv&GA&cj&CA&cr&JA&ct&TA&df&DA&NA&PA&dq&BA&MA&hb&mi&DZA&WA&ZHA&ZA@11CA9",
    "&YA&RA&LA&ck&SA&HA&A$be f AA&I&U&E&O$f ed%gm@11D00!MASARAM GONDI b A&AA&I&II&U&UU&E@11D08&AI&",
    "O@11D0B&AU&KA&cv&GA&ei&cj&CA&cr&JA&fu&ct&ee&ez&ef&fe&eq&TA&df&DA&eg&NA&PA&dq&BA&er&MA&YA&RA&L",
    "A&VA&ck&fh&SA&HA&LLA&KSSA&JNYA&TRA%be f AA(I(II(U(UU(dl R@11D3A(E@11D3C(AI(O@11D3F(AU%f ed&fv",
    "&ie&ls&HALANTA%fd%REPHA%RA-KARA@11D50%bh bt&o&l&s&w&aa&ag&an&ah&ar@11D60!GUNJALA GONDI b A&AA",
    "&I&II&U&UU@11D67&EE&AI@11D6A&OO&AU&YA&VA&BA&er&MA&KA&cv&TA&df&LA&GA&ei&DA&eg&NA&CA&cr&ee&ez&L",
    "LA&JA&fu&ef&fe&cj&PA&dq&HA&RA&SA%be f AA(I(II(U(UU@11D90(EE(AI@11D93(OO(AU%f ed&fv%fd%OM@11DA",
    "0%bh bt&o&l&s&w&aa&ag&an&ah&ar@11EE0!MAKASAR b KA%GA%cj%PA%BA%MA%TA%DA%NA%CA%JA%ct%YA%RA%LA%V",
    "A%SA%A$ANGKA$be f I&U&E&O$PASSIMBANG$gw OF il@11FB0!LISU b YHA@11FC0!TAMIL js o THREE-HUNDRED",
    "-AND-TWENTIETH&zt&EIGHTIETH&zl&FORTIETH&zm%s EIGHTIETHS&SIXTY-FOURTHS%o TWENTIETH&SIXTEENTH-1",
    "&SIXTEENTH-2&TENTH&hs%s TWENTIETHS&yj%o FIFTH&gi&HALF-1&HALF-2%s mf%DOWNSCALING FACTOR KIIZH$",
    "f NEL%CEVITU%AAZHAAKKU%UZHAKKU%MUUVUZHAKKU%KURUNI%PATHAKKU%MUKKURUNI%KAACU%PANAM%PON%VARAAKAN",
    "%PAARAM%KUZHI%VELI$WET CULTIVATION f$DRY CULTIVATION f$LAND f$SALT PAN f$TRADITIONAL CREDIT f",
    "%cz f$CURRENT f$g ODD f$SPENT f$TOTAL f$IN POSSESSION f$STARTING gp f$f MUTHALIYA%VAKAIYARAA@",
    "11FFF$eu gw OF TEXT!CUNEIFORM f A&ai A(BAD(ke fb(HA(IGI(LAGAR dy(MUSH(SAG%A2%AB&ai ASH2(DUN3 ",
    "dy(GAL(ke fb(HA(IGI dy(IMIN(oe(SHESH(U al U al U&dy%AB2&ai BALAG(ke fb(ME al EN(SHA3(lq%AD%AK",
    "&ai ERIN2(SHITA al lf%AL&ai AL(DIM2(lf(HA(KAD3(KI(gc(USH%ALAN%kp%AMAR&ai gc%AN&ay AN&s ai&al ",
    "NAGA sf AN al NAGA)fz%ANSHE%APIN%ARAD&ai KUR%ARKAB%ASAL2%en&ZIDA fb&KABA fb&ay en TUG2 ay TUG",
    "2 TUG2 ay TUG2 PAP)ay en+go en ay en ay en%ASH2%ASHGAB%BA%BAD%BAG3%BAHAR2%BAL&ay BAL%BALAG%ak",
    "%BARA2%BI&ai A(GAR(IGI dy%BU&ay BU AB)UN&go BU%BULUG&ay BULUG%BUR%BUR2%DA%DAG&KISIM5 ai A al ",
    "MASH)AMAR)BALAG)BI)GA*al MASH)GI)GIR2)GUD)HA)IR*al LU)KAK)LA)LU*al MASH2)LUM)NE)PAP al PAP)SI",
    ")lq)U2 al GIR2)USH%DAM%DAR%DARA3%DARA4%DI%DIB%DIM&ai gc%DIM2%DIN&oc U dy iu%iu%DU&ay DU&dy&sm",
    "%DUB&ai ESH2%DUB2%DUG%DUGUD%DUH%DUN%DUN3&dy(dy%DUN4%DUR2%E&ai PAP&ay E ej ay ej%E2&ai A al HA",
    " al DA(GAR(MI(SAL(gc(U%EDIN%EGIR%EL%EN&ai ke)fb(ME&go EN&sf EN&fz%EREN%ERIN2%ESH2%EZEN&ai A)a",
    "l LAL+ai LAL(AN(BAD(DUN3 dy*dy(HA)dy(IGI dy(oc)fz(KU3(LA(LAL ai LAL(LI(LU(U2(UD%GA&dy%GA2&ai ",
    "A al DA al HA*HA*IGI(AB2 fb al TAB(AN(en(ASH2 al GAL(BAD(ak al RA(BUR)al RA(DA(DI(DIM ai gc(D",
    "UB(EL)al LA(EN)ai ke fb(ke fb(GAR(GI(GI4)al A(GIR2 al SU(HA al LU al ESH2(HAL)al LA(HI al LI(",
    "HUB2(IGI dy(ISH al HU al en(KAK(oc(KID)al LAL(KU3 al AN(LA(ME al EN(MI(ej)ay ej(PA(SAL(SAR(gc",
    ")al TUR(SHID(SUM(lq(U(UD)al DU&ay GA2%GABA&go GABA%GAD&ay GAD GAR ay GAR%GAL&GAD ay GAD GAR a",
    "y GAR%GALAM%GAM%GAN%ke&fb&ay ke&go ke%GAR%GAR3%GASHAN%GESHTIN&ai KUR%GI&ai E(U&go GI%GI4&ay G",
    "I4&go GI4%GIDIM%GIR2&dy%GIR3&ai A al IGI(ke fb(IGI(LU al IGI(PA%GISAL%lf&go lf&ai BAD(lq&fb%G",
    "U&go GU%GU2&ai KAK)ai IGI dy(ej(SAL al TUG2&dy%GUD&ai A al KUR(KUR&ay GUD LUGAL%GUL%GUM&ai gc",
    "%GUR%GUR7%GURUN%GURUSH%HA&fb&dy%HAL%HI&ai en(ASH2(BAD(iu(GAD(KIN(ej(gc(U%HU%HUB2&ai AN(HAL(oc",
    "(LISH(UD%HUL2%I&A%IB%IDIM&ay IDIM BUR)fz%IG%IGI&DIB&RI&ay IGI SHIR ay SHIR UD ay UD&dy%IL&ai ",
    "ke fb%IL2%IM&ai lq&go IM&sf IM&fz%IMIN%IN%IR%ISH%KA&ai A(AD)al KU3(ASH2(BAD(BALAG(ak(BI(ERIN2",
    "(ESH2(GA(GAL(ke fb(GAR)al SHA3 al A(GI(GIR2(lf al SAR)go lf(GU(GUR7(IGI(IM(KAK(KI(KID(LI(LU(M",
    "E)al DU*GI*TE(MI)al NUNUZ(NE(ej(PI(RU(SA(SAR(ck(gc(SHID(SHU(SIG(SUHUR(TAR(U(U2(UD(UMUM ai PA(",
    "USH(ZI%KA2&go KA2%KAB%KAD2%KAD3%KAD4%KAD5&ay KAD5%KAK&ai IGI dy%KAL&ai BAD&go KAL%KAM2%KAM4%o",
    "c&oe ai U ay oe ai U&ay oc oe ai U ay oe ai U%KESH2%KI&ai BAD(U(UD%KID%KIN%KISAL%KISH%KISIM5&",
    "ay KISIM5%KU&ay HI ai ASH2 KU ay HI ai ASH2%KU3%KU4&jg d%KU7%KUL&dy%KUN%KUR&sf KUR%KUSHU2%KWU",
    "318%LA%oe&ai A)al DA al HA*GAR*LAL(AL(AN(en ZIDA fb(BAD(BI(DAR(EN(GA(GAR(GUD)al GUD(HA(HAL(HI",
    " ai ej(IGI dy(IM)al HA*LU(KI(KIN(KU3(KUL)al HI al A(oe(LISH(LU(LUL(ME)al EN(MUSH(NE(gc al SUM",
    "(SHITA al lf al ERIN2+fb(SHU2)al SHU2(SUM(TAG(lq(TE al A al SU al NA(U)al A*U al U(U2 al en(U",
    "D(USH&fz%LAGAR&ai gc)al SUM&dy(ay LAGAR dy gc%LAHSHU%LAL&ai LAL%fs&ai KUR)al RU%LI%LIL%LIMMU2",
    "%LISH%LU&ai BAD%LU2&ai AL(BAD(ESH2)fb(ke fb(HI ai BAD(IM(KAD2(KAD3)al en(KI(LA al en(oe(ME al",
    " EN(NE(NU(SI al en(SIK2 al BU(TUG2&fb&go LU2&sf LU2&fz&sm%LU3%LUGAL&ay LUGAL&sf LUGAL&sm%LUH%",
    "LUL%LUM&ay LUM)GAR ay GAR%MA&ai lq&dy%MA2%MAH%MAR%MASH%MASH2%ME%MES%MI%MIN%MU&ay MU%MUG&dy%MU",
    "NSUB%MURGU2%MUSH&ai A(KUR(ZA&ay MUSH)ai A al NA&go MUSH%MUSH3&ai A)al DI(DI&dy%NA%NA2%NAGA&cu",
    "&ai SHU fb&sf NAGA%NAGAR%NAM NUTILLU&%NAM2%NE&ai A(UD&sm%NI&ai E%NI2%NIM&ai ke fb(GAR al ke f",
    "b%NINDA2&ai AN(en)al en(GUD(ME al ke fb(NE(ej(gc)al A AN*en+al en(U2 al en(USH%NISAG%NU%NU11%",
    "ej&LAGAR ai GAR)MASH)SAL*ay ej LAGAR ai SAL)USH&fb&ay ej&go ej)LAGAR ay LAGAR%NUNUZ&AB2 ai AS",
    "HGAB)BI)DUG)GUD)IGI dy)KAD3)LA)NE)SILA3)U2&KISIM5 ai BI*U%PA%PAD%PAN%PAP%PESH2%PI&ai A(AB(BI(",
    "BU(E(I(IB(U(U2&go PI%PIRIG&ai KAL(UD(ZA&sf PIRIG%RA%RAB%RI%RU%SA%SAG NUTILLU&&ai A(DU(DUB(HA(",
    "KAK(KUR(LUM(MI(ej(SAL(SHID(TAB(U2(UB(UM(UR(USH&ay SAG&dy%SAL&oe ai ASH2%SANGA2%SAR%ck%SHA3&ai",
    " A(BAD(lf(NE(SHU2(TUR(U)al A%SHA6%SHAB6%qa%gc&HU&ay gc GAD ay GAD GAR ay GAR)TAB ay TAB GAR a",
    "y GAR%SHEG9%SHEN%SHESH%SHESH2%SHESHLAM%SHID&ai A(IM%SHIM&ai A(BAL(BULUG(DIN(GAR(IGI)dy(KUSHU2",
    "(LUL(MUG(SAL%SHINIG%SHIR&fb&ay SHIR BUR ay BUR%SHITA%SHU&ay cu SHU%SHU2%SHUBUR%SI&dy%SIG%SIG4",
    "&ay SIG4 SHU2%SIK2%SILA3%SU&ay SU%SUD%SUD2%SUHUR%SUM%SUMASH%SUR%SUR9%TA&ek&ai HI(MI&dy%TAB&ay",
    " TAB NI ay NI iu ay iu&fz%TAG&ai BI(GUD(gc(SHU(TUG2(UD%lq%TAR%TE&dy%TI&fb%TIL%TIR&ai lq&ay TI",
    "R)GAD ay GAD GAR ay GAR%TU%TUG2%TUK%TUM%TUR&ay TUR ZA ay ZA%U&GUD&U U&ay U PA ay PA GAR ay GA",
    "R)SUR ay SUR)U cg ay U cg%U2%UB%UD&KUSHU2&ai BAD(MI(U al U al U.dy&dy&sm(ai BAD%UDUG%UM&ai oe",
    "(ME al DA(SHA3(U%UMBIN%UMUM&ai oc(PA%UN&dy%UR&go UR&sm%UR2&ai A al HA*NA(AL(HA(ej(U2)al en*BI",
    "%UR4%URI%URI3%URU&ai A(ASHGAB(ak(DUN(GA(GAL(ke fb(GAR(GU(HA(IGI(IM(ISH(KI(LUM(MIN(PA(gc(SIG4(",
    "TU(U al GUD(UD(URUDA%URUDA&ai U%USH&ai A(KU(KUR(lq%USHX%USH2%USHUMX%UTUKI%UZ3&ai oc%UZU%ZA&fb",
    "&fz ai KUR%ZAG%ZAMX%ZE2%ZI&ay ZI%ZI3%ZIB&KABA fb%ZIG%ZIZ2%ZU%ZU5&ai A%ZUBUR%ZUM%KAP ELAMITE%A",
    "B ai ej%AB2 ai A%AMAR ai KUG%DAG KISIM5 ai U2 al MASH%DAG3%iu al SHU%DUB ai gc%EZEN ai GUD(gc",
    "%GA2 ai AN al KAK al A(ASH2%GE22%GIG%HUSH%KA ai ANSHE(ASH3(lf(GUD(HI ai ASH2(LUM(PA(SHUL(TU(U",
    "R2%oe ai GI%LU2 sm ai BAD&ai ESH2 al LAL(SHU%MESH%MUSH3 ai ZA%NA4%NIN%NIN9%NINDA2 ai BAL(GI%N",
    "U11 db fn dx%PESH2 ek%PIR2%SAG ai IGI dy%TI2%UM ai ME%U U@12400$NUMERIC f l en&s en&w en&aa e",
    "n&ag en&an en&ah en&ar en&s iu&w iu&aa iu&ag iu&an iu&ah iu&ar iu&w U&aa U&ag U&an U&ah U&ar ",
    "U&o GESH2&l GESH2&s GESH2&w GESH2&aa GESH2&ag GESH2&an GESH2&ah GESH2&ar GESH2&o GESHU&l GESH",
    "U&s GESHU&w GESHU&aa GESHU&l qa&s qa)jg d&w qa&aa qa&ag qa&an qa&ah qa&ar qa&o SHARU&l SHARU&",
    "s SHARU)jg d&w SHARU&aa SHARU&qa ai GAL al iu+MIN&o BURU&l BURU&s BURU)jg d&w BURU&aa BURU&s ",
    "jg d ESH16*ESH21&w jg d LIMMU*LIMMU4*LIMMU A+B&ag jg d ASH9&an jg d IMIN3*IMIN A+B&ah jg d US",
    "SU*USSU3&ar jg d ILIMMU*ILIMMU3*ILIMMU4*ILIMMU A&l en fb&s en fb&w en fb&aa en fb&ag en fb&o ",
    "BAN2&l BAN2&s BAN2&w BAN2)jg d&aa BAN2)jg d&NIGIDAMIN&NIGIDAESH&o ESHE3&l ESHE3&o nt iu&l ra ",
    "iu&aa SIXTHS iu&o nt jg d A&l ra jg d A&o hs en(gi en&du ASSYRIAN o SIXTH*gi&o gi GUR(ao GUR&",
    "ELAMITE o nt(l ra(kd(gg&w U jg d&aa U jg d&ag U jg d&an U jg d&ah U jg d&ar U jg d@12470$eu f",
    " du ASSYRIAN mj ue&af gn&ep gn(TRICOLON(QUADCOLON@12480$f AB ai ej fb(SHU2%AD ai ESH2%BAD ai ",
    "iu fb%BAHAR2 ai AB2(NI(ZA%BU ay BU ai NA2%DA ai lq%DAG ai KUR%DIM ai IGI(U U U%DIM2 ai UD%DUG",
    " ai ANSHE(en)AT k(DIN(DUN(ERIN2(GA(GI(GIR2 dy(lf(HA(HI(IGI dy(oc(KUR(KUSHU2)al oc(LAK-020(fs)",
    "ai KUR(LUH al lf(MASH(MES(MI(NI(PI(gc(SI dy%E2 ai KUR(PAP%ERIN2 X%ESH2 go ESH2%EZEN sm ai en)",
    "HI)IGI dy)LA)LAL)ME)MES)SU&ai SU%GA2 ai BAHAR2(DIM dy(DUG ai IGI dy*oc(EREN(GA(GAR al DI*NE(H",
    "A al A(KUSHU2 al oc(fs)ai KUR(LUH(MUSH(NE)al E2*GI(SHIM(ZIZ2%GABA db fn dx%GESHTIN ai U%lf ai",
    " lf go lf%GU2 ai IGI dy%GUD al lf ai lq%HA fb dy%HI ai en ay HI ai en%KA ai BU(KA(U U U(UR%oe",
    " ai ZU ay ZU%LAK-003%LAK-021%LAK-025%LAK-030%LAK-050%LAK-051%LAK-062%LAK-079 ay LAK-079 dy%LA",
    "K-080%LAK-081 ay LAK-081%LAK-092%LAK-130%LAK-142%LAK-210%LAK-219%LAK-220%LAK-225%LAK-228%LAK-",
    "238%LAK-265%LAK-266%LAK-343%LAK-347%LAK-348%LAK-383%LAK-384%LAK-390%LAK-441%LAK-449&ai GU(IGI",
    "(PAP al LU3*PAP al LU3(U2 al BA%LAK-450%LAK-457%LAK-470%LAK-483%LAK-490%LAK-492%LAK-493%LAK-4",
    "95%LAK-550%LAK-608%LAK-617&ai en(BAD(DUN3 dy dy(KU3(LA(TAR(TE(U2(UD(URUDA%LAK-636%LAK-648&ai ",
    "DUB(GA(IGI)dy(NI(PAP al PAP al LU3(SHESH al KI(UD(URUDA%LAK-724%LAK-749%LU2 dy ai en&ai iu(HA",
    "L(PAP)al PAP al LU3(lq%MI al ZA7%MUSH ay MUSH ai GA*KAK%NINDA2 ai DIM dy(lf(GUL(HI(KESH2(LAK-",
    "050(MASH(PAP al PAP(U)al U(URUDA%SAG dy ai HA&ai EN(gc AT k(lq%SHA6 fb%gc ay gc&al HUB2(NAM2(",
    "SAR%SHU2 al DUG ai NI(E2 ai AN%SI ai lq%lq al SAG%TUM ai ke fb(s iu%UR2 cu&ai UD%URU ai DARA3",
    "(LAK-668(LU3%ZA7%ZU ay ZU al SAR%ZU5 ai s iu fb@12F90!CYPRO-MINOAN f CM001%CM002%CM004%CM005%",
    "CM006%CM007%CM008%CM009%CM010%CM011%CM012%CM012B%CM013%CM015%CM017%CM019%CM021%CM023%CM024%CM",
    "025%CM026%CM027%CM028%CM029%CM030%CM033%CM034%CM035%CM036%CM037%CM038%CM039%CM040%CM041%CM044",
    "%CM046%CM047%CM049%CM050%CM051%CM052%CM053%CM054%CM055%CM056%CM058%CM059%CM060%CM061%CM062%CM",
    "063%CM064%CM066%CM067%CM068%CM069%CM070%CM071%CM072%CM073%CM074%CM075%CM075B%CM076%CM078%CM07",
    "9%CM080%CM081%CM082%CM083%CM084%CM085%CM086%CM087%CM088%CM089%CM090%CM091%CM092%CM094%CM095%C",
    "M096%CM097%CM098%CM099%CM100%CM101%CM102%CM103%CM104%CM105%CM107%CM108%CM109%CM110%CM112%CM11",
    "4%CM301%CM302@13000!EGYPTIAN HIEROGLYPH A001%A002%A003%A004%A005%A005A%A006%A006A%A006B%A007%",
    "A008%A009%A010%A011%A012%A013%A014%A014A%A015%A016%A017%A017A%A018%A019%A020%A021%A022%A023%A",
    "024%A025%A026%A027%A028%A029%A030%A031%A032%A032A%A033%A034%A035%A036%A037%A038%A039%A040%A04",
    "0A%A041%A042%A042A%A043%A043A%A044%A045%A045A%A046%A047%A048%A049%A050%A051%A052%A053%A054%A0",
    "55%A056%A057%A058%A059%A060%A061%A062%A063%A064%A065%A066%A067%A068%A069%A070%B001%B002%B003%",
    "B004%B005%B005A%B006%B007%B008%B009%C001%C002%C002A%C002B%C002C%C003%C004%C005%C006%C007%C008",
    "%C009%C010%C010A%C011%C012%C013%C014%C015%C016%C017%C018%C019%C020%C021%C022%C023%C024%D001%D",
    "002%D003%D004%D005%D006%D007%D008%D008A%D009%D010%D011%D012%D013%D014%D015%D016%D017%D018%D01",
    "9%D020%D021%D022%D023%D024%D025%D026%D027%D027A%D028%D029%D030%D031%D031A%D032%D033%D034%D034",
    "A%D035%D036%D037%D038%D039%D040%D041%D042%D043%D044%D045%D046%D046A%D047%D048%D048A%D049%D050",
    "%D050A%D050B%D050C%D050D%D050E%D050F%D050G%D050H%D050I%D051%D052%D052A%D053%D054%D054A%D055%D",
    "056%D057%D058%D059%D060%D061%D062%D063%D064%D065%D066%D067%D067A%D067B%D067C%D067D%D067E%D067",
    "F%D067G%D067H%E001%E002%E003%E004%E005%E006%E007%E008%E008A%E009%E009A%E010%E011%E012%E013%E0",
    "14%E015%E016%E016A%E017%E017A%E018%E019%E020%E020A%E021%E022%E023%E024%E025%E026%E027%E028%E0",
    "28A%E029%E030%E031%E032%E033%E034%E034A%E036%E037%E038%F001%F001A%F002%F003%F004%F005%F006%F0",
    "07%F008%F009%F010%F011%F012%F013%F013A%F014%F015%F016%F017%F018%F019%F020%F021%F021A%F022%F02",
    "3%F024%F025%F026%F027%F028%F029%F030%F031%F031A%F032%F033%F034%F035%F036%F037%F037A%F038%F038",
    "A%F039%F040%F041%F042%F043%F044%F045%F045A%F046%F046A%F047%F047A%F048%F049%F050%F051%F051A%F0",
    "51B%F051C%F052%F053%G001%G002%G003%G004%G005%G006%G006A%G007%G007A%G007B%G008%G009%G010%G011%",
    "G011A%G012%G013%G014%G015%G016%G017%G018%G019%G020%G020A%G021%G022%G023%G024%G025%G026%G026A%",
    "G027%G028%G029%G030%G031%G032%G033%G034%G035%G036%G036A%G037%G037A%G038%G039%G040%G041%G042%G",
    "043%G043A%G044%G045%G045A%G046%G047%G048%G049%G050%G051%G052%G053%G054%H001%H002%H003%H004%H0",
    "05%H006%H006A%H007%H008%I001%I002%I003%I004%I005%I005A%I006%I007%I008%I009%I009A%I010%I010A%I",
    "011%I011A%I012%I013%I014%I015%K001%K002%K003%K004%K005%K006%K007%K008%L001%L002%L002A%L003%L0",
    "04%L005%L006%L006A%L007%L008%M001%M001A%M001B%M002%M003%M003A%M004%M005%M006%M007%M008%M009%M",
    "010%M010A%M011%M012%M012A%M012B%M012C%M012D%M012E%M012F%M012G%M012H%M013%M014%M015%M015A%M016",
    "%M016A%M017%M017A%M018%M019%M020%M021%M022%M022A%M023%M024%M024A%M025%M026%M027%M028%M028A%M0",
    "29%M030%M031%M031A%M032%M033%M033A%M033B%M034%M035%M036%M037%M038%M039%M040%M040A%M041%M042%M",
    "043%M044%N001%N002%N003%N004%N005%N006%N007%N008%N009%N010%N011%N012%N013%N014%N015%N016%N017",
    "%N018%N018A%N018B%N019%N020%N021%N022%N023%N024%N025%N025A%N026%N027%N028%N029%N030%N031%N032",
    "%N033%N033A%N034%N034A%N035%N035A%N036%N037%N037A%N038%N039%N040%N041%N042%NL001%NL002%NL003%",
    "NL004%NL005%NL005A%NL006%NL007%NL008%NL009%NL010%NL011%NL012%NL013%NL014%NL015%NL016%NL017%NL",
    "017A%NL018%NL019%NL020%NU001%NU002%NU003%NU004%NU005%NU006%NU007%NU008%NU009%NU010%NU010A%NU0",
    "11%NU011A%NU012%NU013%NU014%NU015%NU016%NU017%NU018%NU018A%NU019%NU020%NU021%NU022%NU022A%O00",
    "1%O001A%O002%O003%O004%O005%O005A%O006%O006A%O006B%O006C%O006D%O006E%O006F%O007%O008%O009%O01",
    "0%O010A%O010B%O010C%O011%O012%O013%O014%O015%O016%O017%O018%O019%O019A%O020%O020A%O021%O022%O",
    "023%O024%O024A%O025%O025A%O026%O027%O028%O029%O029A%O030%O030A%O031%O032%O033%O033A%O034%O035",
    "%O036%O036A%O036B%O036C%O036D%O037%O038%O039%O040%O041%O042%O043%O044%O045%O046%O047%O048%O04",
    "9%O050%O050A%O050B%O051%P001%P001A%P002%P003%P003A%P004%P005%P006%P007%P008%P009%P010%P011%Q0",
    "01%Q002%Q003%Q004%Q005%Q006%Q007%R001%R002%R002A%R003%R003A%R003B%R004%R005%R006%R007%R008%R0",
    "09%R010%R010A%R011%R012%R013%R014%R015%R016%R016A%R017%R018%R019%R020%R021%R022%R023%R024%R02",
    "5%R026%R027%R028%R029%S001%S002%S002A%S003%S004%S005%S006%S006A%S007%S008%S009%S010%S011%S012",
    "%S013%S014%S014A%S014B%S015%S016%S017%S017A%S018%S019%S020%S021%S022%S023%S024%S025%S026%S026",
    "A%S026B%S027%S028%S029%S030%S031%S032%S033%S034%S035%S035A%S036%S037%S038%S039%S040%S041%S042",
    "%S043%S044%S045%S046%T001%T002%T003%T003A%T004%T005%T006%T007%T007A%T008%T008A%T009%T009A%T01",
    "0%T011%T011A%T012%T013%T014%T015%T016%T016A%T017%T018%T019%T020%T021%T022%T023%T024%T025%T026",
    "%T027%T028%T029%T030%T031%T032%T032A%T033%T033A%T034%T035%T036%U001%U002%U003%U004%U005%U006%",
    "U006A%U006B%U007%U008%U009%U010%U011%U012%U013%U014%U015%U016%U017%U018%U019%U020%U021%U022%U",
    "023%U023A%U024%U025%U026%U027%U028%U029%U029A%U030%U031%U032%U032A%U033%U034%U035%U036%U037%U",
    "038%U039%U040%U041%U042%V001%V001A%V001B%V001C%V001D%V001E%V001F%V001G%V001H%V001I%V002%V002A",
    "%V003%V004%V005%V006%V007%V007A%V007B%V008%V009%V010%V011%V011A%V011B%V011C%V012%V012A%V012B%",
    "V013%V014%V015%V016%V017%V018%V019%V020%V020A%V020B%V020C%V020D%V020E%V020F%V020G%V020H%V020I",
    "%V020J%V020K%V020L%V021%V022%V023%V023A%V024%V025%V026%V027%V028%V028A%V029%V029A%V030%V030A%",
    "V031%V031A%V032%V033%V033A%V034%V035%V036%V037%V037A%V038%V039%V040%V040A%W001%W002%W003%W003",
    "A%W004%W005%W006%W007%W008%W009%W009A%W010%W010A%W011%W012%W013%W014%W014A%W015%W016%W017%W01",
    "7A%W018%W018A%W019%W020%W021%W022%W023%W024%W024A%W025%X001%X002%X003%X004%X004A%X004B%X005%X",
    "006%X006A%X007%X008%X008A%Y001%Y001A%Y002%Y003%Y004%Y005%Y006%Y007%Y008%Z001%Z002%Z002A%Z002B",
    "%Z002C%Z002D%Z003%Z003A%Z003B%Z004%Z004A%Z005%Z005A%Z006%Z007%Z008%Z009%Z010%Z011%Z012%Z013%Z",
    "014%Z015%Z015A%Z015B%Z015C%Z015D%Z015E%Z015F%Z015G%Z015H%Z015I%Z016%Z016A%Z016B%Z016C%Z016D%Z",
    "016E%Z016F%Z016G%Z016H%AA001%AA002%AA003%AA004%AA005%AA006%AA007%AA007A%AA007B%AA008%AA009%AA",
    "010%AA011%AA012%AA013%AA014%AA015%AA016%AA017%AA018%AA019%AA020%AA021%AA022%AA023%AA024%AA025",
    "%AA026%AA027%AA028%AA029%AA030%AA031%AA032@13430%af th%bf th%INSERT AT ey START(gj START(ey g",
    "w(gj gw%iv ae%BEGIN SEGMENT%gw SEGMENT@14400!ANATOLIAN HIEROGLYPH A001%A002%A003%A004%A005%A0",
    "06%A007%A008%A009%A010%A010A%A011%A012%A013%A014%A015%A016%A017%A018%A019%A020%A021%A022%A023",
    "%A024%A025%A026%A026A%A027%A028%A029%A030%A031%A032%A033%A034%A035%A036%A037%A038%A039%A039A%",
    "A040%A041%A041A%A042%A043%A044%A045%A045A%A046%A046A%A046B%A047%A048%A049%A050%A051%A052%A053",
    "%A054%A055%A056%A057%A058%A059%A060%A061%A062%A063%A064%A065%A066%A066A%A066B%A066C%A067%A068",
    "%A069%A070%A071%A072%A073%A074%A075%A076%A077%A078%A079%A080%A081%A082%A083%A084%A085%A086%A0",
    "87%A088%A089%A090%A091%A092%A093%A094%A095%A096%A097%A097A%A098%A098A%A099%A100%A100A%A101%A1",
    "01A%A102%A102A%A103%A104%A104A%A104B%A104C%A105%A105A%A105B%A106%A107%A107A%A107B%A107C%A108%",
    "A109%A110%A110A%A110B%A111%A112%A113%A114%A115%A115A%A116%A117%A118%A119%A120%A121%A122%A123%",
    "A124%A125%A125A%A126%A127%A128%A129%A130%A131%A132%A133%A134%A135%A135A%A136%A137%A138%A139%A",
    "140%A141%A142%A143%A144%A145%A146%A147%A148%A149%A150%A151%A152%A153%A154%A155%A156%A157%A158",
    "%A159%A160%A161%A162%A163%A164%A165%A166%A167%A168%A169%A170%A171%A172%A173%A174%A175%A176%A1",
    "77%A178%A179%A180%A181%A182%A183%A184%A185%A186%A187%A188%A189%A190%A191%A192%A193%A194%A195%",
    "A196%A197%A198%A199%A200%A201%A202%A202A%A202B%A203%A204%A205%A206%A207%A207A%A208%A209%A209A",
    "%A210%A211%A212%A213%A214%A215%A215A%A216%A216A%A217%A218%A219%A220%A221%A222%A223%A224%A225%",
    "A226%A227%A227A%A228%A229%A230%A231%A232%A233%A234%A235%A236%A237%A238%A239%A240%A241%A242%A2",
    "43%A244%A245%A246%A247%A248%A249%A250%A251%A252%A253%A254%A255%A256%A257%A258%A259%A260%A261%",
    "A262%A263%A264%A265%A266%A267%A267A%A268%A269%A270%A271%A272%A273%A274%A275%A276%A277%A278%A2",
    "79%A280%A281%A282%A283%A284%A285%A286%A287%A288%A289%A289A%A290%A291%A292%A293%A294%A294A%A29",
    "5%A296%A297%A298%A299%A299A%A300%A301%A302%A303%A304%A305%A306%A307%A308%A309%A309A%A310%A311",
    "%A312%A313%A314%A315%A316%A317%A318%A319%A320%A321%A322%A323%A324%A325%A326%A327%A328%A329%A3",
    "29A%A330%A331%A332A%A332B%A332C%A333%A334%A335%A336%A336A%A336B%A336C%A337%A338%A339%A340%A34",
    "1%A342%A343%A344%A345%A346%A347%A348%A349%A350%A351%A352%A353%A354%A355%A356%A357%A358%A359%A",
    "359A%A360%A361%A362%A363%A364%A364A%A365%A366%A367%A368%A368A%A369%A370%A371%A371A%A372%A373%",
    "A374%A375%A376%A377%A378%A379%A380%A381%A381A%A382%A383 RA OR RI%A383A%A384%A385%A386%A386A%A",
    "387%A388%A389%A390%A391%A392%A393 ah%A394%A395%A396%A397%A398%A399%A400%A401%A402%A403%A404%A",
    "405%A406%A407%A408%A409%A410 BEGIN vz r%A410A gw vz r%A411%A412%A413%A414%A415%A416%A417%A418",
    "%A419%A420%A421%A422%A423%A424%A425%A426%A427%A428%A429%A430%A431%A432%A433%A434%A435%A436%A4",
    "37%A438%A439%A440%A441%A442%A443%A444%A445%A446%A447%A448%A449%A450%A450A%A451%A452%A453%A454",
    "%A455%A456%A457%A457A%A458%A459%A460%A461%A462%A463%A464%A465%A466%A467%A468%A469%A470%A471%A",
    "472%A473%A474%A475%A476%A477%A478%A479%A480%A481%A482%A483%A484%A485%A486%A487%A488%A489%A490",
    "%A491%A492%A493%A494%A495%A496%A497%A501%A502%A503%A504%A505%A506%A507%A508%A509%A510%A511%A5",
    "12%A513%A514%A515%A516%A517%A518%A519%A520%A521%A522%A523%A524%A525%A526%A527%A528%A529%A530@",
    "16800!BAMUM b PHASE-A NGKUE MFON&GBIEE FON&PON MFON PIPAEMGBIEE)PIPAEMBA&NAA MFON&SHUENSHUET&",
    "TITA MFON&NZA MFON&SHINDA PA NJI&PON PA NJI PIPAEMGBIEE*PIPAEMBA&MAEMBGBIEE&TU MAEMBA&NGANGU&",
    "MAEMVEUX&MANSUAE&MVEUAENGAM&SEUNYAM&NTOQPEN&KEUKEUTNDA&NKINDI&SUU&NGKUENZEUM&LAPAQ&LET KUT&NT",
    "AP MFAA&MAEKEUP&PASHAE&GHEUAERAE&PAMSHAE&MON NGGEUAET&NZUN MEUT&U YUQ NAE&GHEUAEGHEUAE&NTAP N",
    "TAA&SISA&MGBASA&MEUNJOMNDEUQ&MOOMPUQ&KAFA&PA LEERAEWA&NDA LEERAEWA&PET&MAEMKPEN&NIKA&PUP&TUAE",
    "P&LUAEP&SONJAM&TEUTEUWEN&MAENYI&KET&NDAANGGEUAET&KUOQ&MOOMEUT&SHUM&LOMMAE&FIRI&ROM&KPOQ&SOQ&M",
    "AP PIEET&SHIRAE&NTAP&SHOQ NSHUT YUM&NYIT MONGKEUAEQ&PAARAE&NKAARAE&UNKNOWN&NGGEN&MAESI&NJAM&M",
    "BANYI&NYET&TEUAEN&SOT&PAAM&NSHIEE&MAEM&NYI&KAQ&NSHA&VEE&LU&NEN&NAQ&MBAQ%PHASE-B NSHUET&TU MAE",
    "MGBIEE&SIEE&SET TU&LOM NTEUM&MBA MAELEE&KIEEM&YEURAE&MBAARAE&KAM&PEESHI&YAFU LEERAEWA&fs NSHU",
    "T NYAM&NTIEE SHEUOQ&NDU NJAA&GHEUGHEUAEM&PIT&TU NSIEE&SHET NJAQ&SHEUAEQTU&MFON TEUAEQ&MBIT MB",
    "AAKET&NYI NTEUM&KEUPUQ&GHEUGHEN&KEUYEUX&LAANAE&PARUM&VEUM&NGKINDI MVOP&NGGEU MBU&WUAET&SAKEUA",
    "E&TAAM&MEUQ&NGGUOQ(co&MFIYAQ&SUE&MBEURI&MONTIEEN&NYAEMAE&PUNGAAM&MEUT NGGEET&FEUX&MBUOQ&FEE&K",
    "EUAEM&MA NJEUAENA(NJUQA&LET&NGGAAM&NSEN&MA&KIQ&NGOM%PHASE-C NGKUE MAEMBA&NZA&YUM&WANGKUOQ&NGG",
    "EN&NDEUAEREE&NGKAQ&GHARAE&MBEEKEET&GBAYI&NYIR MKPARAQ MEUN&NTU MBIT&MBEUM&PIRIEEN&NDOMBU&MBAA",
    " CABBAGE-TREE&KEUSHEUAEP&GHAP&KEUKAQ&YU MUOMAE&NZEUM&MBUE&NSEUAEN&MBIT&YEUQ&KPARAQ&KAA&SEUX&N",
    "DIDA&TAASHAE&NJUEQ&TITA YUE&SUAET&NGGUAEN NYAM&VEUX&NANSANAQ&MA KEUAERI&NTAA&NGGUON&LAP&MBIRI",
    "EEN&MGBASAQ&NTEUNGBA&TEUTEUX&NGGUM&FUE&NDEUT&NSA&NSHAQ&BUNG&VEUAEPEN&MBERAE&RU&NJAEM&fs&TITUA",
    "EP&NSUOT NGOM&NJEEEE&KET&NGGU&MAESI&MBUAEM&LU&KUT&NJAM&NGOM&WUP&NGGUEET&NSOM&NTEN&KUOP NKAARA",
    "E&NSUN&NDAM&MA NSIEE&YAA&NDAP&SHUEQ&SETFON&MBI&MAEMBA&MBANYI&KEUSEUX&MBEUX&KEUM&MBAA PICKET&Y",
    "UWOQ&NJEUX&MIEE&MUAE&SHIQ&KEN LAW(FATIGUE&NGAQ&NAQ&LIQ&PIN&PEN&TET%PHASE-D MBUO&WAP&NJI&MFON&",
    "NJIEE&LIEE&NJEUT&NSHEE&NGGAAMAE&NYAM&WUAEN&NGKUN&SHEE&NGKAP&KEUAETMEUN&TEUT&SHEUAE&NJAP&SUE&K",
    "ET&YAEMMAE&KUOM&SAP&MFEUT&NDEUX&MALEERI&MEUT&SEUAEQ&YEN&NJEUAEM&KEUOT MBUAE&NGKEURI&TU&GHAA&N",
    "GKYEE&FEUFEUAET&NDEE&MGBOFUM&LEUAEP&NDON&MONI&MGBEUN&PUUT&MGBIEE&MFO&LUM&NSIEEP&MBAA&KWAET&NY",
    "ET&TEUAEN&SOT&YUWOQ&KEUM&RAEM&TEEEE&NGKEUAEQ&MFEUAE&NSIEET&KEUP&PIP&PEUTAE&NYUE&LET&NGGAAM&MF",
    "IEE&NGGWAEN&YUOM&PAP&YUOP&NDAM&NTEUM&SUAE&KUN&NGGEUX&NGKIEE&TUOT&MEUN&KUQ&NSUM&TEUN&MAENJET&N",
    "GGAP&LEUM&NGGUOM&NSHUT&NJUEQ&GHEUAE&KU&REN du&TAE&TOQ&NYI&RII&LEEEE&MEEEE&M&SUU&MU&SHII&SHEUX",
    "&KYEE&NU&SHU&NTEE&PEE&NI&SHOQ&PUQ&MVOP&LOQ&REN MUCH&TI&NTUU&MBAA an&SAQ&FAA%PHASE-E NDAP&TOON",
    "&MBEUM&LAP&VOM&LOON&PAA&SOM&RAQ&NSHUOP&NDUN&PUAE&TAM&NGKA&KPEUX&WUO&SEE&NGGEUAET&PAAM&TOO&KUO",
    "P&LOM&NSHIEE&NGOP&MAEM&NGKEUX&NGOQ&NSHUE&RIMGBA&NJEUX&PEEM&SAA&NGGURAE&MGBA&GHEUX&NGKEUAEM&NJ",
    "AEMLI&MAP&LOOT&NGGEEEE&NDIQ&TAEN NTEUM&SET&PUM&NDAA SOFTNESS&NGGUAESHAE NYAM&YIEE&GHEUN&TUAE&",
    "YEUAE&PO&TUMAE&KEUAE&SUAEN&TEUAEQ&VEUAE&WEUX&LAAM&PU&TAAQ&GHAAMAE&NGEUREUT&SHEUAEQ&MGBEN&MBEE",
    "&NZAQ&NKOM&GBET&TUM&KUET&YAP&NYI CLEAVER&YIT&MFEUQ&NDIAQ&PIEEQ&YUEQ&LEUAEM&FUE&GBEUX&NGKUP&KE",
    "T&MAE&NGKAAMI&GHET&FA&NTUM&PEUT&YEUM&NGGEUAE&NYI kr&NZUQ&POON&MIEE&FUET&NAE&MUAE&GHEUAE&FU I&",
    "MVI&PUAQ&NGKUM&KUT&PIET&NTAP&YEUAET&NGGUP&PA PEOPLE&FU CALL&FOM&NJEE&A&TOQ&O&I&LAQ&PA PLURAL&",
    "TAA&TAQ&NDAA MY HOUSE&SHIQ&YEUX&NGUAE&YUAEN&YOQ SWIMMING(COVER&YUQ&YUN&KEUX&PEUX&NJEE EPOCH&P",
    "UE&WUE&FEE&VEE&LU&MI&REUX&RAE&NGUAET&cj&SHO&SHOQ&FU REMEDY&NA&PI&LOQ&KO&MEN&MA&MAQ&TEU&KI&MON",
    "&ca&FAQ&GHOM%PHASE-F KA&U&KU&EE&REE&TAE&NYI&LA&RII&RIEE&MEEEE&TAA&NDAA&NJAEM&M&SUU&SHII&SI&SE",
    "UX&KYEE&KET&NUAE&NU&NJUAE&YOQ&SHU&YA&NSHA&PEUX&NTEE&WUE&PEE&RU&NI&REUX&KEN&NGKWAEN&NGGA&SHO&P",
    "UAE&FOM&WA&LI&LOQ&KO&MBEN&REN&MA&MO&MBAA&TET&KPA&SAMBA&VUEQ@16A40!MRO b TA%NGI%YO%MIM%BA%DA%A",
    "%PHI%KHAI%HAO%DAI%CHU%KEAAE%OL%MAEM%NIN%PA%OO%O%RO%SHI%THEA%EA%WA%E%KO%LAN%LA%HAI%RI%TEK@16A6",
    "0$bh bt%o%l%s%w%aa%ag%an%ah%ar@16A6E$gv$p gv!TANGSA b OZ%OC%OQ%OX%AZ%AC%AQ%AX%VZ%VC%VQ%VX%EZ%",
    "EC%EQ%EX%IZ%IC%IQ%IX%UZ%UC%UQ%UX%AWZ%AWC%AWQ%AWX%UIZ%UIC%UIQ%UIX%n NG%bz UEX%ec UEZ&AWX%UEC%U",
    "EZ%UEQ%UEX%UIUZ%UIUC%UIUQ%UIUX%MZ%MC%MQ%MX%KA%cv%GA%cj%SA%YA%WA%PA%ct%dq%BA%MA%NA%HA%LA%HTA%T",
    "A%DA%RA%NHA%ck%CA%hb%ei%HTTA%df%XA%FA%eg%cr%ZA@16AC0$bh bt%o%l%s%w%aa%ag%an%ah%ar@16AD0!BASSA",
    " VAH b ENNI&KA&SE&FA&MBE&YIE&GAH&DHII&KPAH&JO&HWAH&WA&ZO&GBU&DO&CE&UWU&TO&BA&VU&YEIN&PA&WADDA",
    "&A&O&OO&U&EE&E&I@16AF0%fj ci cd&bn cd&MID cd&LOW-MID cd&HIGH-LOW cd%ea cl@16B00!PAHAWH HMONG ",
    "be KEEB&KEEV&KIB&KIV&KAUB&KAUV&KUB&KUV&KEB&KEV&KAIB&KAIV&KOOB&KOOV&KAWB&KAWV&KUAB&KUAV&KOB&KO",
    "V&KIAB&KIAV&KAB&KAV&KWB&KWV&KAAB&KAAV%is VAU&NTSAU&LAU&HAU&NLAU&RAU&NKAU&QHAU&YAU&HLAU&MAU&CH",
    "AU&NCHAU&HNAU&PLHAU&NTHAU&NAU&AU&XAU&CAU%r CIM TUB(SO(KES(KHAV(SUAM(HOM(TAUM%f VOS THOM(TSHAB",
    " CEEB&CIM CHEEM&VOS THIAB(FEEM&XYEEM NTXIV(RHO(TOV(FAIB&VOS SEEV&MEEJ SUAB&VOS NRUA&IB YAM&XA",
    "US&CIM TSOV ROG@16B50%bh bt&o&l&s&w&aa&ag&an&ah&ar@16B5B%cz TENS&HUNDREDS&ca st&tj&aq tj&ca B",
    "ILLIONS&TRILLIONS@16B63%f VOS LUB&XYOO&HLI&THIRD-STAGE HLI&ZWJ THAJ&HNUB&NQIG&XIAB&NTUJ&AV&TX",
    "HEEJ CEEV&MEEJ TSEEB&TAU&LOS&MUS&CIM HAIS LUS NTOG NTOG(CUAM TSHOOJ(TXWV)CHWV(PUB DAWB(NRES T",
    "OS@16B7D%CLAN f TSHEEJ(YEEG(LIS(LAUJ(XYOOJ(KOO(HAWJ(MUAS(THOJ(TSAB(PHAB(KHAB(HAM(VAJ(FAJ(YAJ(",
    "TSWB(KWM(VWJ@16E40!MEDEFAIDRIN e b M&S&V&W&ATIU&Z&KP&P&T&G&F&I&K&A&J&E&B&C&U&YU&L&Q&HP&NY&X&D",
    "&OE&N&R&O&AI&Y$c b M&S&V&W&ATIU&Z&KP&P&T&G&F&I&K&A&J&E&B&C&U&YU&L&Q&HP&NY&X&D&OE&N&R&O&AI&Y$b",
    "h bt%o%l%s%w%aa%ag%an%ah%ar$cz ca%ny%my%ss%rs%ox%qb%sl%qp%sd$bh o ir d%l ir d%s ir d$de$ea cl",
    "$z AIVA$hw OH@16F00!MIAO b PA%BA%YI PA%PLA%MA%MHA%jp MA%FA%VA%VFA%TA%DA%YI ee&TA%ee%ef%NA%NHA",
    "%YI eq%jp NA%eq%NNHA%LA%LYA%LHA%LHYA%TLHA%DLHA%TLHYA%DLHYA%KA%GA%YI KA%QA%QGA%cj%NGHA%jp cj%H",
    "A%XA%ei%GHHA%TSSA%DZZA%ct%NYHA%mi%DZHA%YI mi&DZHA%REFORMED mi%ck%fh%ZHA%ZSHA%hb%DZA%YI hb%SA%",
    "ZA%ZSA%ZZA%ZZSA%jp ZZA%ZZYA%ZZSYA%WA%AH%HHA%BRI%SYI%DZYI%TE%TSE%RTE@16F4F$f is gy ak$b yz$f A",
    "SPIRATION%REFORMED VOICING&ASPIRATION$be f A&AA&AHH&AN&ANG&O&OO&WO&W&E&EN&ENG&OEY&I&IA&IAN&IA",
    "NG&IO&IE&II&IU&ING&U&UA&UAN&UANG&UU&UEI&UNG&Y&YI&AE&AEE&ERR&py ERR&ER&py ER&AI&EI&AU&OU&N&NG&",
    "UOG&YUI&OG&OER&VW&IG&EA&IONG&UI@16F8F$cd i%ey i%j%m$b qd%rb%TONE-4%qe%TONE-6%TONE-7%TONE-8%RE",
    "FORMED TONE-1&qd&TONE-4&qe&TONE-6&TONE-8@16FE0!TANGUT qt r!NUSHU qt r!du CHINESE x r%qt r!KHI",
    "TAN c if qr@16FF0!VIETNAMESE ir READING r CA(NHAY@18800!TANGUT COMPONENT-001$COMPONENT-002$CO",
    "MPONENT-003$COMPONENT-004$COMPONENT-005$COMPONENT-006$COMPONENT-007$COMPONENT-008$COMPONENT-0",
    "09$COMPONENT-010$COMPONENT-011$COMPONENT-012$COMPONENT-013$COMPONENT-014$COMPONENT-015$COMPON",
    "ENT-016$COMPONENT-017$COMPONENT-018$COMPONENT-019$COMPONENT-020$COMPONENT-021$COMPONENT-022$C",
    "OMPONENT-023$COMPONENT-024$COMPONENT-025$COMPONENT-026$COMPONENT-027$COMPONENT-028$COMPONENT-",
    "029$COMPONENT-030$COMPONENT-031$COMPONENT-032$COMPONENT-033$COMPONENT-034$COMPONENT-035$COMPO",
    "NENT-036$COMPONENT-037$COMPONENT-038$COMPONENT-039$COMPONENT-040$COMPONENT-041$COMPONENT-042$",
    "COMPONENT-043$COMPONENT-044$COMPONENT-045$COMPONENT-046$COMPONENT-047$COMPONENT-048$COMPONENT",
    "-049$COMPONENT-050$COMPONENT-051$COMPONENT-052$COMPONENT-053$COMPONENT-054$COMPONENT-055$COMP",
    "ONENT-056$COMPONENT-057$COMPONENT-058$COMPONENT-059$COMPONENT-060$COMPONENT-061$COMPONENT-062",
    "$COMPONENT-063$COMPONENT-064$COMPONENT-065$COMPONENT-066$COMPONENT-067$COMPONENT-068$COMPONEN",
    "T-069$COMPONENT-070$COMPONENT-071$COMPONENT-072$COMPONENT-073$COMPONENT-074$COMPONENT-075$COM",
    "PONENT-076$COMPONENT-077$COMPONENT-078$COMPONENT-079$COMPONENT-080$COMPONENT-081$COMPONENT-08",
    "2$COMPONENT-083$COMPONENT-084$COMPONENT-085$COMPONENT-086$COMPONENT-087$COMPONENT-088$COMPONE",
    "NT-089$COMPONENT-090$COMPONENT-091$COMPONENT-092$COMPONENT-093$COMPONENT-094$COMPONENT-095$CO",
    "MPONENT-096$COMPONENT-097$COMPONENT-098$COMPONENT-099$COMPONENT-100$COMPONENT-101$COMPONENT-1",
    "02$COMPONENT-103$COMPONENT-104$COMPONENT-105$COMPONENT-106$COMPONENT-107$COMPONENT-108$COMPON",
    "ENT-109$COMPONENT-110$COMPONENT-111$COMPONENT-112$COMPONENT-113$COMPONENT-114$COMPONENT-115$C",
    "OMPONENT-116$COMPONENT-117$COMPONENT-118$COMPONENT-119$COMPONENT-120$COMPONENT-121$COMPONENT-",
    "122$COMPONENT-123$COMPONENT-124$COMPONENT-125$COMPONENT-126$COMPONENT-127$COMPONENT-128$COMPO",
    "NENT-129$COMPONENT-130$COMPONENT-131$COMPONENT-132$COMPONENT-133$COMPONENT-134$COMPONENT-135$",
    "COMPONENT-136$COMPONENT-137$COMPONENT-138$COMPONENT-139$COMPONENT-140$COMPONENT-141$COMPONENT",
    "-142$COMPONENT-143$COMPONENT-144$COMPONENT-145$COMPONENT-146$COMPONENT-147$COMPONENT-148$COMP",
    "ONENT-149$COMPONENT-150$COMPONENT-151$COMPONENT-152$COMPONENT-153$COMPONENT-154$COMPONENT-155",
    "$COMPONENT-156$COMPONENT-157$COMPONENT-158$COMPONENT-159$COMPONENT-160$COMPONENT-161$COMPONEN",
    "T-162$COMPONENT-163$COMPONENT-164$COMPONENT-165$COMPONENT-166$COMPONENT-167$COMPONENT-168$COM",
    "PONENT-169$COMPONENT-170$COMPONENT-171$COMPONENT-172$COMPONENT-173$COMPONENT-174$COMPONENT-17",
    "5$COMPONENT-176$COMPONENT-177$COMPONENT-178$COMPONENT-179$COMPONENT-180$COMPONENT-181$COMPONE",
    "NT-182$COMPONENT-183$COMPONENT-184$COMPONENT-185$COMPONENT-186$COMPONENT-187$COMPONENT-188$CO",
    "MPONENT-189$COMPONENT-190$COMPONENT-191$COMPONENT-192$COMPONENT-193$COMPONENT-194$COMPONENT-1",
    "95$COMPONENT-196$COMPONENT-197$COMPONENT-198$COMPONENT-199$COMPONENT-200$COMPONENT-201$COMPON",
    "ENT-202$COMPONENT-203$COMPONENT-204$COMPONENT-205$COMPONENT-206$COMPONENT-207$COMPONENT-208$C",
    "OMPONENT-209$COMPONENT-210$COMPONENT-211$COMPONENT-212$COMPONENT-213$COMPONENT-214$COMPONENT-",
    "215$COMPONENT-216$COMPONENT-217$COMPONENT-218$COMPONENT-219$COMPONENT-220$COMPONENT-221$COMPO",
    "NENT-222$COMPONENT-223$COMPONENT-224$COMPONENT-225$COMPONENT-226$COMPONENT-227$COMPONENT-228$",
    "COMPONENT-229$COMPONENT-230$COMPONENT-231$COMPONENT-232$COMPONENT-233$COMPONENT-234$COMPONENT",
    "-235$COMPONENT-236$COMPONENT-237$COMPONENT-238$COMPONENT-239$COMPONENT-240$COMPONENT-241$COMP",
    "ONENT-242$COMPONENT-243$COMPONENT-244$COMPONENT-245$COMPONENT-246$COMPONENT-247$COMPONENT-248",
    "$COMPONENT-249$COMPONENT-250$COMPONENT-251$COMPONENT-252$COMPONENT-253$COMPONENT-254$COMPONEN",
    "T-255$COMPONENT-256$COMPONENT-257$COMPONENT-258$COMPONENT-259$COMPONENT-260$COMPONENT-261$COM",
    "PONENT-262$COMPONENT-263$COMPONENT-264$COMPONENT-265$COMPONENT-266$COMPONENT-267$COMPONENT-26",
    "8$COMPONENT-269$COMPONENT-270$COMPONENT-271$COMPONENT-272$COMPONENT-273$COMPONENT-274$COMPONE",
    "NT-275$COMPONENT-276$COMPONENT-277$COMPONENT-278$COMPONENT-279$COMPONENT-280$COMPONENT-281$CO",
    "MPONENT-282$COMPONENT-283$COMPONENT-284$COMPONENT-285$COMPONENT-286$COMPONENT-287$COMPONENT-2",
    "88$COMPONENT-289$COMPONENT-290$COMPONENT-291$COMPONENT-292$COMPONENT-293$COMPONENT-294$COMPON",
    "ENT-295$COMPONENT-296$COMPONENT-297$COMPONENT-298$COMPONENT-299$COMPONENT-300$COMPONENT-301$C",
    "OMPONENT-302$COMPONENT-303$COMPONENT-304$COMPONENT-305$COMPONENT-306$COMPONENT-307$COMPONENT-",
    "308$COMPONENT-309$COMPONENT-310$COMPONENT-311$COMPONENT-312$COMPONENT-313$COMPONENT-314$COMPO",
    "NENT-315$COMPONENT-316$COMPONENT-317$COMPONENT-318$COMPONENT-319$COMPONENT-320$COMPONENT-321$",
    "COMPONENT-322$COMPONENT-323$COMPONENT-324$COMPONENT-325$COMPONENT-326$COMPONENT-327$COMPONENT",
    "-328$COMPONENT-329$COMPONENT-330$COMPONENT-331$COMPONENT-332$COMPONENT-333$COMPONENT-334$COMP",
    "ONENT-335$COMPONENT-336$COMPONENT-337$COMPONENT-338$COMPONENT-339$COMPONENT-340$COMPONENT-341",
    "$COMPONENT-342$COMPONENT-343$COMPONENT-344$COMPONENT-345$COMPONENT-346$COMPONENT-347$COMPONEN",
    "T-348$COMPONENT-349$COMPONENT-350$COMPONENT-351$COMPONENT-352$COMPONENT-353$COMPONENT-354$COM",
    "PONENT-355$COMPONENT-356$COMPONENT-357$COMPONENT-358$COMPONENT-359$COMPONENT-360$COMPONENT-36",
    "1$COMPONENT-362$COMPONENT-363$COMPONENT-364$COMPONENT-365$COMPONENT-366$COMPONENT-367$COMPONE",
    "NT-368$COMPONENT-369$COMPONENT-370$COMPONENT-371$COMPONENT-372$COMPONENT-373$COMPONENT-374$CO",
    "MPONENT-375$COMPONENT-376$COMPONENT-377$COMPONENT-378$COMPONENT-379$COMPONENT-380$COMPONENT-3",
    "81$COMPONENT-382$COMPONENT-383$COMPONENT-384$COMPONENT-385$COMPONENT-386$COMPONENT-387$COMPON",
    "ENT-388$COMPONENT-389$COMPONENT-390$COMPONENT-391$COMPONENT-392$COMPONENT-393$COMPONENT-394$C",
    "OMPONENT-395$COMPONENT-396$COMPONENT-397$COMPONENT-398$COMPONENT-399$COMPONENT-400$COMPONENT-",
    "401$COMPONENT-402$COMPONENT-403$COMPONENT-404$COMPONENT-405$COMPONENT-406$COMPONENT-407$COMPO",
    "NENT-408$COMPONENT-409$COMPONENT-410$COMPONENT-411$COMPONENT-412$COMPONENT-413$COMPONENT-414$",
    "COMPONENT-415$COMPONENT-416$COMPONENT-417$COMPONENT-418$COMPONENT-419$COMPONENT-420$COMPONENT",
    "-421$COMPONENT-422$COMPONENT-423$COMPONENT-424$COMPONENT-425$COMPONENT-426$COMPONENT-427$COMP",
    "ONENT-428$COMPONENT-429$COMPONENT-430$COMPONENT-431$COMPONENT-432$COMPONENT-433$COMPONENT-434",
    "$COMPONENT-435$COMPONENT-436$COMPONENT-437$COMPONENT-438$COMPONENT-439$COMPONENT-440$COMPONEN",
    "T-441$COMPONENT-442$COMPONENT-443$COMPONENT-444$COMPONENT-445$COMPONENT-446$COMPONENT-447$COM",
    "PONENT-448$COMPONENT-449$COMPONENT-450$COMPONENT-451$COMPONENT-452$COMPONENT-453$COMPONENT-45",
    "4$COMPONENT-455$COMPONENT-456$COMPONENT-457$COMPONENT-458$COMPONENT-459$COMPONENT-460$COMPONE",
    "NT-461$COMPONENT-462$COMPONENT-463$COMPONENT-464$COMPONENT-465$COMPONENT-466$COMPONENT-467$CO",
    "MPONENT-468$COMPONENT-469$COMPONENT-470$COMPONENT-471$COMPONENT-472$COMPONENT-473$COMPONENT-4",
    "74$COMPONENT-475$COMPONENT-476$COMPONENT-477$COMPONENT-478$COMPONENT-479$COMPONENT-480$COMPON",
    "ENT-481$COMPONENT-482$COMPONENT-483$COMPONENT-484$COMPONENT-485$COMPONENT-486$COMPONENT-487$C",
    "OMPONENT-488$COMPONENT-489$COMPONENT-490$COMPONENT-491$COMPONENT-492$COMPONENT-493$COMPONENT-",
    "494$COMPONENT-495$COMPONENT-496$COMPONENT-497$COMPONENT-498$COMPONENT-499$COMPONENT-500$COMPO",
    "NENT-501$COMPONENT-502$COMPONENT-503$COMPONENT-504$COMPONENT-505$COMPONENT-506$COMPONENT-507$",
    "COMPONENT-508$COMPONENT-509$COMPONENT-510$COMPONENT-511$COMPONENT-512$COMPONENT-513$COMPONENT",
    "-514$COMPONENT-515$COMPONENT-516$COMPONENT-517$COMPONENT-518$COMPONENT-519$COMPONENT-520$COMP",
    "ONENT-521$COMPONENT-522$COMPONENT-523$COMPONENT-524$COMPONENT-525$COMPONENT-526$COMPONENT-527",
    "$COMPONENT-528$COMPONENT-529$COMPONENT-530$COMPONENT-531$COMPONENT-532$COMPONENT-533$COMPONEN",
    "T-534$COMPONENT-535$COMPONENT-536$COMPONENT-537$COMPONENT-538$COMPONENT-539$COMPONENT-540$COM",
    "PONENT-541$COMPONENT-542$COMPONENT-543$COMPONENT-544$COMPONENT-545$COMPONENT-546$COMPONENT-54",
    "7$COMPONENT-548$COMPONENT-549$COMPONENT-550$COMPONENT-551$COMPONENT-552$COMPONENT-553$COMPONE",
    "NT-554$COMPONENT-555$COMPONENT-556$COMPONENT-557$COMPONENT-558$COMPONENT-559$COMPONENT-560$CO",
    "MPONENT-561$COMPONENT-562$COMPONENT-563$COMPONENT-564$COMPONENT-565$COMPONENT-566$COMPONENT-5",
    "67$COMPONENT-568$COMPONENT-569$COMPONENT-570$COMPONENT-571$COMPONENT-572$COMPONENT-573$COMPON",
    "ENT-574$COMPONENT-575$COMPONENT-576$COMPONENT-577$COMPONENT-578$COMPONENT-579$COMPONENT-580$C",
    "OMPONENT-581$COMPONENT-582$COMPONENT-583$COMPONENT-584$COMPONENT-585$COMPONENT-586$COMPONENT-",
    "587$COMPONENT-588$COMPONENT-589$COMPONENT-590$COMPONENT-591$COMPONENT-592$COMPONENT-593$COMPO",
    "NENT-594$COMPONENT-595$COMPONENT-596$COMPONENT-597$COMPONENT-598$COMPONENT-599$COMPONENT-600$",
    "COMPONENT-601$COMPONENT-602$COMPONENT-603$COMPONENT-604$COMPONENT-605$COMPONENT-606$COMPONENT",
    "-607$COMPONENT-608$COMPONENT-609$COMPONENT-610$COMPONENT-611$COMPONENT-612$COMPONENT-613$COMP",
    "ONENT-614$COMPONENT-615$COMPONENT-616$COMPONENT-617$COMPONENT-618$COMPONENT-619$COMPONENT-620",
    "$COMPONENT-621$COMPONENT-622$COMPONENT-623$COMPONENT-624$COMPONENT-625$COMPONENT-626$COMPONEN",
    "T-627$COMPONENT-628$COMPONENT-629$COMPONENT-630$COMPONENT-631$COMPONENT-632$COMPONENT-633$COM",
    "PONENT-634$COMPONENT-635$COMPONENT-636$COMPONENT-637$COMPONENT-638$COMPONENT-639$COMPONENT-64",
    "0$COMPONENT-641$COMPONENT-642$COMPONENT-643$COMPONENT-644$COMPONENT-645$COMPONENT-646$COMPONE",
    "NT-647$COMPONENT-648$COMPONENT-649$COMPONENT-650$COMPONENT-651$COMPONENT-652$COMPONENT-653$CO",
    "MPONENT-654$COMPONENT-655$COMPONENT-656$COMPONENT-657$COMPONENT-658$COMPONENT-659$COMPONENT-6",
    "60$COMPONENT-661$COMPONENT-662$COMPONENT-663$COMPONENT-664$COMPONENT-665$COMPONENT-666$COMPON",
    "ENT-667$COMPONENT-668$COMPONENT-669$COMPONENT-670$COMPONENT-671$COMPONENT-672$COMPONENT-673$C",
    "OMPONENT-674$COMPONENT-675$COMPONENT-676$COMPONENT-677$COMPONENT-678$COMPONENT-679$COMPONENT-",
    "680$COMPONENT-681$COMPONENT-682$COMPONENT-683$COMPONENT-684$COMPONENT-685$COMPONENT-686$COMPO",
    "NENT-687$COMPONENT-688$COMPONENT-689$COMPONENT-690$COMPONENT-691$COMPONENT-692$COMPONENT-693$",
    "COMPONENT-694$COMPONENT-695$COMPONENT-696$COMPONENT-697$COMPONENT-698$COMPONENT-699$COMPONENT",
    "-700$COMPONENT-701$COMPONENT-702$COMPONENT-703$COMPONENT-704$COMPONENT-705$COMPONENT-706$COMP",
    "ONENT-707$COMPONENT-708$COMPONENT-709$COMPONENT-710$COMPONENT-711$COMPONENT-712$COMPONENT-713",
    "$COMPONENT-714$COMPONENT-715$COMPONENT-716$COMPONENT-717$COMPONENT-718$COMPONENT-719$COMPONEN",
    "T-720$COMPONENT-721$COMPONENT-722$COMPONENT-723$COMPONENT-724$COMPONENT-725$COMPONENT-726$COM",
    "PONENT-727$COMPONENT-728$COMPONENT-729$COMPONENT-730$COMPONENT-731$COMPONENT-732$COMPONENT-73",
    "3$COMPONENT-734$COMPONENT-735$COMPONENT-736$COMPONENT-737$COMPONENT-738$COMPONENT-739$COMPONE",
    "NT-740$COMPONENT-741$COMPONENT-742$COMPONENT-743$COMPONENT-744$COMPONENT-745$COMPONENT-746$CO",
    "MPONENT-747$COMPONENT-748$COMPONENT-749$COMPONENT-750$COMPONENT-751$COMPONENT-752$COMPONENT-7",
    "53$COMPONENT-754$COMPONENT-755$COMPONENT-756$COMPONENT-757$COMPONENT-758$COMPONENT-759$COMPON",
    "ENT-760$COMPONENT-761$COMPONENT-762$COMPONENT-763$COMPONENT-764$COMPONENT-765$COMPONENT-766$C",
    "OMPONENT-767$COMPONENT-768!KHITAN c if CHARACTER-#(((((((((((((((((((((((((((((((((((((((((((",
    "(((((((((((((((((((((((((((((((((((((((((((((((((((((((((((((((((((((((((((((((((((((((((((((",
    "(((((((((((((((((((((((((((((((((((((((((((((((((((((((((((((((((((((((((((((((((((((((((((((",
    "(((((((((((((((((((((((((((((((((((((((((((((((((((((((((((((((((((((((((((((((((((((((((((((",
    "(((((((((((((((((((((((((((((((((((((((((((((((((((((((((((((((((((((((((((((((((((((((((((((",
    "((((((((((((((((((((((((((((((((((((((((((((((((((((((@1AFF0!oz b MINNAN qd&rb&TONE-4&qe@1AFF",
    "5&TONE-7&TONE-8&NASALIZED TONE-1(qd(rb(TONE-4(qe@1AFFD(TONE-7(TONE-8@1B000%jp E!uk b jp YE!HE",
    "NTAIGANA b A-1%A-2%A-3%A-WO%I-1%I-2%I-3%I-4%U-1%U-2%U-3%U-4%U-5%E-2%E-3%E-4%E-5%E-6%O-1%O-2%O",
    "-3%KA-1%KA-2%KA-3%KA-4%KA-5%KA-6%KA-7%KA-8%KA-9%KA-10%KA-11%KA-KE%KI-1%KI-2%KI-3%KI-4%KI-5%KI",
    "-6%KI-7%KI-8%KU-1%KU-2%KU-3%KU-4%KU-5%KU-6%KU-7%KE-1%KE-2%KE-3%KE-4%KE-5%KE-6%KO-1%KO-2%KO-3%",
    "KO-KI%SA-1%SA-2%SA-3%SA-4%SA-5%SA-6%SA-7%SA-8%SI-1%SI-2%SI-3%SI-4%SI-5%SI-6%SU-1%SU-2%SU-3%SU",
    "-4%SU-5%SU-6%SU-7%SU-8%SE-1%SE-2%SE-3%SE-4%SE-5%SO-1%SO-2%SO-3%SO-4%SO-5%SO-6%SO-7%TA-1%TA-2%",
    "TA-3%TA-4%TI-1%TI-2%TI-3%TI-4%TI-5%TI-6%TI-7%TU-1%TU-2%TU-3%TU-4%TU-TO%TE-1%TE-2%TE-3%TE-4%TE",
    "-5%TE-6%TE-7%TE-8%TE-9%TO-1%TO-2%TO-3%TO-4%TO-5%TO-6%TO-RA%NA-1%NA-2%NA-3%NA-4%NA-5%NA-6%NA-7",
    "%NA-8%NA-9%NI-1%NI-2%NI-3%NI-4%NI-5%NI-6%NI-7%NI-TE%NU-1%NU-2%NU-3%NE-1%NE-2%NE-3%NE-4%NE-5%N",
    "E-6%NE-KO%NO-1%NO-2%NO-3%NO-4%NO-5%HA-1%HA-2%HA-3%HA-4%HA-5%HA-6%HA-7%HA-8%HA-9%HA-10%HA-11%H",
    "I-1%HI-2%HI-3%HI-4%HI-5%HI-6%HI-7%HU-1%HU-2%HU-3%HE-1%HE-2%HE-3%HE-4%HE-5%HE-6%HE-7%HO-1%HO-2",
    "%HO-3%HO-4%HO-5%HO-6%HO-7%HO-8%MA-1%MA-2%MA-3%MA-4%MA-5%MA-6%MA-7%MI-1%MI-2%MI-3%MI-4%MI-5%MI",
    "-6%MI-7%MU-1%MU-2%MU-3%MU-4%ME-1%ME-2%ME-MA%MO-1%MO-2%MO-3%MO-4%MO-5%MO-6%YA-1%YA-2%YA-3%YA-4",
    "%YA-5%YA-YO%YU-1%YU-2%YU-3%YU-4%YO-1%YO-2%YO-3%YO-4%YO-5%YO-6%RA-1%RA-2%RA-3%RA-4%RI-1%RI-2%R",
    "I-3%RI-4%RI-5%RI-6%RI-7%RU-1%RU-2%RU-3%RU-4%RU-5%RU-6%RE-1%RE-2%RE-3%RE-4%RO-1%RO-2%RO-3%RO-4",
    "%RO-5%RO-6%WA-1%WA-2%WA-3%WA-4%WA-5%WI-1%WI-2%WI-3%WI-4%WI-5%WE-1%WE-2%WE-3%WE-4%WO-1%WO-2%WO",
    "-3%WO-4%WO-5%WO-6%WO-7%N-MU-MO-1%N-MU-MO-2!uk b jp WU!oz b jp YI&YE&WU@1B150!uk b c WI&WE&WO@",
    "1B164!oz b c WI&WE&WO&N@1B170!NUSHU CHARACTER-#%%%%%%%%%%%%%%%%%%%%%%%%%%%%%%%%%%%%%%%%%%%%%%",
    "%%%%%%%%%%%%%%%%%%%%%%%%%%%%%%%%%%%%%%%%%%%%%%%%%%%%%%%%%%%%%%%%%%%%%%%%%%%%%%%%%%%%%%%%%%%%%",
    "%%%%%%%%%%%%%%%%%%%%%%%%%%%%%%%%%%%%%%%%%%%%%%%%%%%%%%%%%%%%%%%%%%%%%%%%%%%%%%%%%%%%%%%%%%%%%",
    "%%%%%%%%%%%%%%%%%%%%%%%%%%%%%%%%%%%%%%%%%%%%%%%%%%%%%%%%%%%%%%%%%%%%%%%%%%%%%%%%%%%%%%%%%%%%%",
    "%%%%%%%%%%%%%%%%%%%%%%%%%%%%%%%%%%%%%%%%%%%%%%%%%%%%%%%%%%%%%%%%%%%%%%@1BC00!DUPLOYAN b H%X%P",
    "%T%F%K%L%B%D%V%G%R%P N%D S%F N%K M%R S%TH%SLOAN DH%DH%KK%SLOAN J%HL%LH%RH%M%N%J%S%M N%N M%J M",
    "%S J%M a q%N a q%J a q(aw ju g j%S a q)m%M S%N S%J S%S S%M N S%N M S%J M S%S J S%J S a q&N(S%",
    "S T(R&P(R%T S&R S%W%WH%W R%S N&M%K R S%G R S%S K(R%A%SLOAN OW%OA%O%AOU%I%E%IE%ec I%UI%EE%SLOA",
    "N EH%ROMANIAN I%SLOAN EE%bz I%YE%U%EU%XW%U N%bz U%ROMANIAN U%UH%SLOAN U%OOH%OW%OU%WA%WO%WI%WE",
    "I%WOW%NASAL U&O&I&A%PERNIN AN&AM%SLOAN EN&AN&ON%dl M@1BC70$AFFIX k bf sk%MID bf sk%i bf sk%bn",
    " af sk%MID af sk%ci af sk%tx sk&vy sk&TANGENT&dr&E x&I x&TANGENT x@1BC80%ci bo&TIGHT bo&cp&bz",
    " cp&q&av&cs&jh&af@1BC90%bn bo&TIGHT bo&cp&bz cp&q&av&cs&jh&af&h@1BC9C$f O a el$THICK b SELECT",
    "OR$p r$eu CHINOOK ea cl!SHORTHAND FORMAT b OVERLAP%CONTINUING OVERLAP%ap STEP%UP STEP@1CF00!Z",
    "NAMENNY fj r GORAZDO NIZKO S od ON k&NIZKO S od ON k&TSATA ON k&GORAZDO NIZKO ON k&NIZKO ON k",
    "&SREDNE ON k&MALO ok ON k&ok ON k&VYSOKO ON k&MALO ok S uq ON k&ok S uq ON k&VYSOKO S uq ON k",
    "&GORAZDO NIZKO S od ON i&NIZKO S od ON i&TSATA ON i&GORAZDO NIZKO ON i&NIZKO ON i&SREDNE ON i",
    "&MALO ok ON i&ok ON i&VYSOKO ON i&MALO ok S uq ON i&ok S uq ON i&VYSOKO S uq ON i&TSATA S od&",
    "MALO ok S od&STRANNO MALO ok&ok S od(STRANNO&VYSOKO S od&MALO ok STRANNO&GORAZDO VYSOKO&ZELO&",
    "ON&RAVNO&TIKHAYA&BORZAYA&UDARKA&PODVERTKA&LOMKA&KUPNAYA&KACHKA&ZEVOK&SKOBA&RAZSEKA&KRYZH ON k",
    "@1CF30%TONAL RANGE r MRACHNO)SVETLO)TRESVETLO%r ZADERZHKA&DEMESTVENNY ZADERZHKA&OTSECHKA&PODC",
    "HASHIE(a af y&CHASHKA(POLNAYA&OBLACHKO&SOROCHYA NOZHKA&TOCHKA&DVOETOCHIE%ATTACHING af OMET%r ",
    "ov OMET&KRYZH%bk TONAL RANGE ru$PRIZNAK gy LEVEL-2&LEVEL-3&DIRECTION FLIP&KRYZH&ROG@1CF50$NEU",
    "ME KRYUK&TIKHY%PARAKLIT%DVA V CHELNU%KLYUCH%ZANOZHEK%STOPITSA&S OCHKOM%PEREVODKA&wb%STOPITSA ",
    "a SOROCHYA NOZHKA%CHELYUSTKA%PALKA%sw%GOLUBCHIK BORZY&TIKHY&MRACHNY&SVETLY&TRESVETLY%VRAKHIYA",
    " PROSTAYA&MRACHNAYA&sq&yo&ti PROSTAYA(MRACHNAYA(sq(yo%p sw%cg CHELYUSTKA%DERBITSA%KHAMILO%CHA",
    "SHKA%PODCHASHIE%SKAMEYTSA MRACHNAYA&sq&yo&TIKHAYA%DEMESTVENNY KLYUCH%SKAMEYTSA ti sq&zs&ti TI",
    "KHAYA&ys PROSTAYA(sq(wb(ti%SLOZHITIE&S vd&ZAKRYTOE&S od%KRYZH%ROG%FITA%KOBYLA%ZMEYTSA%STATYA&",
    "S vd(od(vd I od(od I vd&ZAKRYTAYA(S vd&S ROGOM(DVUMYA ZAPYATYMI(vd I PODCHASHIEM%POLKULIZMY%S",
    "TATYA wb%STRELA PROSTAYA&MRACHNOTIKHAYA&KRYZHEVAYA&POLUPOVODNAYA&xv&wb&KLYUCHEPOVODNAYA&zs&TI",
    "KHAYA PUTNAYA&ys&DVOECHELNOKRYZHEVAYA&zp&ys ti&zp ti&GROMNAYA a cq sw&xc a cq sw&GROMNAYA&xc(",
    "a p sw&GROMOKRYZHEVAYA(xv%MECHIK&POVODNY&KLYUCHEVOY&KLYUCHEPOVODNY&KLYUCHENEPOSTOYANNY%STRELA",
    " TRYASOGLASNAYA&TRYASOPOVODNAYA&TRYASOSTRELNAYA%OSOKA&sq&yo&KRYUKOVAYA sq&ti sq(wb%STRELA KRY",
    "UKOVAYA(xv(GROMNAYA a cq sw(xc a cq sw(GROMNAYA(xc)a p sw(GROMOKRYZHEVAYA)xv(TRYASKA%KUFISMA%",
    "OBLAKO%DUDA%NEMKA%PAUK@1D000!BYZANTINE oh z cf&DASEIA&et&OXEIA wx(DIPLI&VAREIA wx(DIPLI&KATHI",
    "STI&SYRMATIKI&PARAKLITIKI&YPOKRISIS(DIPLI&KREMASTI&APESO wx&EXO wx&TELEIA&vw&APOSTROFOS(DIPLI",
    "&SYNEVMA&THITA&OLIGON jq&GORGON jq&PSILON&CHAMILON&VATHY&ISON jq&KENTIMA jq&vw jq&SAXIMATA&PA",
    "RICHON&STAVROS APODEXIA&OXEIAI jq&VAREIAI jq&APODERMA jq&APOTHEMA&KLASMA&REVMA&PIASMA jq&TINA",
    "GMA&ANATRICHISMA&SEISMA&SYNAGMA jq(META STAVROU&OYRANISMA jq&THEMA&LEMOI&DYO&TRIA&TESSERA&KRA",
    "TIMATA&APESO EXO NEO&FTHORA jq&IMIFTHORA&TROMIKON jq&KATAVA TROMIKON&PELASTON&PSIFISTON&KONTE",
    "VMA&CHOREVMA jq&RAPISMA&PARAKALESMA jq&PARAKLITIKI jq&ICHADIN&NANA&PETASMA&KONTEVMA ALLO&TROM",
    "IKON ALLO&STRAGGISMATA&GRONTHISMATA&ISON NEO&OLIGON NEO&OXEIA NEO&PETASTI&KOUFISMA&PETASTOKOU",
    "FISMA&KRATIMOKOUFISMA&PELASTON NEO&vw NEO ANO&KENTIMA NEO ANO&YPSILI&APOSTROFOS NEO&APOSTROFO",
    "I SYNDESMOS NEO&YPORROI&KRATIMOYPORROON&ELAFRON&CHAMILI&MIKRON ISON&VAREIA NEO&PIASMA NEO&PSI",
    "FISTON NEO&OMALON&ANTIKENOMA&LYGISMA&PARAKLITIKI NEO&PARAKALESMA NEO&ETERON PARAKALESMA&KYLIS",
    "MA&ANTIKENOKYLISMA&TROMIKON NEO&EKSTREPTON&SYNAGMA NEO&SYRMA&CHOREVMA NEO&EPEGERMA&SEISMA NEO",
    "&XIRON KLASMA&TROMIKOPSIFISTON&PSIFISTOLYGISMA&TROMIKOLYGISMA&TROMIKOPARAKALESMA&PSIFISTOPARA",
    "KALESMA&TROMIKOSYNAGMA&PSIFISTOSYNAGMA&GORGOSYNTHETON&ARGOSYNTHETON&ETERON ARGOSYNTHETON&OYRA",
    "NISMA NEO&THEMATISMOS ESO(EXO&THEMA APLOUN&THES KAI APOTHES&KATAVASMA&ENDOFONON&YFEN KATO(ANO",
    "&STAVROS&KLASMA ANO&DIPLI jq&KRATIMA jq(ALLO(NEO&APODERMA NEO&APLI&DIPLI&TRIPLI&TETRAPLI&KORO",
    "NIS&LEIMMA ENOS CHRONOU(DYO CHRONON(TRION CHRONON(TESSARON CHRONON(IMISEOS CHRONOU&GORGON NEO",
    " ANO(PARESTIGMENON ARISTERA)DEXIA&DIGORGON(PARESTIGMENON ARISTERA KATO*ANO)DEXIA&TRIGORGON&AR",
    "GON&IMIDIARGON&DIARGON&AGOGI POLI ARGI(ARGOTERI(ARGI(METRIA(MESI(GORGI(GORGOTERI(POLI GORGI&M",
    "ARTYRIA PROTOS nf(ALLI PROTOS nf(DEYTEROS nf(ALLI DEYTEROS nf(TRITOS nf(TRIFONIAS(TETARTOS nf",
    ")LEGETOS nf(LEGETOS nf(PLAGIOS nf&ISAKIA TELOUS ICHIMATOS&APOSTROFOI TELOUS ICHIMATOS&FANEROS",
    "IS TETRAFONIAS(MONOFONIAS(DIFONIAS&MARTYRIA VARYS nf(PROTOVARYS nf(PLAGIOS TETARTOS nf&GORTHM",
    "IKON N APLOUN)DIPLOUN&ENARXIS KAI FTHORA VOU&IMIFONON&IMIFTHORON&FTHORA jq DEYTEROU ICHOU(DIA",
    "TONIKI PA)NANA(NAOS nf(DIATONIKI DI(SKLIRON DIATONON DI(DIATONIKI KE)ZO)NI KATO*ANO(MALAKON C",
    "HROMA DIFONIAS*MONOFONIAS&FHTORA SKLIRON CHROMA VASIS&FTHORA SKLIRON CHROMA SYNAFI(NENANO&CHR",
    "OA ZYGOS(KLITON(SPATHI&FTHORA I YFESIS TETARTIMORION(ENARMONIOS ANTIFONIA&YFESIS TRITIMORION&",
    "DIESIS TRITIMORION(TETARTIMORION(APLI DYO rm(MONOGRAMMOS TESSERA rm(DIGRAMMOS EX rm(TRIGRAMMO",
    "S OKTO rm&YFESIS APLI DYO rm(MONOGRAMMOS TESSERA rm(DIGRAMMOS EX rm(TRIGRAMMOS OKTO rm&GENIKI",
    " DIESIS(YFESIS&DIASTOLI APLI MIKRI)MEGALI(DIPLI(THESEOS&SIMANSIS THESEOS)DISIMOU)TRISIMOU)TET",
    "RASIMOU(ARSEOS)DISIMOU)TRISIMOU)TETRASIMOU&DIGRAMMA GG&DIFTOGGOS OU&STIGMA&ARKTIKO PA(VOU(GA(",
    "DI(KE(ZO(NI&vw NEO MESO&KENTIMA NEO MESO&vw NEO KATO&KENTIMA NEO KATO&KLASMA KATO&GORGON NEO ",
    "KATO@1D100!oh z cq ty%p ty%n ty%jk n ty%ne ty%ec ty%k REPEAT f%i REPEAT f%REPEAT aw%DAL SEGNO",
    "%DA CAPO%SEGNO%CODA%REPEATED FIGURE-1&FIGURE-2&FIGURE-3%FERMATA&m%BREATH r%CAESURA%BRACE%as%O",
    "NE-LINE STAFF%TWO-LINE STAFF%THREE-LINE STAFF%FOUR-LINE STAFF%FIVE-LINE STAFF%SIX-LINE STAFF%",
    "SIX-STRING FRETBOARD%FOUR-STRING FRETBOARD%G CLEF(OTTAVA ALTA)BASSA%C CLEF%F CLEF(OTTAVA ALTA",
    ")BASSA%DRUM CLEF-1&CLEF-2@1D129%nj us km%p SHARP&FLAT%FLAT UP&ap%NATURAL UP&ap%SHARP UP&ap%gi",
    " cd SHARP(FLAT%COMMON TIME%CUT TIME%OTTAVA ALTA&BASSA%QUINDICESIMA ALTA&BASSA%MULTI km%WHOLE ",
    "km%ao km%gi km%hs km%ux km%zm km%zl km%o aq TWENTY-EIGHTH km%X oi%al oi%av X oi%au oi v(t%bl ",
    "oi UP v)t(k v)t(i v)t(ap v)t(UP i v*t%hx oi v(t%TRIANGLE-ROUND oi ap v)t%ew oi%VOID oi%oi t%N",
    "ULL oi%CLUSTER oi v(t%dn%WHOLE jn%ao jn%gi jn%hs jn%ux jn%zm jn%zl jn%o aq TWENTY-EIGHTH jn%f",
    "j STEM&SPRECHGESANG STEM&TREMOLO-1&TREMOLO-2&TREMOLO-3%FINGERED TREMOLO-1&TREMOLO-2&TREMOLO-3",
    "%fj AUGMENTATION q&FLAG-1&FLAG-2&FLAG-3&FLAG-4&FLAG-5%BEGIN BEAM%gw BEAM%BEGIN TIE%gw TIE%BEG",
    "IN SLUR%gw SLUR%BEGIN PHRASE%gw PHRASE%fj fi&STACCATO&TENUTO&STACCATISSIMO&MARCATO&MARCATO-ST",
    "ACCATO&ACCENT-STACCATO&LOURE%ARPEGGIATO UP&ap%fj DOIT&RIP&FLIP&SMEAR&BEND&p TONGUE&em TONGUE%",
    "RINFORZANDO%SUBITO%Z%PIANO%MEZZO%FORTE%CRESCENDO%DECRESCENDO%GRACE jn lo(NO lo%TR%TURN%cu TUR",
    "N%TURN lo&UP%dz STROKE-1&STROKE-2&STROKE-3&STROKE-4&STROKE-5&STROKE-6&STROKE-7&STROKE-8&STROK",
    "E-9&STROKE-10&STROKE-11%HAUPTSTIMME%NEBENSTIMME%gw OF STIMME%DEGREE lo%fj ap BOW&UP BOW&HARMO",
    "NIC&SNAP PIZZICATO%PEDAL r&UP r%ao PEDAL r%GLISSANDO UP&ap%a FINGERNAILS%DAMP&ALL%MAXIMA%LONG",
    "A%BREVIS%SEMIBREVIS v&t%MINIMA&t%SEMIMINIMA v&t%FUSA v&t%LONGA PERFECTA km&IMPERFECTA km%BREV",
    "IS km%SEMIBREVIS km%MINIMA km%SEMIMINIMA km%TEMPUS PERFECTUM CUM PROLATIONE PERFECTA*IMPERFEC",
    "TA*PERFECTA DIMINUTION-1&IMPERFECTUM CUM PROLATIONE PERFECTA*IMPERFECTA+DIMINUTION-1+DIMINUTI",
    "ON-2+DIMINUTION-3%CROIX%GREGORIAN C CLEF&F CLEF%au B%VIRGA%PODATUS%CLIVIS%SCANDICUS%CLIMACUS%",
    "TORCULUS%PORRECTUS&FLEXUS%SCANDICUS FLEXUS%TORCULUS RESUPINUS%PES SUBPUNCTIS%KIEVAN C CLEF&gw",
    " OF PIECE&n jn&RECITATIVE r&WHOLE jn&ao jn&gi jn STEM ap*UP&hs jn STEM ap*UP&FLAT f%SORI%KORO",
    "N@1D200!id VOCAL se SYMBOL-1&SYMBOL-2&SYMBOL-3&SYMBOL-4&SYMBOL-5&SYMBOL-6&SYMBOL-7&SYMBOL-8&S",
    "YMBOL-9&SYMBOL-10&SYMBOL-11&SYMBOL-12&SYMBOL-13&SYMBOL-14&SYMBOL-15&SYMBOL-16&SYMBOL-17&SYMBO",
    "L-18&SYMBOL-19&SYMBOL-20&SYMBOL-21&SYMBOL-22&SYMBOL-23&SYMBOL-24&SYMBOL-50&SYMBOL-51&SYMBOL-5",
    "2&SYMBOL-53&SYMBOL-54$INSTRUMENTAL se SYMBOL-1&SYMBOL-2&SYMBOL-4&SYMBOL-5&SYMBOL-7&SYMBOL-8&S",
    "YMBOL-11&SYMBOL-12&SYMBOL-13&SYMBOL-14&SYMBOL-17&SYMBOL-18&SYMBOL-19&SYMBOL-23&SYMBOL-24&SYMB",
    "OL-25&SYMBOL-26&SYMBOL-27&SYMBOL-29&SYMBOL-30&SYMBOL-32&SYMBOL-36&SYMBOL-37&SYMBOL-38&SYMBOL-",
    "39&SYMBOL-40&SYMBOL-42&SYMBOL-43&SYMBOL-45&SYMBOL-47&SYMBOL-48&SYMBOL-49&SYMBOL-50&SYMBOL-51&",
    "SYMBOL-52&SYMBOL-53&SYMBOL-54!fj id oh TRISEME&TETRASEME&PENTASEME!id oh LEIMMA@1D2E0!MAYAN p",
    "x bt%o%l%s%w%aa%ag%an%ah%ar%ca%ny%my%ss%rs%ox%qb%sl%qp%sd@1D300!ut fm ms!DIGRAM fm HEAVENLY m",
    "s%HUMAN ms%EARTHLY HEAVEN&HUMAN%ms!TETRAGRAM fm dm%ea av%MIRED%BARRIER%KEEPING c%CONTRARIETY%",
    "ASCENT%OPPOSITION%BRANCHING OUT%DEFECTIVENESS OR DISTORTION%DIVERGENCE%YOUTHFULNESS%INCREASE%",
    "PENETRATION%REACH%tz%ul BACK%WAITING%FOLLOWING%ADVANCE%RELEASE%RESISTANCE%EASE%JOY%CONTENTION",
    "%ENDEAVOUR%DUTIES%CHANGE%DECISIVENESS%hc RESOLUTION%PACKING%LEGION%CLOSENESS%KINSHIP%GATHERIN",
    "G%STRENGTH%PURITY%FULLNESS%RESIDENCE%LAW OR MODEL%RESPONSE%GOING TO MEET%ENCOUNTERS%STOVE%GRE",
    "ATNESS%ENLARGEMENT%PATTERN%RITUAL%FLIGHT%VASTNESS OR WASTING%CONSTANCY%us%ETERNITY%UNITY%DIMI",
    "NISHMENT%fw jj%GUARDEDNESS%GATHERING IN%MASSING%ACCUMULATION%EMBELLISHMENT%DOUBT%WATCH%SINKIN",
    "G%INNER%DEPARTURE%DARKENING%DIMMING%EXHAUSTION%SEVERANCE%STOPPAGE%HARDNESS%COMPLETION%CLOSURE",
    "%FAILURE%AGGRAVATION%COMPLIANCE%ON fp VERGE%DIFFICULTIES%LABOURING%FOSTERING@1D360!COUNTING R",
    "OD UNIT bh o(l(s(w(aa(ag(an(ah(ar%TENS bh o(l(s(w(aa(ag(an(ah(ar!lx TALLY r o&l&s&w&aa!TALLY ",
    "r o%aa@1D400!ur hc e A&B&C&D&E&F&G&H&I&J&K&L&M&N&O&P&Q&R&S&T&U&V&W&X&Y&Z%c A&B&C&D&E&F&G&H&I&",
    "J&K&L&M&N&O&P&Q&R&S&T&U&V&W&X&Y&Z$oy e A&B&C&D&E&F&G&H&I&J&K&L&M&N&O&P&Q&R&S&T&U&V&W&X&Y&Z%c ",
    "A&B&C&D&E&F&G@1D456&I&J&K&L&M&N&O&P&Q&R&S&T&U&V&W&X&Y&Z$hc oy e A(B(C(D(E(F(G(H(I(J(K(L(M(N(O",
    "(P(Q(R(S(T(U(V(W(X(Y(Z&c A(B(C(D(E(F(G(H(I(J(K(L(M(N(O(P(Q(R(S(T(U(V(W(X(Y(Z$if e A@1D49E&C&D",
    "@1D4A2&G@1D4A5&J&K@1D4A9&N&O&P&Q@1D4AE&S&T&U&V&W&X&Y&Z%c A&B&C&D@1D4BB&F@1D4BD&H&I&J&K&L&M&N@",
    "1D4C5&P&Q&R&S&T&U&V&W&X&Y&Z$hc if e A(B(C(D(E(F(G(H(I(J(K(L(M(N(O(P(Q(R(S(T(U(V(W(X(Y(Z&c A(B",
    "(C(D(E(F(G(H(I(J(K(L(M(N(O(P(Q(R(S(T(U(V(W(X(Y(Z$FRAKTUR e A&B@1D507&D&E&F&G@1D50D&J&K&L&M&N&",
    "O&P&Q@1D516&S&T&U&V&W&X&Y@1D51E%c A&B&C&D&E&F&G&H&I&J&K&L&M&N&O&P&Q&R&S&T&U&V&W&X&Y&Z$ow e A&",
    "B@1D53B&D&E&F&G@1D540&I&J&K&L&M@1D546&O@1D54A&S&T&U&V&W&X&Y@1D552%c A&B&C&D&E&F&G&H&I&J&K&L&M",
    "&N&O&P&Q&R&S&T&U&V&W&X&Y&Z$hc FRAKTUR e A(B(C(D(E(F(G(H(I(J(K(L(M(N(O(P(Q(R(S(T(U(V(W(X(Y(Z&c",
    " A(B(C(D(E(F(G(H(I(J(K(L(M(N(O(P(Q(R(S(T(U(V(W(X(Y(Z$iw e A&B&C&D&E&F&G&H&I&J&K&L&M&N&O&P&Q&R",
    "&S&T&U&V&W&X&Y&Z%c A&B&C&D&E&F&G&H&I&J&K&L&M&N&O&P&Q&R&S&T&U&V&W&X&Y&Z%hc e A(B(C(D(E(F(G(H(I",
    "(J(K(L(M(N(O(P(Q(R(S(T(U(V(W(X(Y(Z&c A(B(C(D(E(F(G(H(I(J(K(L(M(N(O(P(Q(R(S(T(U(V(W(X(Y(Z%oy e",
    " A(B(C(D(E(F(G(H(I(J(K(L(M(N(O(P(Q(R(S(T(U(V(W(X(Y(Z&c A(B(C(D(E(F(G(H(I(J(K(L(M(N(O(P(Q(R(S(",
    "T(U(V(W(X(Y(Z%hc oy e A)B)C)D)E)F)G)H)I)J)K)L)M)N)O)P)Q)R)S)T)U)V)W)X)Y)Z(c A)B)C)D)E)F)G)H)I",
    ")J)K)L)M)N)O)P)Q)R)S)T)U)V)W)X)Y)Z$MONOSPACE e A&B&C&D&E&F&G&H&I&J&K&L&M&N&O&P&Q&R&S&T&U&V&W&",
    "X&Y&Z%c A&B&C&D&E&F&G&H&I&J&K&L&M&N&O&P&Q&R&S&T&U&V&W&X&Y&Z$oy c mr I(J@1D6A8$hc e gf&jr&iy&j",
    "l&hv&ZETA&ETA&ig&gs&kh&mu&MU&NU&XI&kl&PI&RHO&ig z&ia&TAU&hp&PHI&CHI&PSI&fo%NABLA%c gf&jr&iy&j",
    "l&hv&ZETA&ETA&ig&gs&kh&mu&MU&NU&XI&kl&PI&RHO&n ia&ia&TAU&hp&PHI&CHI&PSI&fo%uu uc%hv z%ig z%kh",
    " z%PHI z%RHO z%PI z$oy e gf&jr&iy&jl&hv&ZETA&ETA&ig&gs&kh&mu&MU&NU&XI&kl&PI&RHO&ig z&ia&TAU&h",
    "p&PHI&CHI&PSI&fo%NABLA%c gf&jr&iy&jl&hv&ZETA&ETA&ig&gs&kh&mu&MU&NU&XI&kl&PI&RHO&n ia&ia&TAU&h",
    "p&PHI&CHI&PSI&fo%uu uc%hv z%ig z%kh z%PHI z%RHO z%PI z$hc oy e gf(jr(iy(jl(hv(ZETA(ETA(ig(gs(",
    "kh(mu(MU(NU(XI(kl(PI(RHO(ig z(ia(TAU(hp(PHI(CHI(PSI(fo&NABLA&c gf(jr(iy(jl(hv(ZETA(ETA(ig(gs(",
    "kh(mu(MU(NU(XI(kl(PI(RHO(n ia(ia(TAU(hp(PHI(CHI(PSI(fo&uu uc&hv z&ig z&kh z&PHI z&RHO z&PI z$",
    "iw hc e gf(jr(iy(jl(hv(ZETA(ETA(ig(gs(kh(mu(MU(NU(XI(kl(PI(RHO(ig z(ia(TAU(hp(PHI(CHI(PSI(fo&",
    "NABLA&c gf(jr(iy(jl(hv(ZETA(ETA(ig(gs(kh(mu(MU(NU(XI(kl(PI(RHO(n ia(ia(TAU(hp(PHI(CHI(PSI(fo&",
    "uu uc&hv z&ig z&kh z&PHI z&RHO z&PI z&oy e gf)jr)iy)jl)hv)ZETA)ETA)ig)gs)kh)mu)MU)NU)XI)kl)PI",
    ")RHO)ig z)ia)TAU)hp)PHI)CHI)PSI)fo(NABLA(c gf)jr)iy)jl)hv)ZETA)ETA)ig)gs)kh)mu)MU)NU)XI)kl)PI",
    ")RHO)n ia)ia)TAU)hp)PHI)CHI)PSI)fo(uu uc(hv z(ig z(kh z(PHI z(RHO z(PI z$hc e ud%c ud@1D7CE%b",
    "h bt&o&l&s&w&aa&ag&an&ah&ar$ow bh bt&o&l&s&w&aa&ag&an&ah&ar$iw bh bt&o&l&s&w&aa&ag&an&ah&ar%h",
    "c bh bt(o(l(s(w(aa(ag(an(ah(ar$MONOSPACE bh bt&o&l&s&w&aa&ag&an&ah&ar!SIGNWRITING hm bc$ku bc",
    "$uj bc$vr bc$kf bc$oa bc$hm bc gu$ku bc gu$hm cc UNDER bc gu%bc hy KNUCKLE&CUPPED&lg(bn$ku bc",
    " HINGE$hm bc ae$ku bc ae$hm bc ae gu(hy KNUCKLES(lg&UP ae lg&lg ae UP&ae kb)bc gu)ae gu)CUPPE",
    "D)lg(nd$ku bc ae nd$hm ae gu ay bc%bc gu ay ae&ae cc$ku bc ae cc$hm bc ae ip cc gu(gu cc ip(c",
    "c gu(lg nq cc hz&UP ae lg cc hz+kb&lg ae UP cc hz&ae UP nq cc ks(cc CUPPED)ds)HOOKED)lg%cc kr",
    " bc ae ip%bc ae kb cc hz+kb+gu%ae cc HOOKED bc UP%bc cc HOOKED ae UP&ae kb lg cc hz(nd cc hz(",
    "kb cc ks)CUPPED cc ks%ae cc CUPPED bc UP%bc cc CUPPED ae UP%ae cc ds bc UP*lg%bc cc ANGLED OU",
    "T ae UP)IN ae UP(ds ae UP&ae cc kb lg)ANGLED OUT*%ae cc ANGLED OUT bc UP+nd)bc UP%bc cc HOOKE",
    "D ae lg$HAND-FLAT w ij(gu(lg(kb)SPLIT$xd w ij kb$hm w ij kb gu$kf w ij kb$HAND-FLAT aa ij nq%",
    "HEEL aa ij nq%aa ij nq w gu%HEEL aa ij nq w gu%aa ij nq gu%HEEL aa ij nq gu%aa ij nq cc ks$uj",
    " aa ij nq)bw$kf aa ij nq bw$vr aa ij nq$HAND-FLAT aa ij nq lg*cc hz*NO cc%%kr PALM FACINGS%HE",
    "EL%cc hz%HEEL cc hz%cc gu&ks%SPLIT bc cc hz&dm(cc hz*gu&dp$xd%cc hz%NO cc%cc ks$vq CURLICUE%$",
    "uj bw%%bw cc hz%cc hz%bw NO cc%NO cc%bw cc ks%cc ks$yv bw%$ku$vr%cc hz%NO cc%cc ks$kf bw&cc k",
    "s%%c%bw cc hz%cc hz%bw NO cc%NO cc%cc hz TOUCHING bc&kr ae bi$oa$hm bc ae bi$ku bc ae bi$kf b",
    "c ae bi$oa bc ae bi$kf dp$hm bc ae bi gu)kb$kf bc ae bi kb$hm dp ap(RIPPLE ip)ov(OTHERS ds&UP",
    "%cc UNDER dp UP$ku dp UP$vr dp UP$oa dp UP$hm dp hy KNUCKLE&gu&TOUCHES cc&cc$kf dp cc$hm dp b",
    "c cc$kf dp bc cc$oa dp bc cc bc cc OUT+$hm dp bc$ku dp bc$kf dp bc$oa dp bc$hm bc ae dp$ku bc",
    " ae dp$kf bc ae dp%bi$oa bc ae dp$hm bc ae el dp$ku bc ae el dp$hm bi ap$kf bi ap bc cc x ae$",
    "oa bi ap ae cc bc el$hm bi UP&hy KNUCKLE&dp$ku bi dp$vr bi dp$oa bi dp$hm bi ae(kb(hy KNUCKLE",
    "S&bc&cc$vq bi cc$hm bc bi dp$ku bc bi dp$yv bc bi dp ON$vq bc bi dp OUT)IN)UNDER$uj bc bi dp$",
    "kf bc bi dp$oa bc bi dp OUT)$hm ae ap$kf ae$hm ae UP$ku ae UP$hm ae hy KNUCKLE&UP cc hz$vq ae",
    " cc$hm ae cc dp&dp&bi dp$ku ae bi dp$yv ae bi dp ON$uj ae bi dp$kf ae bi dp$oa ae bi dp OUT)I",
    "N)$ku ae bi dp gu$xd ae bi dp kb*hz$vq ae bi dp kb OUT*IN*$kf bc lg$hm bc cc hz$kf bc cc hz$h",
    "m bc cc hz cc ep*kb*gu)bc gu)BOTH gu)bc HINGE(ks bc ip*gu(x(CURLICUE(kc cc ju$xd bc cc kc cc ",
    "ju$hm bc cc kc cc UNDER(av$uj bc cc(bw$kf bc cc bw(co((c$oa bc cc OUT(IN($hm cc&HEEL&hz ep(kb",
    "(gu&ks&kr bc ae(ae bi(bi dp&UNDER l ij&ay l ij&UNDER s ij(w ij&ay w hy KNUCKLES%%HEEL$TOUCH c",
    "q%nj%kr$GRASP cq%nj%kr$STRIKE cq%nj%kr$BRUSH cq%nj%kr$RUB cq%nj%kr$SURFACE SYMBOLS%kr$SQUEEZE",
    " co cq%c cq%co nj%c nj%yg$FLICK co cq%c cq%co nj%c nj%yg$SQUEEZE FLICK jz$MOVEMENT-HINGE UP a",
    "p co(c&yg%ap yg%UP ap jz co)c%hz TO hz uv$og rr tz$of rr tz$og cq ip c(bq(co(qu&or FLEX%p ip&",
    "or FLEX&jz(or FLEX%el%em ip sc&or FLEX&jz(or FLEX%BEND c&bq&co%gl c&bq&co&ROTATION%nw c&bq&co",
    "%BOX c&bq&co%sx c&bq&co%PEAKS c&bq&co$TRAVEL-WALLPLANE wh cq&p&jz%wg cq&p&jz%SHAKING%ARM SPIR",
    "AL cq(p(em$MOVEMENT-DIAGONAL AWAY c&bq&co&qu%TOWARDS c&bq&co&qu%kr AWAY c(bq(co(qu&TOWARDS c(",
    "bq(co(qu$of cq ip c(bq(co(qu&or FLEX%p ip&or FLEX&jz(or FLEX%el%em ip sc&or FLEX&jz sc(or FLE",
    "X%BEND%gl c&bq&co%nw%BOX c&bq&co%sx c&bq&co%PEAKS c&bq&co$TRAVEL-FLOORPLANE wg cq&p&jz%wh cq&",
    "p&jz%SHAKING$og kc gi c(bq(co(qu&HALF-CIRCLE c(bq(co(qu&THREE-QUARTER av c)bq%HUMP c&bq&co%kj",
    " c&bq&co&c p%jh kc p c)bq)co(em c)bq)co%kc THEN ip%ov el c(bq$wh cq%p%ir$og SHAKING%kc gr FRO",
    "NT WALL%HUMP gr FRONT WALL%kj gr FRONT WALL%jh gr FRONT WALL$wh cq gr FRONT WALL%p gr FRONT W",
    "ALL%jz gr FRONT WALL$og kc gr CHEST%HUMP gr CHEST%kj gr CHEST%jh gr CHEST$wh cq gr CHEST%p gr",
    " CHEST%jz gr CHEST$og jh ep PATH c)bq)co$of kc gr qk c)co%HUMP gr qk c p)co p)c em)co em%kj g",
    "r qk c cq)co cq)c p)co p%jh gr qk c)co$wg cq gr qk%p gr qk%jz gr qk$of kc gr pq c)co%HUMP gr ",
    "pq c p)co p)em c em*co em%kj gr pq c cq)co cq)c p)co p%jh gr pq c)co$wg cq gr pq%p gr pq%jz g",
    "r pq$of kc c&bq&co&qu&COMBINED%HUMP c%kj c%jh SNAKE&c&co$wg cq%p%jz$of SHAKING si$og ARM av c",
    " cq(bq cq(c p(bq p$of ARM av gr WALL c cq*bq cq*co cq*c p*bq p*co p$og or av FRONT cq)p$of or",
    " av gr WALL cq*p$og rr nb cq(p$of rr nb gr WALL cq*p$DYNAMIC cm c&co%FAST%SLOW%TENSE%RELAXED%",
    "SIMULTANEOUS&jz%EVERY OTHER TIME%GRADUAL$jt%RIM%og ip&TILT%of ip%og kc%of kc%sc av$at DIRECTI",
    "ON POSITION NOSE ks TILTING)UP OR ap,TILTING$EYEBROWS ip UP&ja&ap$DREAMY EYEBROWS ja ap&ap ja",
    "&UP ja&ja UP$FOREHEAD ja%tz%tv$ji bw%SQUEEZED%fw$EYE BLINK cq&nj$ji ao bw%WIDE bw%ao fw%WIDEN",
    "ING sc$EYE WINK$EYELASHES UP%ap%FLUTTERING$yt ip&p&jz$zq ip&p&jz$yt ov$zq ov$yt CIRCLING$CHEE",
    "KS PUFFED%ja%SUCKED$TENSE CHEEKS ci&ae&bn$EARS$NOSE ja%tz%WRINKLES%WIGGLES$AIR BLOWING OUT%SU",
    "CKING IN%BLOW c ROTATIONS%SUCK c ROTATIONS$BREATH INHALE%EXHALE$jj fw ja&ks&tz%SMILE&tv&bw%FR",
    "OWN&tv&bw%bw av&ks&tv&OVAL(tv(YAWN&tn(tv(YAWN%KISS&ks&tv%TENSE&ks&SUCKED$LIPS PRESSED TOGETHE",
    "R$LIP bk ay bv%bv ay bk$jj ua%WRINKLES cq&p$TONGUE STICKING OUT FAR%LICKING LIPS%TIP kr LIPS&",
    "TOUCHING ju jj%ju jj RELAXED%MOVES AGAINST CHEEK%dm STICKING OUT&ju jj$TEETH%sc%ON TONGUE(sc&",
    "LIPS(sc%BITE LIPS$og JAW$of JAW$NECK$HAIR$EXCITEMENT$SHOULDER HIP SPINE&POSITIONS$WALLPLANE S",
    "HOULDER HIP MOVE$FLOORPLANE SHOULDER HIP MOVE$SHOULDER TILTING gp WAIST$TORSO-WALLPLANE ip ST",
    "RETCH%ov BEND$TORSO-FLOORPLANE TWISTING$bv BODY TILTING gp HIP JOINTS$LIMB COMBINATION%LENGTH",
    "-1%LENGTH-2%LENGTH-3%LENGTH-4%LENGTH-5%LENGTH-6%LENGTH-7$rr$LOCATION-WALLPLANE jd$LOCATION-FL",
    "OORPLANE jd$LOCATION HEIGHT%WIDTH%DEPTH%jt NECK%TORSO%LIMBS DIGITS$de$ea cl$oo$gn$ew@1DA9B$mt",
    " MODIFIER-2%MODIFIER-3%MODIFIER-4%MODIFIER-5%MODIFIER-6@1DAA1$ROTATION MODIFIER-2%MODIFIER-3%",
    "MODIFIER-4%MODIFIER-5%MODIFIER-6%MODIFIER-7%MODIFIER-8%MODIFIER-9%MODIFIER-10%MODIFIER-11%MOD",
    "IFIER-12%MODIFIER-13%MODIFIER-14%MODIFIER-15%MODIFIER-16@1DF00!eb c b FENG hk a TRILL&cg if G",
    "$b c e by G$c b cg K$b c e L a BELT$c b LEZH a ex x&by Y a BELT&cg ENG&by R a bz LEG g ex x&T",
    " a x g ex x$b ex ou a ex x$c b ESH a p ak+g ix&by T a ix$b cu hl cl a ix%STRETCHED C a ix%c e",
    " by K$c b L a te&DEZH hk a hh x&L a BELT g hh x&ENG a hh x&by R a hh x&R a te g hh x&TESH hk ",
    "a hh x&EZH a hh x&DEZH hk a ex x&I a y g ex x&O a ex x&TESH hk a ex x&C a ex x&S a ix@1E000!f",
    "j GLAGOLITIC b AZU&BUKY&VEDE&GLAGOLI&DOBRO&YESTU&ZHIVETE@1E008&ZEMLJA&IZHE&ab IZHE&I&DJERVI&K",
    "AKO&LJUDIJE&MYSLITE&NASHI&ONU&POKOJI&RITSI&SLOVO&TVRIDO&UKU&FRITU&HERU@1E01B&SHTA&TSI&CHRIVI&",
    "ck&YERU&YERI&YATI@1E023&YU&c hj@1E026&YO&un c hj&BIG hj&un BIG hj&FITA@1E100!NYIAKENG PUACHUE",
    " HMONG b MA(hb(NTA(TA(HA(NA(XA(NKA(CA(LA(SA(ZA(NCA(NTSA(KA(DA(ct(NRA(VA(NTXA(TXA(FA(RA(QA(YA(",
    "NQA(PA(XYA(NPA(DLA(NPLA(br(MLA(PLA(GA(RRA(A(AA(I(U(O(OO(E(EE(W@1E130&TONE-B&TONE-M&TONE-J&TON",
    "E-V&TONE-S&TONE-G&TONE-D&f fm lk)THING)LOCATION)ANIMAL)INVERTEBRATE(XW XW&lp xl@1E140&bh bt(o",
    "(l(s(w(aa(ag(an(ah(ar@1E14E&vz NYAJ&ds CA@1E290!TOTO b PA%BA%TA%DA%KA%GA%MA%NA%cj%SA%cr%YA%WA",
    "%JA%HA%RA%LA%I%BREATHY I%IU%BREATHY IU%U%E%BREATHY E%EO%BREATHY EO%O%AE%BREATHY AE%A$f no cd@",
    "1E2C0!WANCHO b AA%A%BA%CA%DA%GA%YA%dq%LA%NA%PA%TA%df%FA%SA%ck%JA%ZA%WA%VA%KA%O%AU%RA%MA%cv%HA",
    "%E%I%cj%U%LLHA%hb%TRA%ONG%AANG%ANG%ING%ON%EN%AAN%ct%UEN%YIH$cd TUP%TUPNI%KOI%KOINI$bh bt%o%l%",
    "s%w%aa%ag%an%ah%ar@1E2FF$NGUN f@1E7E0!ETHIOPIC lp HHYA%HHYU%HHYI%HHYAA%HHYEE%HHYE%HHYO@1E7E8%",
    "GURAGE HHWA%HHWI%HHWEE%HHWE@1E7ED%GURAGE MWI&MWEE@1E7F0&QWI&QWEE&QWE&BWI&BWEE&KWI&KWEE&KWE&GW",
    "I&GWEE&GWE&FWI&FWEE&PWI&PWEE@1E800!MENDE KIKAKUI lp M001 KI&M002 KA&M003 KU&M065 KEE&M095 KE&",
    "M076 KOO&M048 KO&M179 KUA&M004 WI&M005 WA&M006 WU&M126 WEE&M118 WE&M114 WOO&M045 WO&M194 WUI&",
    "M143 WEI&M061 WVI&M049 WVA&M139 WVE&M007 MIN&M008 MAN&M009 MUN&M059 MEN&M094 MON&M154 MUAN&M1",
    "89 MUEN&M010 BI&M011 BA&M012 BU&M150 BEE&M097 BE&M103 BOO&M138 BO&M013 I&M014 A&M015 U&M163 E",
    "E&M100 E&M165 OO&M147 O&M137 EI&M131 IN&M135 IN&M195 AN&M178 EN&M019 SI&M020 SA&M021 SU&M162 ",
    "SEE&M116 SE&M136 SOO&M079 SO&M196 SIA&M025 LI&M026 LA&M027 LU&M084 LEE&M073 LE&M054 LOO&M153 ",
    "LO&M110 bz LE&M016 DI&M017 DA&M018 DU&M089 DEE&M180 DOO&M181 DO&M022 TI&M023 TA&M024 TU&M091 ",
    "TEE&M055 TE&M104 TOO&M069 TO&M028 JI&M029 JA&M030 JU&M157 JEE&M113 JE&M160 JOO&M063 JO&M175 b",
    "z JO&M031 YI&M032 YA&M033 YU&M109 YEE&M080 YE&M141 YOO&M121 YO&M034 FI&M035 FA&M036 FU&M078 F",
    "EE&M075 FE&M133 FOO&M088 FO&M197 FUA&M101 FAN&M037 NIN&M038 NAN&M039 ej&M117 NEN&M169 NON&M17",
    "6 HI&M041 HA&M186 HU&M040 HEE&M096 HE&M042 HOO&M140 HO&M083 HEEI&M128 HOOU&M053 HIN&M130 HAN&",
    "M087 HUN&M052 HEN&M193 HON&M046 HUAN&M090 NGGI&M043 NGGA&M082 NGGU&M115 NGGEE&M146 NGGE&M156 ",
    "NGGOO&M120 NGGO&M159 NGGAA&M127 NGGUA&M086 bz NGGE&M106 bz NGGOO&M183 bz NGGO&M155 GI&M111 GA",
    "&M168 GU&M190 GEE&M166 GUEI&M167 GUAN&M184 NGEN&M057 NGON&M177 NGUAN&M068 PI&M099 PA&M050 PU&",
    "M081 PEE&M051 PE&M102 POO&M066 PO&M145 MBI&M062 MBA&M122 MBU&M047 MBEE&M188 MBEE&M072 MBE&M17",
    "2 MBOO&M174 MBO&M187 MBUU&M161 bz MBE&M105 bz MBOO&M142 bz MBO&M132 KPI&M092 KPA&M074 KPU&M04",
    "4 KPEE&M108 KPE&M112 KPOO&M158 KPO&M124 GBI&M056 GBA&M148 GBU&M093 GBEE&M107 GBE&M071 GBOO&M0",
    "70 GBO&M171 RA&M123 NDI&M129 NDA&M125 NDU&M191 NDEE&M119 NDE&M067 NDOO&M064 NDO&M152 NJA&M192",
    " NJU&M149 NJEE&M134 NJOO&M182 VI&M185 VA&M151 VU&M173 VEE&M085 VE&M144 VOO&M077 VO&M164 NYIN&",
    "M058 NYAN&M170 NYUN&M098 NYEN&M060 NYON@1E8C7%bh o&l&s&w&aa&ag&an&ah&ar%fj cz TEENS(TENS(HUND",
    "REDS(st(ca st(aq st(tj@1E900!ADLAM e b ALIF&DAALI&LAAM&MIIM&BA&SINNYIIYHE&PE&BHE&RA&E&FA&I&O&",
    "eg&YHE&fq&ej&gx&YA&U&JIIM&CHI&HA&QAAF&GA&ct&TU&NHA&VA&cv&GBE&ZAL&KPO&ck$c b ALIF&DAALI&LAAM&M",
    "IIM&BA&SINNYIIYHE&PE&BHE&RA&E&FA&I&O&eg&YHE&fq&ej&gx&YA&U&JIIM&CHI&HA&QAAF&GA&ct&TU&NHA&VA&cv",
    "&GBE&ZAL&KPO&ck$ALIF xl$be xl$vo r$ft$is gy$GEMINATE is gy$ie$yz r@1E950$bh bt%o%l%s%w%aa%ag%",
    "an%ah%ar@1E95E$ab hw r%hi r@1EC71!INDIC SIYAQ cz o&l&s&w&aa&ag&an&ah&ar&ca&fc&je&kd&gg&kx&gb&",
    "lu&fn&o aq&l aq&s aq&w aq&aa aq&ag aq&an aq&ah aq&ar aq&o az&l az&s az&w az&aa az&ag az&an az",
    "&ah az&ar az&ca az&fc az&je az&kd az&gg az&kx az&gb az&lu az&fn az&LAKH&LAKHAN%LAKH r%cz KARO",
    "R&KARORAN&PREFIXED o(l(s(w(aa(ag(an(ah(ar%PLACEHOLDER%js o gi(ao&s mf%RUPEE r%cz ir o(l(ca az",
    "%ir LAKH r@1ED01!OTTOMAN SIYAQ cz o&l&s&w&aa&ag&an&ah&ar&ca&fc&je&kd&gg&kx&gb&lu&fn&o aq&l aq",
    "&s aq&w aq&aa aq&ag aq&an aq&ah aq&ar aq&o az&l az&s az&w az&aa az&ag az&an az&ah az&ar az&ca",
    " az&fc az&je az&kd az&gg az&kx az&gb az&lu az&fn az%MARRATAN%ir cz l(s(w(aa(ag(an(ah(ar(ca(w ",
    "aq(ag aq(l az(ca az%js o ao(SIXTH@1EE00!jo ur ba%BEH%bx%DAL@1EE05%fq%ml%br%TAH%ax%gx%fs%aj%fk",
    "%ht%ge%FEH%SAD%QAF%gt%jw%TEH%THEH%dt%THAL%DAD%ZAH%kt%mr BEH&fk&FEH&QAF@1EE21%ab BEH&bx@1EE24&",
    "hf@1EE27&br@1EE29&ax&gx&fs&aj&fk&ht&ge&FEH&SAD&QAF@1EE34&jw&TEH&THEH&dt@1EE39&DAD@1EE3B&kt@1E",
    "E42%TAILED bx@1EE47&br@1EE49&ax@1EE4B&fs@1EE4D&fk&ht&ge@1EE51&SAD&QAF@1EE54&jw@1EE57&dt@1EE59",
    "&DAD@1EE5B&kt@1EE5D&mr fk@1EE5F(QAF@1EE61%STRETCHED BEH&bx@1EE64&hf@1EE67&br&TAH&ax&gx@1EE6C&",
    "aj&fk&ht&ge&FEH&SAD&QAF@1EE74&jw&TEH&THEH&dt@1EE79&DAD&ZAH&kt&mr BEH@1EE7E(FEH@1EE80%LOOPED b",
    "a&BEH&bx&DAL&hf&fq&ml&br&TAH&ax@1EE8B&fs&aj&fk&ht&ge&FEH&SAD&QAF&gt&jw&TEH&THEH&dt&THAL&DAD&Z",
    "AH&kt@1EEA1%ow BEH&bx&DAL@1EEA5&fq&ml&br&TAH&ax@1EEAB&fs&aj&fk&ht&ge&FEH&SAD&QAF&gt&jw&TEH&TH",
    "EH&dt&THAL&DAD&ZAH&kt@1EEF0%es aj a br a TATWEEL&br a DAL@1F000!MAHJONG TILE da WIND%ev WIND%",
    "dv WIND%eh WIND%RED rn%GREEN rn%v rn%o OF qm%l OF qm%s OF qm%w OF qm%aa OF qm%ag OF qm%an OF ",
    "qm%ah OF qm%ar OF qm%o OF qi%l OF qi%s OF qi%w OF qi%aa OF qi%ag OF qi%an OF qi%ah OF qi%ar O",
    "F qi%o OF nb%l OF nb%s OF nb%w OF nb%aa OF nb%ag OF nb%an OF nb%ah OF nb%ar OF nb%PLUM%ORCHID",
    "%BAMBOO%CHRYSANTHEMUM%SPRING%SUMMER%AUTUMN%WINTER%JOKER%BACK@1F030!DOMINO TILE bf BACK%HORIZO",
    "NTAL-00-00%HORIZONTAL-00-01%HORIZONTAL-00-02%HORIZONTAL-00-03%HORIZONTAL-00-04%HORIZONTAL-00-",
    "05%HORIZONTAL-00-06%HORIZONTAL-01-00%HORIZONTAL-01-01%HORIZONTAL-01-02%HORIZONTAL-01-03%HORIZ",
    "ONTAL-01-04%HORIZONTAL-01-05%HORIZONTAL-01-06%HORIZONTAL-02-00%HORIZONTAL-02-01%HORIZONTAL-02",
    "-02%HORIZONTAL-02-03%HORIZONTAL-02-04%HORIZONTAL-02-05%HORIZONTAL-02-06%HORIZONTAL-03-00%HORI",
    "ZONTAL-03-01%HORIZONTAL-03-02%HORIZONTAL-03-03%HORIZONTAL-03-04%HORIZONTAL-03-05%HORIZONTAL-0",
    "3-06%HORIZONTAL-04-00%HORIZONTAL-04-01%HORIZONTAL-04-02%HORIZONTAL-04-03%HORIZONTAL-04-04%HOR",
    "IZONTAL-04-05%HORIZONTAL-04-06%HORIZONTAL-05-00%HORIZONTAL-05-01%HORIZONTAL-05-02%HORIZONTAL-",
    "05-03%HORIZONTAL-05-04%HORIZONTAL-05-05%HORIZONTAL-05-06%HORIZONTAL-06-00%HORIZONTAL-06-01%HO",
    "RIZONTAL-06-02%HORIZONTAL-06-03%HORIZONTAL-06-04%HORIZONTAL-06-05%HORIZONTAL-06-06%af BACK%VE",
    "RTICAL-00-00%VERTICAL-00-01%VERTICAL-00-02%VERTICAL-00-03%VERTICAL-00-04%VERTICAL-00-05%VERTI",
    "CAL-00-06%VERTICAL-01-00%VERTICAL-01-01%VERTICAL-01-02%VERTICAL-01-03%VERTICAL-01-04%VERTICAL",
    "-01-05%VERTICAL-01-06%VERTICAL-02-00%VERTICAL-02-01%VERTICAL-02-02%VERTICAL-02-03%VERTICAL-02",
    "-04%VERTICAL-02-05%VERTICAL-02-06%VERTICAL-03-00%VERTICAL-03-01%VERTICAL-03-02%VERTICAL-03-03",
    "%VERTICAL-03-04%VERTICAL-03-05%VERTICAL-03-06%VERTICAL-04-00%VERTICAL-04-01%VERTICAL-04-02%VE",
    "RTICAL-04-03%VERTICAL-04-04%VERTICAL-04-05%VERTICAL-04-06%VERTICAL-05-00%VERTICAL-05-01%VERTI",
    "CAL-05-02%VERTICAL-05-03%VERTICAL-05-04%VERTICAL-05-05%VERTICAL-05-06%VERTICAL-06-00%VERTICAL",
    "-06-01%VERTICAL-06-02%VERTICAL-06-03%VERTICAL-06-04%VERTICAL-06-05%VERTICAL-06-06@1F0A0!PLAYI",
    "NG CARD BACK%ACE OF mw%l OF mw%s OF mw%w OF mw%aa OF mw%ag OF mw%an OF mw%ah OF mw%ar OF mw%c",
    "a OF mw%JACK OF mw%hn OF mw%ll OF mw%ki OF mw@1F0B1%ACE OF kv%l OF kv%s OF kv%w OF kv%aa OF k",
    "v%ag OF kv%an OF kv%ah OF kv%ar OF kv%ca OF kv%JACK OF kv%hn OF kv%ll OF kv%ki OF kv%RED JOKE",
    "R@1F0C1%ACE OF mq%l OF mq%s OF mq%w OF mq%aa OF mq%ag OF mq%an OF mq%ah OF mq%ar OF mq%ca OF ",
    "mq%JACK OF mq%hn OF mq%ll OF mq%ki OF mq%t JOKER@1F0D1%ACE OF mn%l OF mn%s OF mn%w OF mn%aa O",
    "F mn%ag OF mn%an OF mn%ah OF mn%ar OF mn%ca OF mn%JACK OF mn%hn OF mn%ll OF mn%ki OF mn%v JOK",
    "ER%FOOL%TRUMP-1%TRUMP-2%TRUMP-3%TRUMP-4%TRUMP-5%TRUMP-6%TRUMP-7%TRUMP-8%TRUMP-9%TRUMP-10%TRUM",
    "P-11%TRUMP-12%TRUMP-13%TRUMP-14%TRUMP-15%TRUMP-16%TRUMP-17%TRUMP-18%TRUMP-19%TRUMP-20%TRUMP-2",
    "1@1F100!bh bt ea cl%de$o de$l de$s de$w de$aa de$ag de$an de$ah de$ar de!DINGBAT ds iw bh bt$",
    "mb ds iw bh bt!ds bt a lo$ka h$tc f a OVERLAID sz!xs eb e b A(B(C(D(E(F(G(H(I(J(K(L(M(N(O(P(Q",
    "(R(S(T(U(V(W(X(Y(Z!ko in BRACKETED eb e b S!ds oy eb e b C)R$CD$WZ!COPYLEFT z!fz eb e b A(B(C",
    "(D(E(F(G(H(I(J(K(L(M(N(O(P(Q(R(S(T(U(V(W(X(Y(Z$HV$MV$SD$SS$PPV$WC!mb ds eb e b A)B)C)D)E)F)G)",
    "H)I)J)K)L)M)N)O)P)Q)R)S)T)U)V)W)X)Y)Z!hy MC f$MD f$MR f!ds CC$C a OVERLAID sz$HUMAN FIGURE!mb",
    " fz eb e b A)B)C)D)E)F)G)H)I)J)K)L)M)N)O)P)Q)R)S)T)U)V)W)X)Y)Z!nd mb fz eb e b P!mb fz IC%PA%",
    "SA%AB%WC!au DJ!fz CL$COOL$FREE$ID$NEW$NG$OK$SOS$UP a hw r$VS$s D$to SCREEN$l K$w K$ah K$aa nl",
    " o$an nl o$TWENTY-TWO nl l$kx P$o aq fc P$eb c b D$HC$HDR$HI-RES$LOSSLESS$SHV$UHD$VOD!MASK WO",
    "RK z@1F1E6!REGIONAL ru z b A(B(C(D(E(F(G(H(I(J(K(L(M(N(O(P(Q(R(S(T(U(V(W(X(Y(Z!au uk HOKA!fz ",
    "oz KOKO%SA@1F210$CJK UNIFIED IDEOGRAPH-624B&IDEOGRAPH-5B57&IDEOGRAPH-53CC$oz DE$CJK UNIFIED I",
    "DEOGRAPH-4E8C&IDEOGRAPH-591A&IDEOGRAPH-89E3&IDEOGRAPH-5929&IDEOGRAPH-4EA4&IDEOGRAPH-6620&IDEO",
    "GRAPH-7121&IDEOGRAPH-6599&IDEOGRAPH-524D&IDEOGRAPH-5F8C&IDEOGRAPH-518D&IDEOGRAPH-65B0&IDEOGRA",
    "PH-521D&IDEOGRAPH-7D42&IDEOGRAPH-751F&IDEOGRAPH-8CA9&IDEOGRAPH-58F0&IDEOGRAPH-5439&IDEOGRAPH-",
    "6F14&IDEOGRAPH-6295&IDEOGRAPH-6355&IDEOGRAPH-4E00&IDEOGRAPH-4E09&IDEOGRAPH-904A&IDEOGRAPH-5DE",
    "6&IDEOGRAPH-4E2D&IDEOGRAPH-53F3&IDEOGRAPH-6307&IDEOGRAPH-8D70&IDEOGRAPH-6253&IDEOGRAPH-7981&I",
    "DEOGRAPH-7A7A&IDEOGRAPH-5408&IDEOGRAPH-6E80&IDEOGRAPH-6709&IDEOGRAPH-6708&IDEOGRAPH-7533&IDEO",
    "GRAPH-5272&IDEOGRAPH-55B6&IDEOGRAPH-914D@1F240!ko in BRACKETED CJK UNIFIED IDEOGRAPH-672C)IDE",
    "OGRAPH-4E09)IDEOGRAPH-4E8C)IDEOGRAPH-5B89)IDEOGRAPH-70B9)IDEOGRAPH-6253)IDEOGRAPH-76D7)IDEOGR",
    "APH-52DD)IDEOGRAPH-6557@1F250!ds xh ADVANTAGE%ACCEPT@1F260!py z fm FU&LU&SHOU&XI&SHUANGXI&CAI",
    "@1F300!CYCLONE!FOGGY!fw wm!NIGHT a STARS!SUNRISE ay MOUNTAINS$!CITYSCAPE AT DUSK!SUNSET ay BU",
    "ILDINGS!RAINBOW!BRIDGE AT NIGHT!nu jh!VOLCANO!MILKY WAY!ms GLOBE EUROPE-AFRICA%AMERICAS%ASIA-",
    "AUSTRALIA!GLOBE a MERIDIANS!NEW hx z!WAXING ub hx z!FIRST gi hx z!WAXING GIBBOUS hx z!ea hx z",
    "!WANING GIBBOUS hx z!LAST gi hx z!WANING ub hx z!ub hx!NEW hx a at!FIRST gi hx a at!LAST gi h",
    "x a at!ea hx a at!SUN a at!GLOWING dk!SHOOTING dk!THERMOMETER!t DROPLET!v SUN%a c CLOUD%BEHIN",
    "D CLOUD(a RAIN!CLOUD a RAIN%SNOW%xm%TORNADO!FOG!WIND BLOWING at!HOT DOG!TACO!BURRITO!CHESTNUT",
    "!SEEDLING!EVERGREEN TREE!DECIDUOUS TREE!PALM TREE!CACTUS!HOT PEPPER!TULIP!CHERRY BLOSSOM!ROSE",
    "!HIBISCUS!SUNFLOWER!BLOSSOM!EAR OF MAIZE%RICE!HERB!w iz CLOVER!MAPLE iz!FALLEN iz!iz FLUTTERI",
    "NG IN WIND!MUSHROOM!TOMATO!AUBERGINE!GRAPES!MELON!WATERMELON!TANGERINE!LEMON!BANANA!PINEAPPLE",
    "!RED APPLE!GREEN APPLE!PEAR!PEACH!CHERRIES!STRAWBERRY!HAMBURGER!SLICE OF PIZZA!MEAT ON BONE!P",
    "OULTRY LEG!RICE CRACKER$BALL!COOKED RICE!CURRY g RICE!STEAMING BOWL!SPAGHETTI!BREAD!FRENCH FR",
    "IES!ROASTED SWEET POTATO!DANGO!ODEN!SUSHI!FRIED SHRIMP!FISH CAKE a SWIRL DESIGN!SOFT ICE CREA",
    "M!SHAVED ICE!ICE CREAM!DOUGHNUT!COOKIE!CHOCOLATE ak!CANDY!LOLLIPOP!CUSTARD!HONEY POT!SHORTCAK",
    "E!BENTO BOX!POT OF FOOD!COOKING!FORK g KNIFE!TEACUP WITHOUT HANDLE!SAKE BOTTLE g CUP!WINE GLA",
    "SS!COCKTAIL GLASS!TROPICAL DRINK!BEER MUG!CLINKING BEER MUGS!BABY BOTTLE!FORK g KNIFE a PLATE",
    "!BOTTLE a POPPING CORK!POPCORN!RIBBON!WRAPPED PRESENT!BIRTHDAY CAKE!JACK-O-LANTERN!CHRISTMAS ",
    "TREE!FATHER CHRISTMAS!FIREWORKS!FIREWORK SPARKLER!BALLOON!PARTY POPPER!CONFETTI BALL!TANABATA",
    " TREE!nd FLAGS!PINE DECORATION!tg DOLLS!CARP STREAMER!WIND CHIME!hx VIEWING CEREMONY!SCHOOL S",
    "ATCHEL!GRADUATION CAP!he a TIP ON fp k!BOUQUET OF FLOWERS!MILITARY MEDAL!REMINDER RIBBON!oh v",
    "x a JACKS!STUDIO MICROPHONE!LEVEL SLIDER!CONTROL KNOBS!BEAMED ASCENDING oh NOTES$DESCENDING o",
    "h NOTES!FILM FRAMES!ADMISSION TICKETS!CAROUSEL HORSE!FERRIS WHEEL!ROLLER COASTER!FISHING POLE",
    " g FISH!MICROPHONE!MOVIE CAMERA!CINEMA!HEADPHONE!ARTIST PALETTE!ey HAT!CIRCUS TENT!TICKET!CLA",
    "PPER BOARD!PERFORMING ARTS!VIDEO GAME!DIRECT HIT!SLOT MACHINE!BILLIARDS!GAME DIE!BOWLING!FLOW",
    "ER PLAYING CARDS!oh jn!nj oh NOTES!SAXOPHONE!GUITAR!oh vx!TRUMPET!VIOLIN!oh SCORE!RUNNING SHI",
    "RT a SASH!TENNIS RACQUET g BALL!SKI g SKI BOOT!BASKETBALL g HOOP!CHEQUERED FLAG!SNOWBOARDER!R",
    "UNNER!SURFER!SPORTS MEDAL!TROPHY!HORSE RACING!AMERICAN FOOTBALL!RUGBY FOOTBALL!SWIMMER!WEIGHT",
    " LIFTER!GOLFER!RACING MOTORCYCLE$CAR!CRICKET BAT g BALL!VOLLEYBALL!FIELD HOCKEY STICK g BALL!",
    "ICE HOCKEY STICK g PUCK!TABLE TENNIS PADDLE g BALL!SNOW CAPPED sb!CAMPING!BEACH a wm!vi yr!HO",
    "USE BUILDINGS!CITYSCAPE!DERELICT HOUSE vi!CLASSICAL vi!DESERT$ISLAND!NATIONAL PARK!STADIUM!HO",
    "USE vi$a GARDEN!OFFICE vi!tg POST OFFICE!EUROPEAN POST OFFICE!HOSPITAL!BANK!AUTOMATED TELLER ",
    "MACHINE!HOTEL!LOVE HOTEL!CONVENIENCE STORE!SCHOOL!DEPARTMENT STORE!FACTORY!IZAKAYA LANTERN!tg",
    " CASTLE!EUROPEAN CASTLE!v PENNANT!t PENNANT!WAVING v FLAG$t FLAG!ROSETTE!t ROSETTE!LABEL!BADM",
    "INTON RACQUET g SHUTTLECOCK!BOW g h!AMPHORA!EMOJI gy FITZPATRICK TYPE-1-2&TYPE-3&TYPE-4&TYPE-",
    "5&TYPE-6!RAT!MOUSE!OX!nu BUFFALO!COW!TIGER!LEOPARD!RABBIT!CAT!rn!CROCODILE!WHALE!SNAIL!SNAKE!",
    "HORSE!RAM!GOAT!SHEEP!MONKEY!ROOSTER!CHICKEN!DOG!PIG!BOAR!ELEPHANT!OCTOPUS!SPIRAL in!BUG!ANT!H",
    "ONEYBEE!LADY BEETLE!FISH!TROPICAL FISH!BLOWFISH!TURTLE!HATCHING CHICK!BABY CHICK!FRONT-FACING",
    " BABY CHICK!BIRD!PENGUIN!KOALA!POODLE!DROMEDARY CAMEL!BACTRIAN CAMEL!DOLPHIN!MOUSE at!COW at!",
    "TIGER at!RABBIT at!CAT at!rn at!SPOUTING WHALE!HORSE at!MONKEY at!DOG at!PIG at!FROG at!HAMST",
    "ER at!WOLF at!BEAR at!PANDA at!PIG NOSE!PAW PRINTS!CHIPMUNK!ji!EYE!EAR!NOSE!jj!TONGUE!v UP cy",
    " re bc$ap cy re bc$k cy re bc$i cy re bc!FISTED gq f!WAVING gq f!OK gq f!THUMBS UP f$ap f!CLA",
    "PPING HANDS f!bw HANDS f!CROWN!WOMANS HAT!EYEGLASSES!NECKTIE!T-SHIRT!JEANS!DRESS!KIMONO!BIKIN",
    "I!WOMANS CLOTHES!PURSE!HANDBAG!POUCH!MANS SHOE!ATHLETIC SHOE!HIGH-HEELED SHOE!WOMANS SANDAL$B",
    "OOTS!FOOTPRINTS!BUST IN yh!BUSTS IN yh!BOY!GIRL!MAN!WOMAN!FAMILY!MAN g WOMAN ul HANDS!l MEN u",
    "l HANDS$WOMEN ul HANDS!POLICE OFFICER!WOMAN a BUNNY EARS!BRIDE a VEIL!lk a BLOND HAIR!MAN a G",
    "UA PI MAO%TURBAN!OLDER MAN$WOMAN!BABY!yr WORKER!PRINCESS!tg OGRE$GOBLIN!GHOST!BABY ANGEL!EXTR",
    "ATERRESTRIAL ALIEN!ALIEN MONSTER!IMP!SKULL!INFORMATION DESK lk!GUARDSMAN!DANCER!LIPSTICK!NAIL",
    " POLISH!at MASSAGE!HAIRCUT!BARBER POLE!SYRINGE!PILL!KISS r!LOVE b!bi!GEM STONE!KISS!BOUQUET!C",
    "OUPLE a he!WEDDING!BEATING he!BROKEN he!l kv!SPARKLING he!GROWING he!he a h!BLUE he!GREEN he!",
    "YELLOW he!PURPLE he!he a RIBBON!REVOLVING kv!he DECORATION!fg SHAPE a A q ju!ELECTRIC bd BULB",
    "!ANGER z!BOMB!SLEEPING z!COLLISION z!SPLASHING SWEAT z!DROPLET!fa z!PILE OF POO!FLEXED BICEPS",
    "!DIZZY z!SPEECH BALLOON!THOUGHT BALLOON!v FLOWER!aq POINTS z!MONEY BAG!vl EXCHANGE!ad tc f!CR",
    "EDIT CARD!BANKNOTE a YEN f%tc f%EURO f%POUND f!MONEY a WINGS!CHART a bp TREND g YEN f!SEAT!PE",
    "RSONAL COMPUTER!BRIEFCASE!MINIDISC!FLOPPY DISK!OPTICAL DISC!DVD!FILE tf!bw FILE tf!PAGE a ix$",
    "FACING UP!CALENDAR!TEAR-OFF CALENDAR!CARD bc!CHART a bp TREND%bj TREND!ak CHART!CLIPBOARD!PUS",
    "HPIN!om PUSHPIN!PAPERCLIP!ip RULER!jf RULER!BOOKMARK TABS!LEDGER!NOTEBOOK$a DECORATIVE COVER!",
    "fw BOOK!bw BOOK!GREEN BOOK!BLUE BOOK!ORANGE BOOK!BOOKS!NAME BADGE!SCROLL!MEMO!oq RECEIVER!PAG",
    "ER!FAX MACHINE!SATELLITE ANTENNA!PUBLIC ADDRESS LOUDSPEAKER!CHEERING MEGAPHONE!OUTBOX TRAY!IN",
    "BOX TRAY!PACKAGE!E-MAIL z!INCOMING qq!qq a bj h j!fw MAILBOX a LOWERED FLAG&hy FLAG!bw MAILBO",
    "X a hy FLAG&LOWERED FLAG!POSTBOX!POSTAL ga!NEWSPAPER!MOBILE PHONE%a ac h AT k!VIBRATION MODE!",
    "MOBILE PHONE OFF!NO MOBILE PHONES!ANTENNA a BARS!CAMERA$a FLASH!VIDEO CAMERA!TELEVISION!RADIO",
    "!VIDEOCASSETTE!FILM PROJECTOR!PORTABLE STEREO!PRAYER BEADS!TWISTED ac lc!nc ac g am bw av lc+",
    "a ds o iv$bj g bp bw av lc!ka bj g bp bw av lc!bn BRIGHTNESS z!ci BRIGHTNESS z!SPEAKER a ws y",
    "$$a o kz jh%s kz WAVES!BATTERY!ELECTRIC PLUG!jm MAGNIFYING GLASS!ik MAGNIFYING GLASS!LOCK a I",
    "NK PEN!fw LOCK a KEY!KEY!LOCK!bw LOCK!BELL$a ws y!BOOKMARK!LINK z!RADIO BUTTON!BACK a am h j!",
    "gw a am h j!ON a hw r a k i h j!SOON a ac h j!ey a bp h j!NO o UNDER qp z!KEYCAP ca!INPUT z f",
    "m eb e LETTERS(c LETTERS&NUMBERS&SYMBOLS&eb LETTERS!FIRE!ELECTRIC TORCH!WRENCH!HAMMER!NUT g B",
    "OLT!HOCHO!PISTOL!MICROSCOPE!TELESCOPE!CRYSTAL BALL!ag fy dk a ae q!tg z fm BEGINNER!TRIDENT E",
    "MBLEM!t au BUTTON!v au BUTTON!co RED av$BLUE av$ORANGE fg$BLUE fg!c ORANGE fg$BLUE fg!mz RED ",
    "bl!nx RED bl!mz c RED bl!nx c RED bl!bk i np v av!bv i np v av!ds el POMMEE!el POMMEE a HALF-",
    "CIRCLE m%!qv k wi a s aw$i wi a s aw!z fm MARKS CHAPTER!v eb el!ad eb el!CELTIC el!OM z!DOVE ",
    "OF PEACE!KAABA!MOSQUE!SYNAGOGUE!MENORAH a ar BRANCHES!BOWL OF HYGIEIA!CLOCK at o oj%l oj%s oj",
    "%w oj%aa oj%ag oj%an oj%ah oj%ar oj%ca oj%ny oj%my oj%ONE-THIRTY%TWO-THIRTY%THREE-THIRTY%FOUR",
    "-THIRTY%FIVE-THIRTY%SIX-THIRTY%SEVEN-THIRTY%EIGHT-THIRTY%NINE-THIRTY%TEN-THIRTY%ELEVEN-THIRTY",
    "%TWELVE-THIRTY!i SPEAKER%a o kz jh&s kz WAVES!BULLHORN$a kz WAVES!RINGING BELL!BOOK!CANDLE!MA",
    "NTELPIECE CLOCK!t SKULL g CROSSBONES!NO PIRACY!HOLE!MAN IN BUSINESS SUIT LEVITATING!SLEUTH OR",
    " SPY!DARK SUNGLASSES!SPIDER$WEB!JOYSTICK!MAN DANCING!k gq oq RECEIVER!oq RECEIVER a PAGE!i gq",
    " oq RECEIVER!v TOUCHTONE oq!t TOUCHTONE oq!oq ON ey OF MODEM!CLAMSHELL MOBILE PHONE!BACK OF q",
    "q!STAMPED qq!qq a xm!FLYING qq!PEN ay STAMPED qq!LINKED PAPERCLIPS!t PUSHPIN!bk k PENCIL%BALL",
    "POINT PEN%FOUNTAIN PEN%PAINTBRUSH%CRAYON!k WRITING gq!by OK gq f!hy gq a ij SPLAYED!cg hy gq ",
    "a ij SPLAYED$THUMBS UP f%ap f$VICTORY gq$gq a ae rr rp!hy gq a PART kr ae g bi ij!v ap cy k g",
    "q bc!qz v k cy bc%i cy bc$t k cy bc%i cy bc!t k cy re bc$i cy re bc!qz v UP cy bc%ap cy bc$t ",
    "UP cy bc%ap cy bc!t UP cy re bc$ap cy re bc$he!DESKTOP COMPUTER!vx g MOUSE!s NETWORKED COMPUT",
    "ERS!PRINTER!POCKET CALCULATOR!t HARD in FLOPPY DISK!v HARD in FLOPPY DISK!SOFT in FLOPPY DISK",
    "!TAPE CARTRIDGE!WIRED vx!o BUTTON MOUSE!l BUTTON MOUSE!s BUTTON MOUSE!TRACKBALL!du PERSONAL C",
    "OMPUTER!HARD DISK!SCREEN!PRINTER ICON!FAX ICON!OPTICAL DISC ICON!DOCUMENT a TEXT&g PICTURE%PI",
    "CTURE!FRAME a PICTURE%TILES%AN X!t tf!tf!bw tf!CARD bc DIVIDERS$FILE BOX!FILE CABINET!EMPTY j",
    "n%PAGE%PAD!jn$PAGE$PAD!EMPTY DOCUMENT$PAGE$PAGES!DOCUMENT!PAGE!PAGES!WASTEBASKET!SPIRAL jn PA",
    "D$CALENDAR PAD!DESKTOP WINDOW!MINIMIZE!MAXIMIZE!OVERLAP!nc i g k wi lc!ws X!INCREASE FONT SIZ",
    "E z!DECREASE FONT SIZE z!COMPRESSION!du KEY!ROLLED-UP NEWSPAPER!PAGE a ds TEXT!STOCK CHART!DA",
    "GGER KNIFE!LIPS!SPEAKING jt IN yh!s RAYS j%m%k%i!k SPEECH qj!i SPEECH qj!l SPEECH BUBBLES!s S",
    "PEECH BUBBLES!k THOUGHT qj!i THOUGHT qj!k ANGER qj!i ANGER qj!MOOD qj!xm MOOD qj%!ta BOX a ta",
    "$if X$BOX a if X$hc if X$BOX a hc if X!bd nw r!ta BOX a hc nw!WORLD MAP!MOUNT FUJI!TOKYO TOWE",
    "R!STATUE OF LIBERTY!yh OF JAPAN!MOYAI!GRINNING at%a ky ji!at a TEARS OF JOY!ky at a bw jj)g k",
    "y ji*COLD SWEAT*TIGHTLY-CLOSED ji&HALO&HORNS!WINKING at!ky at a ky ji!at SAVOURING DELICIOUS ",
    "FOOD!RELIEVED at!ky at a HEART-SHAPED ji&SUNGLASSES!SMIRKING at!ja at!EXPRESSIONLESS at!UNAMU",
    "SED at!at a COLD SWEAT!PENSIVE at!CONFUSED at!CONFOUNDED at!KISSING at!at THROWING A KISS!KIS",
    "SING at a ky ji&fw ji!at a STUCK-OUT TONGUE(g WINKING EYE)TIGHTLY-CLOSED ji!DISAPPOINTED at!W",
    "ORRIED at!ANGRY at!POUTING at!CRYING at!PERSEVERING at!at a LOOK OF TRIUMPH!DISAPPOINTED BUT ",
    "RELIEVED at!FROWNING at a bw jj!ANGUISHED at!FEARFUL at!WEARY at!SLEEPY at!TIRED at!GRIMACING",
    " at!LOUDLY CRYING at!at a bw jj!HUSHED at!at a bw jj g COLD SWEAT$SCREAMING IN FEAR!ASTONISHE",
    "D at!FLUSHED at!SLEEPING at!DIZZY at!at WITHOUT jj$a MEDICAL MASK!GRINNING CAT at a ky ji!CAT",
    " at a TEARS OF JOY!ky CAT at a bw jj(HEART-SHAPED ji!CAT at a WRY SMILE!KISSING CAT at a fw j",
    "i!POUTING CAT at!CRYING CAT at!WEARY CAT at!SLIGHTLY FROWNING at$ky at!UPSIDE-DOWN at!at a RO",
    "LLING ji%NO GOOD GESTURE%OK GESTURE!lk BOWING DEEPLY!SEE-NO-EVIL MONKEY!HEAR-NO-EVIL MONKEY!S",
    "PEAK-NO-EVIL MONKEY!HAPPY lk RAISING o gq!lk RAISING BOTH HANDS IN CELEBRATION$FROWNING$a POU",
    "TING at%FOLDED HANDS!eh dv cy iz!ev dv cy iz!eh da cy iz!ev da cy iz!by eh dv cy iz$ev dv cy ",
    "iz$eh da cy iz$ev da cy iz!eh dv cy VINE iz!ev dv cy VINE iz!eh da cy VINE iz!ev da cy VINE i",
    "z!ad eh dv cy VINE iz$ev dv cy VINE iz$eh da cy VINE iz$ev da cy VINE iz!eh dv cy BUD!ev dv c",
    "y BUD!eh da cy BUD!ev da cy BUD!ad eh dv cy BUD$ev dv cy BUD$eh da cy BUD$ev da cy BUD!HOLLOW",
    " QUILT au dz(IN t au!SOLID QUILT au dz(IN t au!am ROCKET!bp ROCKET!ac ROCKET!bj ROCKET!if gh ",
    "ET dz!ad if gh ET dz!gh bw ET dz!ad gh bw ET dz$rd dz!SWASH rd dz!iw ad p by de gz r dz&de gz",
    " r dz%bn p de gz r dz!ad vt dz!iw vt dz!ad iw vt dz!hq ad io%jk io!CHECKER BOARD!jk CHECKER B",
    "OARD!ROCKET!HELICOPTER!STEAM LOCOMOTIVE!RAILWAY CAR!HIGH-SPEED TRAIN%a mm NOSE!TRAIN!METRO!bd",
    " RAIL!STATION!TRAM$CAR!BUS!wc BUS!TROLLEYBUS!BUS cl!MINIBUS!AMBULANCE!FIRE ENGINE!POLICE CAR!",
    "wc POLICE CAR!TAXI!wc TAXI!AUTOMOBILE!wc AUTOMOBILE!RECREATIONAL VEHICLE!DELIVERY TRUCK!ARTIC",
    "ULATED LORRY!TRACTOR!MONORAIL!sb RAILWAY!SUSPENSION RAILWAY!sb CABLEWAY!AERIAL TRAMWAY!SHIP!R",
    "OWBOAT!SPEEDBOAT!bf TRAFFIC bd!af TRAFFIC bd!yr f!POLICE CARS REVOLVING bd!jf FLAG ON POST!DO",
    "OR!NO ENTRY f!SMOKING z!NO SMOKING z!PUT LITTER IN ITS PLACE z!DO dh LITTER z!POTABLE nu z!NO",
    "N-POTABLE nu z!BICYCLE!NO BICYCLES!BICYCLIST!sb BICYCLIST!PEDESTRIAN!NO PEDESTRIANS!CHILDREN ",
    "go!MENS z!WOMENS z!RESTROOM!BABY z!TOILET!nu CLOSET!SHOWER!BATH!BATHTUB!PASSPORT CONTROL!CUST",
    "OMS!BAGGAGE CLAIM!k LUGGAGE!bl a py ua!PROHIBITED f!ds INFORMATION SOURCE!BOYS z!GIRLS z!COUC",
    "H g LAMP!SLEEPING ACCOMMODATION!SHOPPING BAGS!BELLHOP BELL!BED!PLACE OF WORSHIP!OCTAGONAL f!S",
    "HOPPING TROLLEY!STUPA!PAGODA!HINDU TEMPLE!HUT!ELEVATOR@1F6DD!PLAYGROUND SLIDE!WHEEL!bi BUOY!H",
    "AMMER g WRENCH!SHIELD!OIL DRUM!MOTORWAY!RAILWAY TRACK!MOTOR BOAT!mz MILITARY sy$sy$c sy!c sy!",
    "NORTHEAST-POINTING sy!sy DEPARTURE$ARRIVING@1F6F0!SATELLITE!wc FIRE ENGINE!DIESEL LOCOMOTIVE!",
    "PASSENGER SHIP!SCOOTER!MOTOR SCOOTER!CANOE!SLED!FLYING SAUCER!SKATEBOARD!AUTO RICKSHAW!PICKUP",
    " TRUCK!ROLLER SKATE@1F700!ALCHEMICAL z fm QUINTESSENCE&AIR&FIRE&ms&nu&AQUAFORTIS&AQUA REGIA(R",
    "EGIA-2(VITAE(VITAE-2&VINEGAR&VINEGAR-2&VINEGAR-3&SULFUR&PHILOSOPHERS SULFUR&t SULFUR&MERCURY ",
    "wk(SUBLIMATE-2(SUBLIMATE-3&CINNABAR&SALT&NITRE&VITRIOL&VITRIOL-2&ROCK SALT(SALT-2&GOLD&SILVER",
    "&IRON ORE(ORE-2&CROCUS OF IRON&REGULUS OF IRON&COPPER ORE&IRON-COPPER ORE&wk OF COPPER&CROCUS",
    " OF COPPER)COPPER-2&COPPER ANTIMONIATE&SALT OF COPPER ANTIMONIATE&wk OF SALT OF COPPER&VERDIG",
    "RIS&TIN ORE&LEAD ORE&tw ORE&wk OF tw&SALT OF tw&wk OF SALT OF tw&VINEGAR OF tw&REGULUS OF tw)",
    "ANTIMONY-2(&REGULUS-2&REGULUS-3&REGULUS-4&ALKALI&ALKALI-2&MARCASITE&SAL-AMMONIAC&ARSENIC&REAL",
    "GAR&REALGAR-2&AURIPIGMENT&BISMUTH ORE&TARTAR&TARTAR-2&QUICK LIME&BORAX&BORAX-2&BORAX-3&ALUM&O",
    "IL&SPIRIT&TINCTURE&GUM&WAX&POWDER&CALX&TUTTY&CAPUT MORTUUM&SCEPTER OF JOVE&CADUCEUS&TRIDENT&S",
    "TARRED TRIDENT&LODESTONE&SOAP&URINE&HORSE DUNG&ASHES&POT ASHES&BRICK&POWDERED BRICK&AMALGAM&S",
    "TRATUM SUPER STRATUM)STRATUM-2&SUBLIMATION&PRECIPITATE&DISTILL&DISSOLVE&DISSOLVE-2&PURIFY&PUT",
    "REFACTION&CRUCIBLE&CRUCIBLE-2&CRUCIBLE-3&CRUCIBLE-4&CRUCIBLE-5&ALEMBIC&BATH OF MARY)VAPOURS&R",
    "ETORT&HOUR&NIGHT&DAY-NIGHT&MONTH&ao DRAM(OUNCE@1F780!t jm xi i bl$mz xi i bl$ik xi i bl$nx xi",
    " i bl$SLIGHTLY c av!bq hc v av!hc v av!ad v av!hq ad v av!uh ad v av!v av tb t c av!om TARGET",
    "!t TINY au$SLIGHTLY c au!bd v au!bq v au!hc v au!ad v au!hq ad v au!uh ad v au!v au tb t hq c",
    " au(bq au!au TARGET!t TINY fg$hq c fg$bq c fg!v fg tb t hq c fg(bq fg!fg TARGET!t TINY ni$hq ",
    "c ni$bq c ni!v ni tb t c ni!THIN id el!bd id el!bq id el!hc id el!hq hc id el$ad id el!uh ad ",
    "id el!THIN pd!bd pd!bq pd!hc pd!ad pd!hq ad pd!uh ad pd!bd aa kn ek!bq aa kn ek!hc aa kn ek!a",
    "d aa kn ek!hq ad aa kn ek!uh ad aa kn ek!bd ag kn ek!bq ag kn ek!hc ag kn ek!ad ag kn ek!hq a",
    "d ag kn ek!uh ad ag kn ek!bd ah kn ek!bq ah kn ek!hc ah kn ek!ad ah kn ek!hq ad ah kn ek!bd s",
    " fy t dk!bq s fy t dk!s fy t dk!bq s fy qx dk!bd w fy t dk!bq w fy t dk!w fy t dk!bq w fy qx ",
    "dk!jk bd w fy qx dk!bd aa fy t dk!ad aa fy t dk!bq ag fy t dk!ad ag fy t dk!ag fy qx dk!bq ah",
    " fy t dk!ad ah fy t dk!hq ad ah fy t dk!ad ah fy qx dk!bd my fy t dk!ad my fy t dk&qx dk!ds b",
    "l!mb ds bl!ds au!mb ds au@1F7E0!co ORANGE av$YELLOW av$GREEN av$PURPLE av$BROWN av$RED au$BLU",
    "E au$ORANGE au$YELLOW au$GREEN au$PURPLE au$BROWN au@1F7F0!ad fx f@1F800!am h a c bl cm!bp h ",
    "a c bl cm!ac h a c bl cm!bj h a c bl cm!am h a bq bl cm!bp h a bq bl cm!ac h a bq bl cm!bj h ",
    "a bq bl cm!am h a co bl cm!bp h a co bl cm!ac h a co bl cm!bj h a co bl cm@1F810!am h a c ii ",
    "cm!bp h a c ii cm!ac h a c ii cm!bj h a c ii cm!am h a ii cm!bp h a ii cm!ac h a ii cm!bj h a",
    " ii cm!ad am h a ii cm$bp h a ii cm$ac h a ii cm$bj h a ii cm$am h a co ii cm$bp h a co ii cm",
    "$ac h a co ii cm$bj h a co ii cm!am cn h a NARROW jb!bp cn h a NARROW jb!ac cn h a NARROW jb!",
    "bj cn h a NARROW jb!am cn h a bq jb!bp cn h a bq jb!ac cn h a bq jb!bj cn h a bq jb!am cn h a",
    " hc jb!bp cn h a hc jb!ac cn h a hc jb!bj cn h a hc jb!am cn h a ad jb!bp cn h a ad jb!ac cn ",
    "h a ad jb!bj cn h a ad jb!am cn h a hq ad jb!bp cn h a hq ad jb!ac cn h a hq ad jb!bj cn h a ",
    "hq ad jb!am xa h!bp xa h!ac xa h!bj xa h!am fz h!bp fz h!ac fz h!bj fz h!am rh h!bp rh h!ac r",
    "h h!bj rh h!am ad rh h!bp ad rh h!ac ad rh h!bj ad rh h!am ad h!bp ad h!ac ad h!bj ad h@1F850",
    "!am iw h!bp iw h!ac iw h!bj iw h!eh dv iw h$da iw h!ev da iw h$dv iw h!k i iw h!UP ap iw h@1F",
    "860!WIDE-HEADED am bd bm h$bp bd bm h$ac bd bm h$bj bd bm h$eh dv bd bm h%da bd bm h$ev da bd",
    " bm h%dv bd bm h$am bm h$bp bm h$ac bm h$bj bm h$eh dv bm h%da bm h$ev da bm h%dv bm h$am bq ",
    "bm h$bp bq bm h$ac bq bm h$bj bq bm h$eh dv bq bm h%da bq bm h$ev da bq bm h%dv bq bm h$am ad",
    " bm h$bp ad bm h$ac ad bm h$bj ad bm h$eh dv ad bm h%da ad bm h$ev da ad bm h%dv ad bm h$am h",
    "q ad bm h$bp hq ad bm h$ac hq ad bm h$bj hq ad bm h$eh dv hq ad bm h%da hq ad bm h$ev da hq a",
    "d bm h%dv hq ad bm h@1F890!am bl cm!bp bl cm!ac bl cm!bj bl cm!am v h WITHIN bl cm!bp v h WIT",
    "HIN bl cm!ac v h WITHIN bl cm!bj v h WITHIN bl cm!am h a qv dr!bp h a qv dr!ac h a qv dr!bj h",
    " a qv dr!ad h jb WIDTH o(l ra(o ao)nt!am BOTTOM-SHADED v h!ac gj SHADED v h!am ey SHADED v h!",
    "ac ey SHADED v h!am LEFT-SHADED v h!ac zj v h!am zj v h!ac LEFT-SHADED v h!am BACK-TILTED np ",
    "v h!ac BACK-TILTED np v h!am yu np v h!ac yu np v h!v h jb WIDTH o(l ra@1F8B0!h cy bp THEN eh",
    " dv%ac THEN CURVING ev dv@1F900!ds el FORMEE a w aw(l aw&!k ao av a w aw(s aw(l aw(q&!DOWNWAR",
    "D FACING x%qv x%x a q%qv x a q!PINCHED ij!v he!BROWN he!PINCHING gq!ZIPPER-MOUTH at!MONEY-MOU",
    "TH at!at a THERMOMETER!NERD at!THINKING at!at a HEAD-BANDAGE!ROBOT at!HUGGING at!f OF fp HORN",
    "S!CALL ME gq!hy BACK OF gq!xk FIST!yb FIST!HANDSHAKE!gq a bc g ae ij nd!I LOVE YOU gq f!at a ",
    "COWBOY HAT!CLOWN at!NAUSEATED at!ROLLING ON fp pq LAUGHING!DROOLING at!LYING at!at PALM!SNEEZ",
    "ING at!at a o EYEBROW hy!GRINNING at a dk ji&o co g o c EYE!at a rr COVERING fw LIPS!SERIOUS ",
    "at a SYMBOLS COVERING jj!ky at a ky ji g gq COVERING jj!at a bw jj VOMITING!SHOCKED at a EXPL",
    "ODING jt!PREGNANT WOMAN!BREAST-FEEDING!PALMS UP TOGETHER!SELFIE!PRINCE!MAN IN TUXEDO!MOTHER C",
    "HRISTMAS!SHRUG!lk DOING CARTWHEEL!JUGGLING!FENCER!MODERN PENTATHLON!WRESTLERS!nu POLO!HANDBAL",
    "L!DIVING MASK!WILTED FLOWER!DRUM a DRUMSTICKS!CLINKING GLASSES!TUMBLER GLASS!SPOON!GOAL NET!R",
    "IFLE!FIRST PLACE MEDAL!to PLACE MEDAL!nt PLACE MEDAL!BOXING GLOVE!MARTIAL ARTS UNIFORM!CURLIN",
    "G STONE!LACROSSE STICK g BALL!SOFTBALL!FLYING DISC!CROISSANT!AVOCADO!CUCUMBER!BACON!POTATO!CA",
    "RROT!BAGUETTE BREAD!GREEN SALAD!SHALLOW PAN OF FOOD!STUFFED FLATBREAD!EGG!GLASS OF MILK!PEANU",
    "TS!KIWIFRUIT!PANCAKES!DUMPLING!FORTUNE COOKIE!TAKEOUT BOX!CHOPSTICKS!BOWL a SPOON!CUP a STRAW",
    "!COCONUT!BROCCOLI!PIE!PRETZEL!CUT OF MEAT!SANDWICH!CANNED FOOD!LEAFY GREEN!MANGO!hx CAKE!BAGE",
    "L!ky at a ky ji g s kv!YAWNING at!ky at a TEAR!at a PARTY ga g PARTY HAT%UNEVEN ji g WAVY jj!",
    "OVERHEATED at!FREEZING at!NINJA!DISGUISED at!at ul BACK TEARS$a PLEADING ji!SARI!LAB COAT!GOG",
    "GLES!HIKING BOOT!FLAT SHOE!CRAB!LION at!SCORPION!TURKEY!UNICORN at!EAGLE!DUCK!BAT!SHARK!OWL!F",
    "OX at!BUTTERFLY!DEER!GORILLA!LIZARD!RHINOCEROS!SHRIMP!SQUID!GIRAFFE at!ZEBRA at!HEDGEHOG!SAUR",
    "OPOD!T-REX!CRICKET!KANGAROO!LLAMA!PEACOCK!HIPPOPOTAMUS!PARROT!RACCOON!LOBSTER!MOSQUITO!MICROB",
    "E!BADGER!SWAN!MAMMOTH!DODO!SLOTH!OTTER!ORANGUTAN!SKUNK!FLAMINGO!OYSTER!BEAVER!BISON!SEAL!GUID",
    "E DOG!PROBING CANE!EMOJI COMPONENT RED HAIR%hu HAIR%BALD%v HAIR!BONE!LEG!FOOT!TOOTH!SUPERHERO",
    "!SUPERVILLAIN!SAFETY VEST!EAR a HEARING AID!MOTORIZED WHEELCHAIR!MANUAL WHEELCHAIR!MECHANICAL",
    " ARM$LEG!CHEESE WEDGE!CUPCAKE!SALT SHAKER!BEVERAGE BOX!GARLIC!ONION!FALAFEL!WAFFLE!BUTTER!MAT",
    "E DRINK!ICE CUBE!qj TEA!TROLL!STANDING lk!KNEELING lk!DEAF lk!at a MONOCLE!ADULT!CHILD!OLDER ",
    "ADULT!BEARDED lk!lk a HEADSCARF$IN STEAMY ROOM$CLIMBING$IN LOTUS POSITION!MAGE!FAIRY!VAMPIRE!",
    "MERPERSON!ELF!GENIE!ZOMBIE!BRAIN!ORANGE he!BILLED CAP!SCARF!GLOVES!COAT!SOCKS!RED GIFT qq!FIR",
    "ECRACKER!JIGSAW PUZZLE PIECE!TEST TUBE!PETRI iu!DNA p HELIX!COMPASS!ABACUS!FIRE EXTINGUISHER!",
    "TOOLBOX!BRICK!MAGNET!LUGGAGE!LOTION BOTTLE!SPOOL OF THREAD!BALL OF YARN!SAFETY PIN!TEDDY BEAR",
    "!BROOM!BASKET!ROLL OF PAPER!ak OF SOAP!SPONGE!RECEIPT!NAZAR AMULET!ja gk ki%ll%ROOK%nv%hn%PAW",
    "N!v gk hn db FORTY-FIVE dx!t gk hn db FORTY-FIVE dx!ja gk hn db FORTY-FIVE dx!v gk ki db fn d",
    "x%ll db fn dx%ROOK db fn dx%nv db fn dx%hn db fn dx%PAWN db fn dx!t gk ki db fn dx%ll db fn d",
    "x%ROOK db fn dx%nv db fn dx%hn db fn dx%PAWN db fn dx!ja gk ki db fn dx%ll db fn dx%ROOK db f",
    "n dx%nv db fn dx%hn db fn dx%PAWN db fn dx!v gk hn db o aq THIRTY-FIVE dx!t gk hn db o aq THI",
    "RTY-FIVE dx!ja gk hn db o aq THIRTY-FIVE dx!v gk by ki&ll&ROOK&nv&hn&PAWN!t gk by ki&ll&ROOK&",
    "nv&hn&PAWN!ja gk by ki&ll&ROOK&nv&hn&PAWN!v gk hn db l aq yp dx!t gk hn db l aq yp dx!ja gk h",
    "n db l aq yp dx!v gk ki db l aq gb dx%ll db l aq gb dx%ROOK db l aq gb dx%nv db l aq gb dx%hn",
    " db l aq gb dx%PAWN db l aq gb dx!t gk ki db l aq gb dx%ll db l aq gb dx%ROOK db l aq gb dx%n",
    "v db l aq gb dx%hn db l aq gb dx%PAWN db l aq gb dx!ja gk ki db l aq gb dx%ll db l aq gb dx%R",
    "OOK db l aq gb dx%nv db l aq gb dx%hn db l aq gb dx%PAWN db l aq gb dx!v gk hn db s aq ox dx!",
    "t gk hn db s aq ox dx!ja gk hn db s aq ox dx!v gk ug!t gk ug!ja gk ug!v gk ug db fn dx!t gk u",
    "g db fn dx!ja gk ug db fn dx!v gk KNIGHT-QUEEN%KNIGHT-ROOK%KNIGHT-BISHOP!t gk KNIGHT-QUEEN%KN",
    "IGHT-ROOK%KNIGHT-BISHOP@1FA60!XIANGQI RED GENERAL%MANDARIN%ELEPHANT%HORSE%CHARIOT%CANNON%SOLD",
    "IER$t GENERAL%MANDARIN%ELEPHANT%HORSE%CHARIOT%CANNON%SOLDIER@1FA70!BALLET SHOES!ONE-PIECE SWI",
    "MSUIT!BRIEFS!SHORTS!THONG SANDAL@1FA78!DROP OF BLOOD!ADHESIVE BANDAGE!STETHOSCOPE!X-RAY!CRUTC",
    "H@1FA80!YO-YO!KITE!PARACHUTE!BOOMERANG!MAGIC WAND!PINATA!NESTING DOLLS@1FA90!RINGED PLANET!CH",
    "AIR!RAZOR!AXE!DIYA LAMP!BANJO!MILITARY HELMET!ACCORDION!bz DRUM!COIN!CARPENTRY SAW!SCREWDRIVE",
    "R!LADDER!x!MIRROR!WINDOW!PLUNGER!SEWING NEEDLE!KNOT!BUCKET!MOUSE TRAP!TOOTHBRUSH!HEADSTONE!PL",
    "ACARD!ROCK!MIRROR BALL!IDENTIFICATION CARD!bn BATTERY!HAMSA@1FAB0!FLY!WORM!BEETLE!COCKROACH!P",
    "OTTED PLANT!WOOD!FEATHER!LOTUS!CORAL!EMPTY NEST!NEST a EGGS@1FAC0!ANATOMICAL he!LUNGS!PEOPLE ",
    "HUGGING!PREGNANT MAN$lk!lk a CROWN@1FAD0!BLUEBERRIES!BELL PEPPER!OLIVE!FLATBREAD!TAMALE!FONDU",
    "E!TEAPOT!POURING LIQUID!BEANS!JAR@1FAE0!MELTING at!SALUTING at!at a bw ji g gq ay jj%PEEKING ",
    "EYE%ep jj!fl cs at!BITING LIP!BUBBLES@1FAF0!gq a bc rr g cc nd!ac gq!am gq!PALM ap gq$UP gq!b",
    "c cy AT fp VIEWER!he HANDS@1FB00!di SEXTANT-1$SEXTANT-2$SEXTANT-12$SEXTANT-3$SEXTANT-13$SEXTA",
    "NT-23$SEXTANT-123$SEXTANT-4$SEXTANT-14$SEXTANT-24$SEXTANT-124$SEXTANT-34$SEXTANT-134$SEXTANT-",
    "234$SEXTANT-1234$SEXTANT-5$SEXTANT-15$SEXTANT-25$SEXTANT-125$SEXTANT-35$SEXTANT-235$SEXTANT-1",
    "235$SEXTANT-45$SEXTANT-145$SEXTANT-245$SEXTANT-1245$SEXTANT-345$SEXTANT-1345$SEXTANT-2345$SEX",
    "TANT-12345$SEXTANT-6$SEXTANT-16$SEXTANT-26$SEXTANT-126$SEXTANT-36$SEXTANT-136$SEXTANT-236$SEX",
    "TANT-1236$SEXTANT-46$SEXTANT-146$SEXTANT-1246$SEXTANT-346$SEXTANT-1346$SEXTANT-2346$SEXTANT-1",
    "2346$SEXTANT-56$SEXTANT-156$SEXTANT-256$SEXTANT-1256$SEXTANT-356$SEXTANT-1356$SEXTANT-2356$SE",
    "XTANT-12356$SEXTANT-456$SEXTANT-1456$SEXTANT-2456$SEXTANT-12456$SEXTANT-3456$SEXTANT-13456$SE",
    "XTANT-23456!bk k di ep bk ae k TO bk dm.i(bv ae k TO bk dm.i)k TO bk dm$i di ep bv ae k TO bv",
    " dm.i(bk ae k TO bv dm.i)k TO bv dm)ae k TO bv ae i)dm TO bk ae i)k TO bk ae i)dm TO bv ae i)",
    "k TO bv ae i)dm TO bv i$k di ep bv dm TO bv ae i)k TO bv ae i)dm TO bk ae i)k TO bk ae i)dm T",
    "O bk i)ae k TO bk ae i!bv i di ep bk ae k TO bk dm.i(bv ae k TO bk dm.i)k TO bk dm$k di ep bv",
    " ae k TO bv dm.i(bk ae k TO bv dm.i)k TO bv dm)ae k TO bv ae i)dm TO bk ae i)k TO bk ae i)dm ",
    "TO bv ae i)k TO bv ae i)dm TO bv i$i di ep bv dm TO bv ae i)k TO bv ae i)dm TO bk ae i)k TO b",
    "k ae i)dm TO bk i)ae k TO bk ae i$g i g bk jf s mf di!k g bk g i jf s mf di!bv g k g bk jf s ",
    "mf di!k g bv g i jf s mf di$jf o gi di!bv jf o gi di!i jf o gi di!bk jf o gi di!af o hs BLOCK",
    "-2&BLOCK-3&BLOCK-4&BLOCK-5&BLOCK-6&BLOCK-7!bf o hs BLOCK-2&BLOCK-3&BLOCK-4&BLOCK-5&BLOCK-6&BL",
    "OCK-7!k g bk o hs di%bv o hs di!i g bv o hs di%bk o hs di!bv g bk o hs di!bf o hs BLOCK-1358!",
    "bv o gi di$s lt di$aa lt di$s mf di$an lt di!i o gi di$s lt di$aa lt di$s mf di$an lt di!k ao",
    " bq mh!i ao bq mh!bv ao bq mh!bk ao bq mh!pr bq mh!bv ao di g bk ao pr bq mh%pr bq mh g bk ao",
    " di@1FB94!k ao pr bq mh g i ao di!CHECKER BOARD mt!pr CHECKER BOARD mt!ad bf mt!bv k TO bk i ",
    "mt$i TO bk k mt$g bk jf ao di!k g i jf ao di!bv k jf bq mh$i jf bq mh!bk i jf bq mh$k jf bq m",
    "h!BOX DRAWINGS bd ep bv dm TO ae k,i(ae k TO bk dm)i TO bk dm(bv dm TO ae k TO bk dm,i TO bk ",
    "dm(ae k TO bk dm TO ae i+bv dm TO ae i(bv dm TO ae k g ae i TO bk dm,i g ae k TO bk dm.TO bk ",
    "dm TO ae k,k TO bk dm TO ae i(ae k TO bv dm TO ae i TO bk dm)i TO bv dm TO ae k TO bk dm(fg&b",
    "f a af y!ARROWHEAD-SHAPED POINTER!pr nw r!k ao RUNNING MAN!i ao RUNNING MAN!pr bj h a TIP am!",
    "am h g bv g bk o hs di!ac h g bv g bk o hs di!bj h g i o hs di!bp h g i o hs di!k ao tf!i ao ",
    "tf!VOIDED id el!i bw fz q!mb ep el%ae i TO bk dm%fg!v ad pd a py ua!k nt v i cy bc!ae nt v i ",
    "cy bc!i nt v i cy bc!mb fz hi r!STICK FIGURE%a ARMS hy%LEANING k&i%a DRESS!v mz CHEVRON@1FBF0",
    "!SEGMENTED bh bt%o%l%s%w%aa%ag%an%ah%ar@2F800!CJK COMPATIBILITY IDEOGRAPH-#&&&&&&&&&&&&&&&&&&",
    "&&&&&&&&&&&&&&&&&&&&&&&&&&&&&&&&&&&&&&&&&&&&&&&&&&&&&&&&&&&&&&&&&&&&&&&&&&&&&&&&&&&&&&&&&&&&&",
    "&&&&&&&&&&&&&&&&&&&&&&&&&&&&&&&&&&&&&&&&&&&&&&&&&&&&&&&&&&&&&&&&&&&&&&&&&&&&&&&&&&&&&&&&&&&&&",
    "&&&&&&&&&&&&&&&&&&&&&&&&&&&&&&&&&&&&&&&&&&&&&&&&&&&&&&&&&&&&&&&&&&&&&&&&&&&&&&&&&&&&&&&&&&&&&",
    "&&&&&&&&&&&&&&&&&&&&&&&&&&&&&&&&&&&&&&&&&&&&&&&&&&&&&&&&&&&&&&&&&&&&&&&&&&&&&&&&&&&&&&&&&&&&&",
    "&&&&&&&&&&&&&&&&&&&&&&&&&&&&&&&&&&&&&&&&&&&&&&&&&&&&&&&&&&&&&&&&&&&&&&&&&&&&&&&&&&&&&&&&&&&&&",
    "&&&&&&&&&&&&&&&&&&&&&&&&&&&&&&&&&&&&&&&&&&&&&&&&&&&&&&&&&&@E0001!LANGUAGE TAG@E0020!TAG jd$hw",
    " r$gz r$cz f$tc f$PERCENT f$rd$qh$k ew$i ew$ek$al f$de$xf$ea cl$io$bh bt%o%l%s%w%aa%ag%an%ah%",
    "ar$gn$oo$dg f$fx f$dj f$hi r$vk AT$eb e b A(B(C(D(E(F(G(H(I(J(K(L(M(N(O(P(Q(R(S(T(U(V(W(X(Y(Z",
    "$k au as$jk io$i au as$cb fi$bn cs$cp fi$eb c b A(B(C(D(E(F(G(H(I(J(K(L(M(N(O(P(Q(R(S(T(U(V(W",
    "(X(Y(Z$k hu as$af cs$i hu as$bg!CANCEL TAG@E0100!wn SELECTOR-17$SELECTOR-18$SELECTOR-19$SELEC",
    "TOR-20$SELECTOR-21$SELECTOR-22$SELECTOR-23$SELECTOR-24$SELECTOR-25$SELECTOR-26$SELECTOR-27$SE",
    "LECTOR-28$SELECTOR-29$SELECTOR-30$SELECTOR-31$SELECTOR-32$SELECTOR-33$SELECTOR-34$SELECTOR-35",
    "$SELECTOR-36$SELECTOR-37$SELECTOR-38$SELECTOR-39$SELECTOR-40$SELECTOR-41$SELECTOR-42$SELECTOR",
    "-43$SELECTOR-44$SELECTOR-45$SELECTOR-46$SELECTOR-47$SELECTOR-48$SELECTOR-49$SELECTOR-50$SELEC",
    "TOR-51$SELECTOR-52$SELECTOR-53$SELECTOR-54$SELECTOR-55$SELECTOR-56$SELECTOR-57$SELECTOR-58$SE",
    "LECTOR-59$SELECTOR-60$SELECTOR-61$SELECTOR-62$SELECTOR-63$SELECTOR-64$SELECTOR-65$SELECTOR-66",
    "$SELECTOR-67$SELECTOR-68$SELECTOR-69$SELECTOR-70$SELECTOR-71$SELECTOR-72$SELECTOR-73$SELECTOR",
    "-74$SELECTOR-75$SELECTOR-76$SELECTOR-77$SELECTOR-78$SELECTOR-79$SELECTOR-80$SELECTOR-81$SELEC",
    "TOR-82$SELECTOR-83$SELECTOR-84$SELECTOR-85$SELECTOR-86$SELECTOR-87$SELECTOR-88$SELECTOR-89$SE",
    "LECTOR-90$SELECTOR-91$SELECTOR-92$SELECTOR-93$SELECTOR-94$SELECTOR-95$SELECTOR-96$SELECTOR-97",
    "$SELECTOR-98$SELECTOR-99$SELECTOR-100$SELECTOR-101$SELECTOR-102$SELECTOR-103$SELECTOR-104$SEL",
    "ECTOR-105$SELECTOR-106$SELECTOR-107$SELECTOR-108$SELECTOR-109$SELECTOR-110$SELECTOR-111$SELEC",
    "TOR-112$SELECTOR-113$SELECTOR-114$SELECTOR-115$SELECTOR-116$SELECTOR-117$SELECTOR-118$SELECTO",
    "R-119$SELECTOR-120$SELECTOR-121$SELECTOR-122$SELECTOR-123$SELECTOR-124$SELECTOR-125$SELECTOR-",
    "126$SELECTOR-127$SELECTOR-128$SELECTOR-129$SELECTOR-130$SELECTOR-131$SELECTOR-132$SELECTOR-13",
    "3$SELECTOR-134$SELECTOR-135$SELECTOR-136$SELECTOR-137$SELECTOR-138$SELECTOR-139$SELECTOR-140$",
    "SELECTOR-141$SELECTOR-142$SELECTOR-143$SELECTOR-144$SELECTOR-145$SELECTOR-146$SELECTOR-147$SE",
    "LECTOR-148$SELECTOR-149$SELECTOR-150$SELECTOR-151$SELECTOR-152$SELECTOR-153$SELECTOR-154$SELE",
    "CTOR-155$SELECTOR-156$SELECTOR-157$SELECTOR-158$SELECTOR-159$SELECTOR-160$SELECTOR-161$SELECT",
    "OR-162$SELECTOR-163$SELECTOR-164$SELECTOR-165$SELECTOR-166$SELECTOR-167$SELECTOR-168$SELECTOR",
    "-169$SELECTOR-170$SELECTOR-171$SELECTOR-172$SELECTOR-173$SELECTOR-174$SELECTOR-175$SELECTOR-1",
    "76$SELECTOR-177$SELECTOR-178$SELECTOR-179$SELECTOR-180$SELECTOR-181$SELECTOR-182$SELECTOR-183",
    "$SELECTOR-184$SELECTOR-185$SELECTOR-186$SELECTOR-187$SELECTOR-188$SELECTOR-189$SELECTOR-190$S",
    "ELECTOR-191$SELECTOR-192$SELECTOR-193$SELECTOR-194$SELECTOR-195$SELECTOR-196$SELECTOR-197$SEL",
    "ECTOR-198$SELECTOR-199$SELECTOR-200$SELECTOR-201$SELECTOR-202$SELECTOR-203$SELECTOR-204$SELEC",
    "TOR-205$SELECTOR-206$SELECTOR-207$SELECTOR-208$SELECTOR-209$SELECTOR-210$SELECTOR-211$SELECTO",
    "R-212$SELECTOR-213$SELECTOR-214$SELECTOR-215$SELECTOR-216$SELECTOR-217$SELECTOR-218$SELECTOR-",
    "219$SELECTOR-220$SELECTOR-221$SELECTOR-222$SELECTOR-223$SELECTOR-224$SELECTOR-225$SELECTOR-22",
    "6$SELECTOR-227$SELECTOR-228$SELECTOR-229$SELECTOR-230$SELECTOR-231$SELECTOR-232$SELECTOR-233$",
    "SELECTOR-234$SELECTOR-235$SELECTOR-236$SELECTOR-237$SELECTOR-238$SELECTOR-239$SELECTOR-240$SE",
    "LECTOR-241$SELECTOR-242$SELECTOR-243$SELECTOR-244$SELECTOR-245$SELECTOR-246$SELECTOR-247$SELE",
    "CTOR-248$SELECTOR-249$SELECTOR-250$SELECTOR-251$SELECTOR-252$SELECTOR-253$SELECTOR-254$SELECT",
    "OR-255$SELECTOR-256"]

end FluentBuilder.Text
