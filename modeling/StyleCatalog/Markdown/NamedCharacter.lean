import StyleCatalog.Text.Basic

/-! # Named characters

The character references `&name;` of HTML. The table has a list of lines for each initial letter;
on a line a name and the characters it stands for alternate, separated by single spaces.
-/

namespace StyleCatalog.Markdown

def namedA : List String :=
  ["AElig Æ AMP & Aacute Á Abreve Ă Acirc Â Acy А Afr 𝔄 Agrave À Alpha Α Amacr Ā And ⩓ Aogon Ą",
    "Aopf 𝔸 ApplyFunction \u2061 Aring Å Ascr 𝒜 Assign ≔ Atilde Ã Auml Ä aacute á abreve ă ac ∾",
    "acE ∾\u0333 acd ∿ acirc â acute ´ acy а aelig æ af \u2061 afr 𝔞 agrave à alefsym ℵ aleph ℵ",
    "alpha α amacr ā amalg ⨿ amp & and ∧ andand ⩕ andd ⩜ andslope ⩘ andv ⩚ ang ∠ ange ⦤ angle ∠",
    "angmsd ∡ angmsdaa ⦨ angmsdab ⦩ angmsdac ⦪ angmsdad ⦫ angmsdae ⦬ angmsdaf ⦭ angmsdag ⦮",
    "angmsdah ⦯ angrt ∟ angrtvb ⊾ angrtvbd ⦝ angsph ∢ angst Å angzarr ⍼ aogon ą aopf 𝕒 ap ≈ apE ⩰",
    "apacir ⩯ ape ≊ apid ≋ apos ' approx ≈ approxeq ≊ aring å ascr 𝒶 ast * asymp ≈ asympeq ≍",
    "atilde ã auml ä awconint ∳ awint ⨑"]

def namedB : List String :=
  ["Backslash ∖ Barv ⫧ Barwed ⌆ Bcy Б Because ∵ Bernoullis ℬ Beta Β Bfr 𝔅 Bopf 𝔹 Breve ˘ Bscr ℬ",
    "Bumpeq ≎ bNot ⫭ backcong ≌ backepsilon ϶ backprime ‵ backsim ∽ backsimeq ⋍ barvee ⊽ barwed ⌅",
    "barwedge ⌅ bbrk ⎵ bbrktbrk ⎶ bcong ≌ bcy б bdquo „ becaus ∵ because ∵ bemptyv ⦰ bepsi ϶",
    "bernou ℬ beta β beth ℶ between ≬ bfr 𝔟 bigcap ⋂ bigcirc ◯ bigcup ⋃ bigodot ⨀ bigoplus ⨁",
    "bigotimes ⨂ bigsqcup ⨆ bigstar ★ bigtriangledown ▽ bigtriangleup △ biguplus ⨄ bigvee ⋁",
    "bigwedge ⋀ bkarow ⤍ blacklozenge ⧫ blacksquare ▪ blacktriangle ▴ blacktriangledown ▾",
    "blacktriangleleft ◂ blacktriangleright ▸ blank ␣ blk12 ▒ blk14 ░ blk34 ▓ block █ bne =\u20e5",
    "bnequiv ≡\u20e5 bnot ⌐ bopf 𝕓 bot ⊥ bottom ⊥ bowtie ⋈ boxDL ╗ boxDR ╔ boxDl ╖ boxDr ╓ boxH ═",
    "boxHD ╦ boxHU ╩ boxHd ╤ boxHu ╧ boxUL ╝ boxUR ╚ boxUl ╜ boxUr ╙ boxV ║ boxVH ╬ boxVL ╣",
    "boxVR ╠ boxVh ╫ boxVl ╢ boxVr ╟ boxbox ⧉ boxdL ╕ boxdR ╒ boxdl ┐ boxdr ┌ boxh ─ boxhD ╥",
    "boxhU ╨ boxhd ┬ boxhu ┴ boxminus ⊟ boxplus ⊞ boxtimes ⊠ boxuL ╛ boxuR ╘ boxul ┘ boxur └",
    "boxv │ boxvH ╪ boxvL ╡ boxvR ╞ boxvh ┼ boxvl ┤ boxvr ├ bprime ‵ breve ˘ brvbar ¦ bscr 𝒷",
    "bsemi ⁏ bsim ∽ bsime ⋍ bsol \\ bsolb ⧅ bsolhsub ⟈ bull • bullet • bump ≎ bumpE ⪮ bumpe ≏",
    "bumpeq ≏"]

def namedC : List String :=
  ["CHcy Ч COPY © Cacute Ć Cap ⋒ CapitalDifferentialD ⅅ Cayleys ℭ Ccaron Č Ccedil Ç Ccirc Ĉ",
    "Cconint ∰ Cdot Ċ Cedilla ¸ CenterDot · Cfr ℭ Chi Χ CircleDot ⊙ CircleMinus ⊖ CirclePlus ⊕",
    "CircleTimes ⊗ ClockwiseContourIntegral ∲ CloseCurlyDoubleQuote ” CloseCurlyQuote ’ Colon ∷",
    "Colone ⩴ Congruent ≡ Conint ∯ ContourIntegral ∮ Copf ℂ Coproduct ∐",
    "CounterClockwiseContourIntegral ∳ Cross ⨯ Cscr 𝒞 Cup ⋓ CupCap ≍ cacute ć cap ∩ capand ⩄",
    "capbrcup ⩉ capcap ⩋ capcup ⩇ capdot ⩀ caps ∩\ufe00 caret ⁁ caron ˇ ccaps ⩍ ccaron č ccedil ç",
    "ccirc ĉ ccups ⩌ ccupssm ⩐ cdot ċ cedil ¸ cemptyv ⦲ cent ¢ centerdot · cfr 𝔠 chcy ч check ✓",
    "checkmark ✓ chi χ cir ○ cirE ⧃ circ ˆ circeq ≗ circlearrowleft ↺ circlearrowright ↻",
    "circledR ® circledS Ⓢ circledast ⊛ circledcirc ⊚ circleddash ⊝ cire ≗ cirfnint ⨐ cirmid ⫯",
    "cirscir ⧂ clubs ♣ clubsuit ♣ colon : colone ≔ coloneq ≔ comma , commat @ comp ∁ compfn ∘",
    "complement ∁ complexes ℂ cong ≅ congdot ⩭ conint ∮ copf 𝕔 coprod ∐ copy © copysr ℗ crarr ↵",
    "cross ✗ cscr 𝒸 csub ⫏ csube ⫑ csup ⫐ csupe ⫒ ctdot ⋯ cudarrl ⤸ cudarrr ⤵ cuepr ⋞ cuesc ⋟",
    "cularr ↶ cularrp ⤽ cup ∪ cupbrcap ⩈ cupcap ⩆ cupcup ⩊ cupdot ⊍ cupor ⩅ cups ∪\ufe00 curarr ↷",
    "curarrm ⤼ curlyeqprec ⋞ curlyeqsucc ⋟ curlyvee ⋎ curlywedge ⋏ curren ¤ curvearrowleft ↶",
    "curvearrowright ↷ cuvee ⋎ cuwed ⋏ cwconint ∲ cwint ∱ cylcty ⌭"]

def namedD : List String :=
  ["DD ⅅ DDotrahd ⤑ DJcy Ђ DScy Ѕ DZcy Џ Dagger ‡ Darr ↡ Dashv ⫤ Dcaron Ď Dcy Д Del ∇ Delta Δ",
    "Dfr 𝔇 DiacriticalAcute ´ DiacriticalDot ˙ DiacriticalDoubleAcute ˝ DiacriticalGrave `",
    "DiacriticalTilde ˜ Diamond ⋄ DifferentialD ⅆ Dopf 𝔻 Dot ¨ DotDot ⃜ DotEqual ≐",
    "DoubleContourIntegral ∯ DoubleDot ¨ DoubleDownArrow ⇓ DoubleLeftArrow ⇐",
    "DoubleLeftRightArrow ⇔ DoubleLeftTee ⫤ DoubleLongLeftArrow ⟸ DoubleLongLeftRightArrow ⟺",
    "DoubleLongRightArrow ⟹ DoubleRightArrow ⇒ DoubleRightTee ⊨ DoubleUpArrow ⇑",
    "DoubleUpDownArrow ⇕ DoubleVerticalBar ∥ DownArrow ↓ DownArrowBar ⤓ DownArrowUpArrow ⇵",
    "DownBreve \u0311 DownLeftRightVector ⥐ DownLeftTeeVector ⥞ DownLeftVector ↽",
    "DownLeftVectorBar ⥖ DownRightTeeVector ⥟ DownRightVector ⇁ DownRightVectorBar ⥗ DownTee ⊤",
    "DownTeeArrow ↧ Downarrow ⇓ Dscr 𝒟 Dstrok Đ dArr ⇓ dHar ⥥ dagger † daleth ℸ darr ↓ dash ‐",
    "dashv ⊣ dbkarow ⤏ dblac ˝ dcaron ď dcy д dd ⅆ ddagger ‡ ddarr ⇊ ddotseq ⩷ deg ° delta δ",
    "demptyv ⦱ dfisht ⥿ dfr 𝔡 dharl ⇃ dharr ⇂ diam ⋄ diamond ⋄ diamondsuit ♦ diams ♦ die ¨",
    "digamma ϝ disin ⋲ div ÷ divide ÷ divideontimes ⋇ divonx ⋇ djcy ђ dlcorn ⌞ dlcrop ⌍ dollar $",
    "dopf 𝕕 dot ˙ doteq ≐ doteqdot ≑ dotminus ∸ dotplus ∔ dotsquare ⊡ doublebarwedge ⌆",
    "downarrow ↓ downdownarrows ⇊ downharpoonleft ⇃ downharpoonright ⇂ drbkarow ⤐ drcorn ⌟",
    "drcrop ⌌ dscr 𝒹 dscy ѕ dsol ⧶ dstrok đ dtdot ⋱ dtri ▿ dtrif ▾ duarr ⇵ duhar ⥯ dwangle ⦦",
    "dzcy џ dzigrarr ⟿"]

def namedE : List String :=
  ["ENG Ŋ ETH Ð Eacute É Ecaron Ě Ecirc Ê Ecy Э Edot Ė Efr 𝔈 Egrave È Element ∈ Emacr Ē",
    "EmptySmallSquare ◻ EmptyVerySmallSquare ▫ Eogon Ę Eopf 𝔼 Epsilon Ε Equal ⩵ EqualTilde ≂",
    "Equilibrium ⇌ Escr ℰ Esim ⩳ Eta Η Euml Ë Exists ∃ ExponentialE ⅇ eDDot ⩷ eDot ≑ eacute é",
    "easter ⩮ ecaron ě ecir ≖ ecirc ê ecolon ≕ ecy э edot ė ee ⅇ efDot ≒ efr 𝔢 eg ⪚ egrave è",
    "egs ⪖ egsdot ⪘ el ⪙ elinters ⏧ ell ℓ els ⪕ elsdot ⪗ emacr ē empty ∅ emptyset ∅ emptyv ∅",
    "emsp \u2003 emsp13 \u2004 emsp14 \u2005 eng ŋ ensp \u2002 eogon ę eopf 𝕖 epar ⋕ eparsl ⧣",
    "eplus ⩱ epsi ε epsilon ε epsiv ϵ eqcirc ≖ eqcolon ≕ eqsim ≂ eqslantgtr ⪖ eqslantless ⪕",
    "equals = equest ≟ equiv ≡ equivDD ⩸ eqvparsl ⧥ erDot ≓ erarr ⥱ escr ℯ esdot ≐ esim ≂ eta η",
    "eth ð euml ë euro € excl ! exist ∃ expectation ℰ exponentiale ⅇ"]

def namedF : List String :=
  ["Fcy Ф Ffr 𝔉 FilledSmallSquare ◼ FilledVerySmallSquare ▪ Fopf 𝔽 ForAll ∀ Fouriertrf ℱ Fscr ℱ",
    "fallingdotseq ≒ fcy ф female ♀ ffilig ﬃ fflig ﬀ ffllig ﬄ ffr 𝔣 filig ﬁ fjlig fj flat ♭",
    "fllig ﬂ fltns ▱ fnof ƒ fopf 𝕗 forall ∀ fork ⋔ forkv ⫙ fpartint ⨍ frac12 ½ frac13 ⅓ frac14 ¼",
    "frac15 ⅕ frac16 ⅙ frac18 ⅛ frac23 ⅔ frac25 ⅖ frac34 ¾ frac35 ⅗ frac38 ⅜ frac45 ⅘ frac56 ⅚",
    "frac58 ⅝ frac78 ⅞ frasl ⁄ frown ⌢ fscr 𝒻"]

def namedG : List String :=
  ["GJcy Ѓ GT > Gamma Γ Gammad Ϝ Gbreve Ğ Gcedil Ģ Gcirc Ĝ Gcy Г Gdot Ġ Gfr 𝔊 Gg ⋙ Gopf 𝔾",
    "GreaterEqual ≥ GreaterEqualLess ⋛ GreaterFullEqual ≧ GreaterGreater ⪢ GreaterLess ≷",
    "GreaterSlantEqual ⩾ GreaterTilde ≳ Gscr 𝒢 Gt ≫ gE ≧ gEl ⪌ gacute ǵ gamma γ gammad ϝ gap ⪆",
    "gbreve ğ gcirc ĝ gcy г gdot ġ ge ≥ gel ⋛ geq ≥ geqq ≧ geqslant ⩾ ges ⩾ gescc ⪩ gesdot ⪀",
    "gesdoto ⪂ gesdotol ⪄ gesl ⋛\ufe00 gesles ⪔ gfr 𝔤 gg ≫ ggg ⋙ gimel ℷ gjcy ѓ gl ≷ glE ⪒ gla ⪥",
    "glj ⪤ gnE ≩ gnap ⪊ gnapprox ⪊ gne ⪈ gneq ⪈ gneqq ≩ gnsim ⋧ gopf 𝕘 grave ` gscr ℊ gsim ≳",
    "gsime ⪎ gsiml ⪐ gt > gtcc ⪧ gtcir ⩺ gtdot ⋗ gtlPar ⦕ gtquest ⩼ gtrapprox ⪆ gtrarr ⥸ gtrdot ⋗",
    "gtreqless ⋛ gtreqqless ⪌ gtrless ≷ gtrsim ≳ gvertneqq ≩\ufe00 gvnE ≩\ufe00"]

def namedH : List String :=
  ["HARDcy Ъ Hacek ˇ Hat ^ Hcirc Ĥ Hfr ℌ HilbertSpace ℋ Hopf ℍ HorizontalLine ─ Hscr ℋ Hstrok Ħ",
    "HumpDownHump ≎ HumpEqual ≏ hArr ⇔ hairsp \u200a half ½ hamilt ℋ hardcy ъ harr ↔ harrcir ⥈",
    "harrw ↭ hbar ℏ hcirc ĥ hearts ♥ heartsuit ♥ hellip … hercon ⊹ hfr 𝔥 hksearow ⤥ hkswarow ⤦",
    "hoarr ⇿ homtht ∻ hookleftarrow ↩ hookrightarrow ↪ hopf 𝕙 horbar ― hscr 𝒽 hslash ℏ hstrok ħ",
    "hybull ⁃ hyphen ‐"]

def namedI : List String :=
  ["IEcy Е IJlig Ĳ IOcy Ё Iacute Í Icirc Î Icy И Idot İ Ifr ℑ Igrave Ì Im ℑ Imacr Ī ImaginaryI ⅈ",
    "Implies ⇒ Int ∬ Integral ∫ Intersection ⋂ InvisibleComma \u2063 InvisibleTimes \u2062",
    "Iogon Į Iopf 𝕀 Iota Ι Iscr ℐ Itilde Ĩ Iukcy І Iuml Ï iacute í ic \u2063 icirc î icy и iecy е",
    "iexcl ¡ iff ⇔ ifr 𝔦 igrave ì ii ⅈ iiiint ⨌ iiint ∭ iinfin ⧜ iiota ℩ ijlig ĳ imacr ī image ℑ",
    "imagline ℐ imagpart ℑ imath ı imof ⊷ imped Ƶ in ∈ incare ℅ infin ∞ infintie ⧝ inodot ı int ∫",
    "intcal ⊺ integers ℤ intercal ⊺ intlarhk ⨗ intprod ⨼ iocy ё iogon į iopf 𝕚 iota ι iprod ⨼",
    "iquest ¿ iscr 𝒾 isin ∈ isinE ⋹ isindot ⋵ isins ⋴ isinsv ⋳ isinv ∈ it \u2062 itilde ĩ iukcy і",
    "iuml ï"]

def namedJ : List String :=
  ["Jcirc Ĵ Jcy Й Jfr 𝔍 Jopf 𝕁 Jscr 𝒥 Jsercy Ј Jukcy Є jcirc ĵ jcy й jfr 𝔧 jmath ȷ jopf 𝕛 jscr 𝒿",
    "jsercy ј jukcy є"]

def namedK : List String :=
  ["KHcy Х KJcy Ќ Kappa Κ Kcedil Ķ Kcy К Kfr 𝔎 Kopf 𝕂 Kscr 𝒦 kappa κ kappav ϰ kcedil ķ kcy к",
    "kfr 𝔨 kgreen ĸ khcy х kjcy ќ kopf 𝕜 kscr 𝓀"]

def namedL : List String :=
  ["LJcy Љ LT < Lacute Ĺ Lambda Λ Lang ⟪ Laplacetrf ℒ Larr ↞ Lcaron Ľ Lcedil Ļ Lcy Л",
    "LeftAngleBracket ⟨ LeftArrow ← LeftArrowBar ⇤ LeftArrowRightArrow ⇆ LeftCeiling ⌈",
    "LeftDoubleBracket ⟦ LeftDownTeeVector ⥡ LeftDownVector ⇃ LeftDownVectorBar ⥙ LeftFloor ⌊",
    "LeftRightArrow ↔ LeftRightVector ⥎ LeftTee ⊣ LeftTeeArrow ↤ LeftTeeVector ⥚ LeftTriangle ⊲",
    "LeftTriangleBar ⧏ LeftTriangleEqual ⊴ LeftUpDownVector ⥑ LeftUpTeeVector ⥠ LeftUpVector ↿",
    "LeftUpVectorBar ⥘ LeftVector ↼ LeftVectorBar ⥒ Leftarrow ⇐ Leftrightarrow ⇔",
    "LessEqualGreater ⋚ LessFullEqual ≦ LessGreater ≶ LessLess ⪡ LessSlantEqual ⩽ LessTilde ≲",
    "Lfr 𝔏 Ll ⋘ Lleftarrow ⇚ Lmidot Ŀ LongLeftArrow ⟵ LongLeftRightArrow ⟷ LongRightArrow ⟶",
    "Longleftarrow ⟸ Longleftrightarrow ⟺ Longrightarrow ⟹ Lopf 𝕃 LowerLeftArrow ↙",
    "LowerRightArrow ↘ Lscr ℒ Lsh ↰ Lstrok Ł Lt ≪ lAarr ⇚ lArr ⇐ lAtail ⤛ lBarr ⤎ lE ≦ lEg ⪋",
    "lHar ⥢ lacute ĺ laemptyv ⦴ lagran ℒ lambda λ lang ⟨ langd ⦑ langle ⟨ lap ⪅ laquo « larr ←",
    "larrb ⇤ larrbfs ⤟ larrfs ⤝ larrhk ↩ larrlp ↫ larrpl ⤹ larrsim ⥳ larrtl ↢ lat ⪫ latail ⤙",
    "late ⪭ lates ⪭\ufe00 lbarr ⤌ lbbrk ❲ lbrace \x7b lbrack [ lbrke ⦋ lbrksld ⦏ lbrkslu ⦍",
    "lcaron ľ lcedil ļ lceil ⌈ lcub \x7b lcy л ldca ⤶ ldquo “ ldquor „ ldrdhar ⥧ ldrushar ⥋",
    "ldsh ↲ le ≤ leftarrow ← leftarrowtail ↢ leftharpoondown ↽ leftharpoonup ↼ leftleftarrows ⇇",
    "leftrightarrow ↔ leftrightarrows ⇆ leftrightharpoons ⇋ leftrightsquigarrow ↭",
    "leftthreetimes ⋋ leg ⋚ leq ≤ leqq ≦ leqslant ⩽ les ⩽ lescc ⪨ lesdot ⩿ lesdoto ⪁ lesdotor ⪃",
    "lesg ⋚\ufe00 lesges ⪓ lessapprox ⪅ lessdot ⋖ lesseqgtr ⋚ lesseqqgtr ⪋ lessgtr ≶ lesssim ≲",
    "lfisht ⥼ lfloor ⌊ lfr 𝔩 lg ≶ lgE ⪑ lhard ↽ lharu ↼ lharul ⥪ lhblk ▄ ljcy љ ll ≪ llarr ⇇",
    "llcorner ⌞ llhard ⥫ lltri ◺ lmidot ŀ lmoust ⎰ lmoustache ⎰ lnE ≨ lnap ⪉ lnapprox ⪉ lne ⪇",
    "lneq ⪇ lneqq ≨ lnsim ⋦ loang ⟬ loarr ⇽ lobrk ⟦ longleftarrow ⟵ longleftrightarrow ⟷",
    "longmapsto ⟼ longrightarrow ⟶ looparrowleft ↫ looparrowright ↬ lopar ⦅ lopf 𝕝 loplus ⨭",
    "lotimes ⨴ lowast ∗ lowbar _ loz ◊ lozenge ◊ lozf ⧫ lpar ( lparlt ⦓ lrarr ⇆ lrcorner ⌟",
    "lrhar ⇋ lrhard ⥭ lrm \u200e lrtri ⊿ lsaquo ‹ lscr 𝓁 lsh ↰ lsim ≲ lsime ⪍ lsimg ⪏ lsqb [",
    "lsquo ‘ lsquor ‚ lstrok ł lt < ltcc ⪦ ltcir ⩹ ltdot ⋖ lthree ⋋ ltimes ⋉ ltlarr ⥶ ltquest ⩻",
    "ltrPar ⦖ ltri ◃ ltrie ⊴ ltrif ◂ lurdshar ⥊ luruhar ⥦ lvertneqq ≨\ufe00 lvnE ≨\ufe00"]

def namedM : List String :=
  ["Map ⤅ Mcy М MediumSpace \u205f Mellintrf ℳ Mfr 𝔐 MinusPlus ∓ Mopf 𝕄 Mscr ℳ Mu Μ mDDot ∺",
    "macr ¯ male ♂ malt ✠ maltese ✠ map ↦ mapsto ↦ mapstodown ↧ mapstoleft ↤ mapstoup ↥ marker ▮",
    "mcomma ⨩ mcy м mdash — measuredangle ∡ mfr 𝔪 mho ℧ micro µ mid ∣ midast * midcir ⫰ middot ·",
    "minus − minusb ⊟ minusd ∸ minusdu ⨪ mlcp ⫛ mldr … mnplus ∓ models ⊧ mopf 𝕞 mp ∓ mscr 𝓂",
    "mstpos ∾ mu μ multimap ⊸ mumap ⊸"]

def namedN : List String :=
  ["NJcy Њ Nacute Ń Ncaron Ň Ncedil Ņ Ncy Н NegativeMediumSpace \u200b NegativeThickSpace \u200b",
    "NegativeThinSpace \u200b NegativeVeryThinSpace \u200b NestedGreaterGreater ≫",
    "NestedLessLess ≪ NewLine \n Nfr 𝔑 NoBreak \u2060 NonBreakingSpace \u00a0 Nopf ℕ Not ⫬",
    "NotCongruent ≢ NotCupCap ≭ NotDoubleVerticalBar ∦ NotElement ∉ NotEqual ≠",
    "NotEqualTilde ≂\u0338 NotExists ∄ NotGreater ≯ NotGreaterEqual ≱ NotGreaterFullEqual ≧\u0338",
    "NotGreaterGreater ≫\u0338 NotGreaterLess ≹ NotGreaterSlantEqual ⩾\u0338 NotGreaterTilde ≵",
    "NotHumpDownHump ≎\u0338 NotHumpEqual ≏\u0338 NotLeftTriangle ⋪ NotLeftTriangleBar ⧏\u0338",
    "NotLeftTriangleEqual ⋬ NotLess ≮ NotLessEqual ≰ NotLessGreater ≸ NotLessLess ≪\u0338",
    "NotLessSlantEqual ⩽\u0338 NotLessTilde ≴ NotNestedGreaterGreater ⪢\u0338",
    "NotNestedLessLess ⪡\u0338 NotPrecedes ⊀ NotPrecedesEqual ⪯\u0338 NotPrecedesSlantEqual ⋠",
    "NotReverseElement ∌ NotRightTriangle ⋫ NotRightTriangleBar ⧐\u0338 NotRightTriangleEqual ⋭",
    "NotSquareSubset ⊏\u0338 NotSquareSubsetEqual ⋢ NotSquareSuperset ⊐\u0338",
    "NotSquareSupersetEqual ⋣ NotSubset ⊂\u20d2 NotSubsetEqual ⊈ NotSucceeds ⊁",
    "NotSucceedsEqual ⪰\u0338 NotSucceedsSlantEqual ⋡ NotSucceedsTilde ≿\u0338",
    "NotSuperset ⊃\u20d2 NotSupersetEqual ⊉ NotTilde ≁ NotTildeEqual ≄ NotTildeFullEqual ≇",
    "NotTildeTilde ≉ NotVerticalBar ∤ Nscr 𝒩 Ntilde Ñ Nu Ν nGg ⋙\u0338 nGt ≫\u20d2 nGtv ≫\u0338",
    "nLeftarrow ⇍ nLeftrightarrow ⇎ nLl ⋘\u0338 nLt ≪\u20d2 nLtv ≪\u0338 nRightarrow ⇏ nVDash ⊯",
    "nVdash ⊮ nabla ∇ nacute ń nang ∠\u20d2 nap ≉ napE ⩰\u0338 napid ≋\u0338 napos ŉ napprox ≉",
    "natur ♮ natural ♮ naturals ℕ nbsp \u00a0 nbump ≎\u0338 nbumpe ≏\u0338 ncap ⩃ ncaron ň",
    "ncedil ņ ncong ≇ ncongdot ⩭\u0338 ncup ⩂ ncy н ndash – ne ≠ neArr ⇗ nearhk ⤤ nearr ↗",
    "nearrow ↗ nedot ≐\u0338 nequiv ≢ nesear ⤨ nesim ≂\u0338 nexist ∄ nexists ∄ nfr 𝔫 ngE ≧\u0338",
    "nge ≱ ngeq ≱ ngeqq ≧\u0338 ngeqslant ⩾\u0338 nges ⩾\u0338 ngsim ≵ ngt ≯ ngtr ≯ nhArr ⇎",
    "nharr ↮ nhpar ⫲ ni ∋ nis ⋼ nisd ⋺ niv ∋ njcy њ nlArr ⇍ nlE ≦\u0338 nlarr ↚ nldr ‥ nle ≰",
    "nleftarrow ↚ nleftrightarrow ↮ nleq ≰ nleqq ≦\u0338 nleqslant ⩽\u0338 nles ⩽\u0338 nless ≮",
    "nlsim ≴ nlt ≮ nltri ⋪ nltrie ⋬ nmid ∤ nopf 𝕟 not ¬ notin ∉ notinE ⋹\u0338 notindot ⋵\u0338",
    "notinva ∉ notinvb ⋷ notinvc ⋶ notni ∌ notniva ∌ notnivb ⋾ notnivc ⋽ npar ∦ nparallel ∦",
    "nparsl ⫽\u20e5 npart ∂\u0338 npolint ⨔ npr ⊀ nprcue ⋠ npre ⪯\u0338 nprec ⊀ npreceq ⪯\u0338",
    "nrArr ⇏ nrarr ↛ nrarrc ⤳\u0338 nrarrw ↝\u0338 nrightarrow ↛ nrtri ⋫ nrtrie ⋭ nsc ⊁ nsccue ⋡",
    "nsce ⪰\u0338 nscr 𝓃 nshortmid ∤ nshortparallel ∦ nsim ≁ nsime ≄ nsimeq ≄ nsmid ∤ nspar ∦",
    "nsqsube ⋢ nsqsupe ⋣ nsub ⊄ nsubE ⫅\u0338 nsube ⊈ nsubset ⊂\u20d2 nsubseteq ⊈",
    "nsubseteqq ⫅\u0338 nsucc ⊁ nsucceq ⪰\u0338 nsup ⊅ nsupE ⫆\u0338 nsupe ⊉ nsupset ⊃\u20d2",
    "nsupseteq ⊉ nsupseteqq ⫆\u0338 ntgl ≹ ntilde ñ ntlg ≸ ntriangleleft ⋪ ntrianglelefteq ⋬",
    "ntriangleright ⋫ ntrianglerighteq ⋭ nu ν num # numero № numsp \u2007 nvDash ⊭ nvHarr ⤄",
    "nvap ≍\u20d2 nvdash ⊬ nvge ≥\u20d2 nvgt >\u20d2 nvinfin ⧞ nvlArr ⤂ nvle ≤\u20d2 nvlt <\u20d2",
    "nvltrie ⊴\u20d2 nvrArr ⤃ nvrtrie ⊵\u20d2 nvsim ∼\u20d2 nwArr ⇖ nwarhk ⤣ nwarr ↖ nwarrow ↖",
    "nwnear ⤧"]

def namedO : List String :=
  ["OElig Œ Oacute Ó Ocirc Ô Ocy О Odblac Ő Ofr 𝔒 Ograve Ò Omacr Ō Omega Ω Omicron Ο Oopf 𝕆",
    "OpenCurlyDoubleQuote “ OpenCurlyQuote ‘ Or ⩔ Oscr 𝒪 Oslash Ø Otilde Õ Otimes ⨷ Ouml Ö",
    "OverBar ‾ OverBrace ⏞ OverBracket ⎴ OverParenthesis ⏜ oS Ⓢ oacute ó oast ⊛ ocir ⊚ ocirc ô",
    "ocy о odash ⊝ odblac ő odiv ⨸ odot ⊙ odsold ⦼ oelig œ ofcir ⦿ ofr 𝔬 ogon ˛ ograve ò ogt ⧁",
    "ohbar ⦵ ohm Ω oint ∮ olarr ↺ olcir ⦾ olcross ⦻ oline ‾ olt ⧀ omacr ō omega ω omicron ο",
    "omid ⦶ ominus ⊖ oopf 𝕠 opar ⦷ operp ⦹ oplus ⊕ or ∨ orarr ↻ ord ⩝ order ℴ orderof ℴ ordf ª",
    "ordm º origof ⊶ oror ⩖ orslope ⩗ orv ⩛ oscr ℴ oslash ø osol ⊘ otilde õ otimes ⊗ otimesas ⨶",
    "ouml ö ovbar ⌽"]

def namedP : List String :=
  ["PartialD ∂ Pcy П Pfr 𝔓 Phi Φ Pi Π PlusMinus ± Poincareplane ℌ Popf ℙ Pr ⪻ Precedes ≺",
    "PrecedesEqual ⪯ PrecedesSlantEqual ≼ PrecedesTilde ≾ Prime ″ Product ∏ Proportion ∷",
    "Proportional ∝ Pscr 𝒫 Psi Ψ par ∥ para ¶ parallel ∥ parsim ⫳ parsl ⫽ part ∂ pcy п percnt %",
    "period . permil ‰ perp ⊥ pertenk ‱ pfr 𝔭 phi φ phiv ϕ phmmat ℳ phone ☎ pi π pitchfork ⋔",
    "piv ϖ planck ℏ planckh ℎ plankv ℏ plus + plusacir ⨣ plusb ⊞ pluscir ⨢ plusdo ∔ plusdu ⨥",
    "pluse ⩲ plusmn ± plussim ⨦ plustwo ⨧ pm ± pointint ⨕ popf 𝕡 pound £ pr ≺ prE ⪳ prap ⪷",
    "prcue ≼ pre ⪯ prec ≺ precapprox ⪷ preccurlyeq ≼ preceq ⪯ precnapprox ⪹ precneqq ⪵ precnsim ⋨",
    "precsim ≾ prime ′ primes ℙ prnE ⪵ prnap ⪹ prnsim ⋨ prod ∏ profalar ⌮ profline ⌒ profsurf ⌓",
    "prop ∝ propto ∝ prsim ≾ prurel ⊰ pscr 𝓅 psi ψ puncsp \u2008"]

def namedQ : List String :=
  ["QUOT \" Qfr 𝔔 Qopf ℚ Qscr 𝒬 qfr 𝔮 qint ⨌ qopf 𝕢 qprime ⁗ qscr 𝓆 quaternions ℍ quatint ⨖",
    "quest ? questeq ≟ quot \""]

def namedR : List String :=
  ["RBarr ⤐ REG ® Racute Ŕ Rang ⟫ Rarr ↠ Rarrtl ⤖ Rcaron Ř Rcedil Ŗ Rcy Р Re ℜ ReverseElement ∋",
    "ReverseEquilibrium ⇋ ReverseUpEquilibrium ⥯ Rfr ℜ Rho Ρ RightAngleBracket ⟩ RightArrow →",
    "RightArrowBar ⇥ RightArrowLeftArrow ⇄ RightCeiling ⌉ RightDoubleBracket ⟧",
    "RightDownTeeVector ⥝ RightDownVector ⇂ RightDownVectorBar ⥕ RightFloor ⌋ RightTee ⊢",
    "RightTeeArrow ↦ RightTeeVector ⥛ RightTriangle ⊳ RightTriangleBar ⧐ RightTriangleEqual ⊵",
    "RightUpDownVector ⥏ RightUpTeeVector ⥜ RightUpVector ↾ RightUpVectorBar ⥔ RightVector ⇀",
    "RightVectorBar ⥓ Rightarrow ⇒ Ropf ℝ RoundImplies ⥰ Rrightarrow ⇛ Rscr ℛ Rsh ↱ RuleDelayed ⧴",
    "rAarr ⇛ rArr ⇒ rAtail ⤜ rBarr ⤏ rHar ⥤ race ∽\u0331 racute ŕ radic √ raemptyv ⦳ rang ⟩",
    "rangd ⦒ range ⦥ rangle ⟩ raquo » rarr → rarrap ⥵ rarrb ⇥ rarrbfs ⤠ rarrc ⤳ rarrfs ⤞ rarrhk ↪",
    "rarrlp ↬ rarrpl ⥅ rarrsim ⥴ rarrtl ↣ rarrw ↝ ratail ⤚ ratio ∶ rationals ℚ rbarr ⤍ rbbrk ❳",
    "rbrace \x7d rbrack ] rbrke ⦌ rbrksld ⦎ rbrkslu ⦐ rcaron ř rcedil ŗ rceil ⌉ rcub \x7d rcy р",
    "rdca ⤷ rdldhar ⥩ rdquo ” rdquor ” rdsh ↳ real ℜ realine ℛ realpart ℜ reals ℝ rect ▭ reg ®",
    "rfisht ⥽ rfloor ⌋ rfr 𝔯 rhard ⇁ rharu ⇀ rharul ⥬ rho ρ rhov ϱ rightarrow → rightarrowtail ↣",
    "rightharpoondown ⇁ rightharpoonup ⇀ rightleftarrows ⇄ rightleftharpoons ⇌ rightrightarrows ⇉",
    "rightsquigarrow ↝ rightthreetimes ⋌ ring ˚ risingdotseq ≓ rlarr ⇄ rlhar ⇌ rlm \u200f",
    "rmoust ⎱ rmoustache ⎱ rnmid ⫮ roang ⟭ roarr ⇾ robrk ⟧ ropar ⦆ ropf 𝕣 roplus ⨮ rotimes ⨵",
    "rpar ) rpargt ⦔ rppolint ⨒ rrarr ⇉ rsaquo › rscr 𝓇 rsh ↱ rsqb ] rsquo ’ rsquor ’ rthree ⋌",
    "rtimes ⋊ rtri ▹ rtrie ⊵ rtrif ▸ rtriltri ⧎ ruluhar ⥨ rx ℞"]

def namedS : List String :=
  ["SHCHcy Щ SHcy Ш SOFTcy Ь Sacute Ś Sc ⪼ Scaron Š Scedil Ş Scirc Ŝ Scy С Sfr 𝔖",
    "ShortDownArrow ↓ ShortLeftArrow ← ShortRightArrow → ShortUpArrow ↑ Sigma Σ SmallCircle ∘",
    "Sopf 𝕊 Sqrt √ Square □ SquareIntersection ⊓ SquareSubset ⊏ SquareSubsetEqual ⊑",
    "SquareSuperset ⊐ SquareSupersetEqual ⊒ SquareUnion ⊔ Sscr 𝒮 Star ⋆ Sub ⋐ Subset ⋐",
    "SubsetEqual ⊆ Succeeds ≻ SucceedsEqual ⪰ SucceedsSlantEqual ≽ SucceedsTilde ≿ SuchThat ∋",
    "Sum ∑ Sup ⋑ Superset ⊃ SupersetEqual ⊇ Supset ⋑ sacute ś sbquo ‚ sc ≻ scE ⪴ scap ⪸ scaron š",
    "sccue ≽ sce ⪰ scedil ş scirc ŝ scnE ⪶ scnap ⪺ scnsim ⋩ scpolint ⨓ scsim ≿ scy с sdot ⋅",
    "sdotb ⊡ sdote ⩦ seArr ⇘ searhk ⤥ searr ↘ searrow ↘ sect § semi ; seswar ⤩ setminus ∖ setmn ∖",
    "sext ✶ sfr 𝔰 sfrown ⌢ sharp ♯ shchcy щ shcy ш shortmid ∣ shortparallel ∥ shy \u00ad sigma σ",
    "sigmaf ς sigmav ς sim ∼ simdot ⩪ sime ≃ simeq ≃ simg ⪞ simgE ⪠ siml ⪝ simlE ⪟ simne ≆",
    "simplus ⨤ simrarr ⥲ slarr ← smallsetminus ∖ smashp ⨳ smeparsl ⧤ smid ∣ smile ⌣ smt ⪪ smte ⪬",
    "smtes ⪬\ufe00 softcy ь sol / solb ⧄ solbar ⌿ sopf 𝕤 spades ♠ spadesuit ♠ spar ∥ sqcap ⊓",
    "sqcaps ⊓\ufe00 sqcup ⊔ sqcups ⊔\ufe00 sqsub ⊏ sqsube ⊑ sqsubset ⊏ sqsubseteq ⊑ sqsup ⊐",
    "sqsupe ⊒ sqsupset ⊐ sqsupseteq ⊒ squ □ square □ squarf ▪ squf ▪ srarr → sscr 𝓈 ssetmn ∖",
    "ssmile ⌣ sstarf ⋆ star ☆ starf ★ straightepsilon ϵ straightphi ϕ strns ¯ sub ⊂ subE ⫅",
    "subdot ⪽ sube ⊆ subedot ⫃ submult ⫁ subnE ⫋ subne ⊊ subplus ⪿ subrarr ⥹ subset ⊂ subseteq ⊆",
    "subseteqq ⫅ subsetneq ⊊ subsetneqq ⫋ subsim ⫇ subsub ⫕ subsup ⫓ succ ≻ succapprox ⪸",
    "succcurlyeq ≽ succeq ⪰ succnapprox ⪺ succneqq ⪶ succnsim ⋩ succsim ≿ sum ∑ sung ♪ sup ⊃",
    "sup1 ¹ sup2 ² sup3 ³ supE ⫆ supdot ⪾ supdsub ⫘ supe ⊇ supedot ⫄ suphsol ⟉ suphsub ⫗",
    "suplarr ⥻ supmult ⫂ supnE ⫌ supne ⊋ supplus ⫀ supset ⊃ supseteq ⊇ supseteqq ⫆ supsetneq ⊋",
    "supsetneqq ⫌ supsim ⫈ supsub ⫔ supsup ⫖ swArr ⇙ swarhk ⤦ swarr ↙ swarrow ↙ swnwar ⤪ szlig ß"]

def namedT : List String :=
  ["THORN Þ TRADE ™ TSHcy Ћ TScy Ц Tab \t Tau Τ Tcaron Ť Tcedil Ţ Tcy Т Tfr 𝔗 Therefore ∴",
    "Theta Θ ThickSpace \u205f\u200a ThinSpace \u2009 Tilde ∼ TildeEqual ≃ TildeFullEqual ≅",
    "TildeTilde ≈ Topf 𝕋 TripleDot ⃛ Tscr 𝒯 Tstrok Ŧ target ⌖ tau τ tbrk ⎴ tcaron ť tcedil ţ",
    "tcy т tdot ⃛ telrec ⌕ tfr 𝔱 there4 ∴ therefore ∴ theta θ thetasym ϑ thetav ϑ thickapprox ≈",
    "thicksim ∼ thinsp \u2009 thkap ≈ thksim ∼ thorn þ tilde ˜ times × timesb ⊠ timesbar ⨱",
    "timesd ⨰ tint ∭ toea ⤨ top ⊤ topbot ⌶ topcir ⫱ topf 𝕥 topfork ⫚ tosa ⤩ tprime ‴ trade ™",
    "triangle ▵ triangledown ▿ triangleleft ◃ trianglelefteq ⊴ triangleq ≜ triangleright ▹",
    "trianglerighteq ⊵ tridot ◬ trie ≜ triminus ⨺ triplus ⨹ trisb ⧍ tritime ⨻ trpezium ⏢ tscr 𝓉",
    "tscy ц tshcy ћ tstrok ŧ twixt ≬ twoheadleftarrow ↞ twoheadrightarrow ↠"]

def namedU : List String :=
  ["Uacute Ú Uarr ↟ Uarrocir ⥉ Ubrcy Ў Ubreve Ŭ Ucirc Û Ucy У Udblac Ű Ufr 𝔘 Ugrave Ù Umacr Ū",
    "UnderBar _ UnderBrace ⏟ UnderBracket ⎵ UnderParenthesis ⏝ Union ⋃ UnionPlus ⊎ Uogon Ų Uopf 𝕌",
    "UpArrow ↑ UpArrowBar ⤒ UpArrowDownArrow ⇅ UpDownArrow ↕ UpEquilibrium ⥮ UpTee ⊥ UpTeeArrow ↥",
    "Uparrow ⇑ Updownarrow ⇕ UpperLeftArrow ↖ UpperRightArrow ↗ Upsi ϒ Upsilon Υ Uring Ů Uscr 𝒰",
    "Utilde Ũ Uuml Ü uArr ⇑ uHar ⥣ uacute ú uarr ↑ ubrcy ў ubreve ŭ ucirc û ucy у udarr ⇅",
    "udblac ű udhar ⥮ ufisht ⥾ ufr 𝔲 ugrave ù uharl ↿ uharr ↾ uhblk ▀ ulcorn ⌜ ulcorner ⌜",
    "ulcrop ⌏ ultri ◸ umacr ū uml ¨ uogon ų uopf 𝕦 uparrow ↑ updownarrow ↕ upharpoonleft ↿",
    "upharpoonright ↾ uplus ⊎ upsi υ upsih ϒ upsilon υ upuparrows ⇈ urcorn ⌝ urcorner ⌝ urcrop ⌎",
    "uring ů urtri ◹ uscr 𝓊 utdot ⋰ utilde ũ utri ▵ utrif ▴ uuarr ⇈ uuml ü uwangle ⦧"]

def namedV : List String :=
  ["VDash ⊫ Vbar ⫫ Vcy В Vdash ⊩ Vdashl ⫦ Vee ⋁ Verbar ‖ Vert ‖ VerticalBar ∣ VerticalLine |",
    "VerticalSeparator ❘ VerticalTilde ≀ VeryThinSpace \u200a Vfr 𝔙 Vopf 𝕍 Vscr 𝒱 Vvdash ⊪ vArr ⇕",
    "vBar ⫨ vBarv ⫩ vDash ⊨ vangrt ⦜ varepsilon ϵ varkappa ϰ varnothing ∅ varphi ϕ varpi ϖ",
    "varpropto ∝ varr ↕ varrho ϱ varsigma ς varsubsetneq ⊊\ufe00 varsubsetneqq ⫋\ufe00",
    "varsupsetneq ⊋\ufe00 varsupsetneqq ⫌\ufe00 vartheta ϑ vartriangleleft ⊲ vartriangleright ⊳",
    "vcy в vdash ⊢ vee ∨ veebar ⊻ veeeq ≚ vellip ⋮ verbar | vert | vfr 𝔳 vltri ⊲ vnsub ⊂\u20d2",
    "vnsup ⊃\u20d2 vopf 𝕧 vprop ∝ vrtri ⊳ vscr 𝓋 vsubnE ⫋\ufe00 vsubne ⊊\ufe00 vsupnE ⫌\ufe00",
    "vsupne ⊋\ufe00 vzigzag ⦚"]

def namedW : List String :=
  ["Wcirc Ŵ Wedge ⋀ Wfr 𝔚 Wopf 𝕎 Wscr 𝒲 wcirc ŵ wedbar ⩟ wedge ∧ wedgeq ≙ weierp ℘ wfr 𝔴 wopf 𝕨",
    "wp ℘ wr ≀ wreath ≀ wscr 𝓌"]

def namedX : List String :=
  ["Xfr 𝔛 Xi Ξ Xopf 𝕏 Xscr 𝒳 xcap ⋂ xcirc ◯ xcup ⋃ xdtri ▽ xfr 𝔵 xhArr ⟺ xharr ⟷ xi ξ xlArr ⟸",
    "xlarr ⟵ xmap ⟼ xnis ⋻ xodot ⨀ xopf 𝕩 xoplus ⨁ xotime ⨂ xrArr ⟹ xrarr ⟶ xscr 𝓍 xsqcup ⨆",
    "xuplus ⨄ xutri △ xvee ⋁ xwedge ⋀"]

def namedY : List String :=
  ["YAcy Я YIcy Ї YUcy Ю Yacute Ý Ycirc Ŷ Ycy Ы Yfr 𝔜 Yopf 𝕐 Yscr 𝒴 Yuml Ÿ yacute ý yacy я",
    "ycirc ŷ ycy ы yen ¥ yfr 𝔶 yicy ї yopf 𝕪 yscr 𝓎 yucy ю yuml ÿ"]

def namedZ : List String :=
  ["ZHcy Ж Zacute Ź Zcaron Ž Zcy З Zdot Ż ZeroWidthSpace \u200b Zeta Ζ Zfr ℨ Zopf ℤ Zscr 𝒵",
    "zacute ź zcaron ž zcy з zdot ż zeetrf ℨ zeta ζ zfr 𝔷 zhcy ж zigrarr ⇝ zopf 𝕫 zscr 𝓏",
    "zwj \u200d zwnj \u200c"]

def namedByInitial : List (Char × List String) :=
  [('a', namedA), ('b', namedB), ('c', namedC), ('d', namedD), ('e', namedE), ('f', namedF),
    ('g', namedG), ('h', namedH), ('i', namedI), ('j', namedJ), ('k', namedK), ('l', namedL),
    ('m', namedM), ('n', namedN), ('o', namedO), ('p', namedP), ('q', namedQ), ('r', namedR),
    ('s', namedS), ('t', namedT), ('u', namedU), ('v', namedV), ('w', namedW), ('x', namedX),
    ('y', namedY), ('z', namedZ)]

/-- The characters after a name in a list of alternating names and characters. -/
def findNamed (name : Text) : List Text → Option Text
  | key :: characters :: rest => if key = name then some characters else findNamed name rest
  | _ => none

def namedCharacters? (name : Text) : Option Text :=
  match name with
  | [] => none
  | initial :: _ =>
    match namedByInitial.find? fun entry => entry.1 = initial.toLower with
    | none => none
    | some entry => findNamed name (entry.2.flatMap fun line => Text.splitAtChar ' ' line.toList)

end StyleCatalog.Markdown
