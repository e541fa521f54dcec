/-! Words that many names of characters have, the most frequent ones first. -/

namespace FluentBuilder.Text

/-- The words with an abbreviation: the first 26 have one letter, the others two. -/
def commonWords : Array String :=
  #[
    "WITH", "LETTER", "SMALL", "FORM", "CAPITAL", "SIGN", "AND", "ARROW", "RIGHT", "ABOVE", "LEFT",
    "TWO", "BELOW", "FINAL", "ONE", "DOUBLE", "DOT", "MARK", "THREE", "BLACK", "ISOLATED", "WHITE",
    "FOUR", "HOOK", "STROKE", "SYMBOL", "FIVE", "INITIAL", "RIGHTWARDS", "HEAVY", "MIDDLE",
    "VERTICAL", "SIX", "EIGHT", "TIMES", "MEEM", "BAR", "PLUS", "LEFTWARDS", "SEVEN", "HALF",
    "DOWN", "HUNDRED", "NINE", "BRACKET", "FACE", "SQUARE", "CIRCLE", "DOTS", "YEH", "OVER",
    "THOUSAND", "ALEF", "EQUAL", "INDEX", "LIGHT", "VOWEL", "HORIZONTAL", "TILDE", "DIGIT", "RING",
    "DOWNWARDS", "LOWER", "TRIANGLE", "BARB", "LOW", "ACUTE", "UPWARDS", "MEDIUM", "HAH", "MEDIAL",
    "ZERO", "WEST-CREE", "UPPER", "OPEN", "JEEM", "TURNED", "LONG", "TEN", "CIRCUMFLEX", "THUMB",
    "TONE", "DASIA", "PSILI", "REVERSED", "DIAERESIS", "HIGH", "NGA", "SHA", "STOP", "ARROWHEAD",
    "TRIANGLE-HEADED", "LARGE", "GRAVE", "SINGLE", "CHA", "LINE", "NYA", "INVERTED", "KHA",
    "MACRON", "MAKSURA", "POINTING", "NUMBER", "EAST", "ROTATED", "OXIA", "VARIA", "COMMA", "THA",
    "LESS-THAN", "NOT", "BLOCK", "GREATER-THAN", "STAR", "VOCALIC", "CENTRE", "BREVE", "HARPOON",
    "LITTLE", "PHA", "TAIL", "CIRCLED", "KHAH", "OLD", "WEST", "ANGLE", "DEGREES", "GUNU",
    "ORNAMENT", "FULL", "LATIN", "SHORT", "ANUSVARA", "TTA", "DDA", "DHA", "NORTH", "GHA", "NUN",
    "ASTERISK", "CROSS", "TRIPLE", "ASH", "CARON", "DIAGONAL", "NNA", "BHA", "OPERATOR",
    "PERISPOMENI", "PUNCTUATION", "SOUTH", "PARENTHESIS", "RETROFLEX", "TOP", "TTHA", "DASH",
    "TENU", "TWENTY", "VIRAMA", "DDHA", "DESCENDER", "DIAMOND", "SSA", "ACCENT", "COMBINING",
    "NOON", "DOTTED", "FOR", "NINETY", "OMEGA", "THE", "WAW", "YPOGEGRAMMENI", "LAM", "HAMZA",
    "JHA", "VISARGA", "CLOSED", "EQUALS", "POINTED", "SQUARED", "HORN", "SEVENTY", "SHE", "TACK",
    "AIN", "ALPHA", "FIFTY", "LIGATURE", "QUARTER", "BOTTOM", "CHESS", "CORNER", "CANDRABINDU",
    "COLON", "CROSSING", "FROM", "HAND", "HITTING", "IOTA", "REH", "BENT", "DANDA", "END", "KAF",
    "MODIFIER", "QUOTATION", "SHIN", "TSA", "BOLD", "CEDILLA", "HEART", "HEH", "ORKHON", "PALATAL",
    "QUESTION", "YUS", "DIGRAPH", "GLOTTAL", "HAND-FIST", "KNIGHT", "PROSGEGRAMMENI", "UPSILON",
    "VERY", "YENISEI", "EIGHTH", "SEEN", "CURLY", "EPSILON", "EXCLAMATION", "MOON", "RAISED",
    "SIDE", "SIGMA", "SUBSET", "COPTIC", "GREEK", "NUKTA", "SCRIPT", "THETA", "UNDERBAR",
    "EQUILATERAL", "FINGERS", "RIGHT-POINTING", "SECTION", "SEPARATOR", "SHELL", "SOLIDUS",
    "STRAIGHT", "SUPERSET", "ALTERNATE", "CONSONANT", "DAGESH", "DISH", "OVERLAY", "SANS-SERIF",
    "CURL", "GAMMA", "LEAF", "NEUTRAL", "SHAFT", "SLANTED", "SPACE", "THIRTY", "TRIANGULAR",
    "VARIANT", "WAVE", "EYES", "MOUTH", "REVERSE", "DELTA", "LEFT-POINTING", "NOTE", "ARABIC",
    "ARCHAIC", "ARCHAION", "BETA", "FRACTION", "HEAD", "INSIDE", "INTEGRAL", "SHEEN", "TONOS",
    "ABBREVIATION", "ALTERNATING", "ANTICLOCKWISE", "CONJOINED", "CURVE", "FORTY", "GAN2",
    "HAND-HINGE", "INSULAR", "KAPPA", "KING", "LOOP", "MINUS", "OMICRON", "REST", "SPOKED",
    "TORTOISE", "ALEPH", "BETH", "BETWEEN", "FORWARD", "GHAIN", "HAND-CIRCLE", "HEARTS",
    "INTERSECTION", "SIXTY", "SMILING", "SOUND", "UNION", "ALMOST", "ARROWS", "AVAGRAHA", "GIMEL",
    "GISH", "HINGED", "IOTIFIED", "KAPH", "KOMI", "PERSON", "QUEEN", "SAMEKH", "SHAD", "SLASH",
    "SYLLABLE", "TAK4", "C-SIMPLIFIED", "CANDRA", "EIGHTHS", "EIGHTY", "EQUIVALENT", "HETH",
    "IDEOGRAPHIC", "KOET", "LAMEDH", "LENGTH", "NEGATIVE", "OBLIQUE", "OGONEK", "QUADRANT",
    "QUARTERS", "SADHE", "SHADE", "TSHA", "WORD", "YODH", "ZAIN", "BULLET", "CLUBS", "CYRILLIC",
    "DIALYTIKA", "DIAMONDS", "DOTLESS", "EARTH", "FILL", "LAMDA", "QUAD", "SPADES", "THROUGH",
    "TWELVE", "UP-POINTING", "ZAYIN", "CIRCLES", "CLOCKWISE", "CROSSED", "DASHED", "ICHOS", "KASRA",
    "LOGICAL", "LOZENGE", "MULTIPLE", "OVERBAR", "POINT", "PRECEDES", "PRODUCT", "RISING",
    "SHADOWED", "SPREAD", "SUCCEEDS", "SUPERSCRIPT", "THIRD", "WATER", "BISHOP", "CHECK",
    "DOWN-POINTING", "ELEVEN", "FATHA", "HAND-ANGLE", "HYPHEN", "KASKAL", "KRYZHEM", "LAGAB",
    "MOVEMENT-FLOORPLANE", "MOVEMENT-WALLPLANE", "MUSICAL", "NOTEHEAD", "OCLOCK", "POVYSHE",
    "PRIME", "ROUND", "RTAGS", "SEMICOLON", "TEDUNG", "TELEPHONE", "WRIST", "Y-CREE", "CARRIER",
    "CLICK", "CURVED", "DOUBLE-STRUCK", "FIFTEEN", "ITALIC", "KATAKANA", "MULTIPLICATION", "MURDA",
    "QUADRUPLE", "SALTIRE", "SIMALUNGUN", "TSHEG", "TWO-HEADED", "ALPAPRAANA", "ARABIC-INDIC",
    "BARRED", "BESIDE", "BIRGA", "CARET", "DALETH", "DAMMA", "ELEMENT", "FLOOR", "INVERSE",
    "LEFT-STEM", "LUNATE", "MAHAAPRAANA", "NASKAPI", "NORMAL", "NUMERAL", "ROUNDED", "SCHWA",
    "SHAR2", "SIXTEEN", "SVARITA", "TONE-2", "TONE-5", "TWELFTHS", "VOICED", "APOSTROPHE",
    "BAMBOOS", "BUBBLE", "CEILING", "CHARACTER", "CHARACTERS", "CROSSED-TAIL", "CRYPTOGRAMMIC",
    "EIGHTEEN", "ENVELOPE", "FILLER", "HANGUL", "ITERATION", "LARGEST", "NOTCHED", "NUBIAN",
    "PINWHEEL", "SAYISI", "SIDEWAYS", "THIRDS", "TONE-3", "ABKHASIAN", "AMPERSAND", "BACKHAND",
    "CENTRED", "CHIEUCH", "COMPRESSED", "CONTAINS", "CRESCENTS", "DIALECT-P", "DIVISION",
    "DODEKATA", "DRAGON", "ELLIPSIS", "EXTENDED", "EXTENSION", "FINGER", "FOURTEEN", "INDEPENDENT",
    "INDICATOR", "KHIEUKH", "KIYEOK", "LENTICULAR", "LONSUM", "MAHAPRANA", "MARKER", "MOUNTAIN",
    "MOVEMENT", "NINETEEN", "NOTATION", "OPPOSING", "OVERLINE", "PAIRED", "PARALLEL", "PHIEUPH",
    "SECANT", "SEVENTEEN", "SHESHIG", "STATERS", "SUBGROUP", "SUBUNIT", "SVETLAYA", "THIEUTH",
    "THIRTEEN", "THOUSANDS", "TIKEUT", "TURNSTILE", "ZAPYATAYA", "ZIGZAG", "AIRPLANE", "BACKSLASH",
    "BALLOT", "CONTAINING", "DOLLAR", "FALLING", "FISHHOOK", "FOLDER", "JAPANESE", "JOINER",
    "KLYUCHEVAYA", "MILLIONS", "OUTLINED", "PLASTICS", "POWERS", "RECTANGLE", "SECOND", "SIDDHAM",
    "SIMILAR", "SUBSCRIPT", "TALENTS", "TEARDROP-SPOKED", "VERTICALLY", "WRINKLED", "ANTIMONY",
    "ATTACHED", "BARLINE", "CONTACT", "CORNERS", "CRESCENT", "DIFFERENTIAL", "DIGAMMA", "DIVIDER",
    "DOUBLE-LINE", "EQUIHOPPER", "EXTREMELY", "FATHATAN", "HAND-CUP", "HIRAGANA", "HOLDING",
    "INFINITY", "IOTATED", "IZHITSA", "JIHVAMULIYA", "KHOKHLOM", "MATHEMATICAL", "MEASURE",
    "MONOGRAM", "PARTIAL", "SCISSORS", "SINGLE-LINE", "SIXTEENTH", "SUBJOINED", "SUBSTITUTION",
    "THESPIAN", "UPADHMANIYA", "VOLAPUK", "ZAPYATOY", "ANUDATTA", "APPROXIMATELY", "ARMENIAN",
    "BLACK-LETTER", "BUILDING", "CIRCULAR", "COMMERCIAL", "CURRENCY", "DAMMATAN", "FLOURISH",
    "GEMINATION", "GEORGIAN", "HAND-HOOK", "HAND-OVAL", "IDEOGRAM", "INTERROBANG", "KASRATAN",
    "KATAKANA-HIRAGANA", "KENTIMATA", "KEYBOARD", "LEFT-TO-RIGHT", "LOGOGRAM", "MEASURED",
    "NEPOSTOYANNAYA", "ONCOMING", "ORIGINAL", "PARAGRAPH", "PENTAGON", "ROTATION-FLOORPLANE",
    "ROTATION-WALLPLANE", "SEMICIRCLE", "SEMIDIRECT", "SUBLIMATE", "U-SHAPED", "UMBRELLA",
    "VARIATION", "APPROXIMATE", "ARROW-TAIL", "ARROWHEADS", "AS-SALAAM", "CANCELLATION",
    "CENTRALIZATION", "CUATRILLO", "DELIMITER", "EGYPTOLOGICAL", "EKFONITIKON", "EXTRA-HIGH",
    "EXTRA-LOW", "FINGER-POST", "FLATTENED", "GROMOPOVODNAYA", "HAND-CLAW", "HOURGLASS",
    "HYPHEN-MINUS", "IDENTICAL", "IDEOGRAPH", "ISOSCELES", "J-SIMPLIFIED", "LEFT-FACING",
    "LENGTHENER", "LIGHTNING", "MIDDLE-WELSH", "MONOCULAR", "NIEUN-CIEUC", "NIEUN-HIEUH",
    "NIKOLSBURG", "PARENTHESIZED", "PENTAGRAM", "PIEUP-SIOS", "POVODNAYA", "RIEUL-HIEUH",
    "RIEUL-KIYEOK", "RIEUL-MIEUM", "RIEUL-PIEUP", "RIEUL-SIOS", "RIGHT-FACING", "RIGHT-SHADOWED",
    "RIGHT-TO-LEFT", "RUDIMENTA", "SEBATBEIT", "SEQUENTIAL", "SILHOUETTE", "SIMPLIFIED",
    "SIXTEENTHS", "SSANGCIEUC", "SSANGKIYEOK", "SSANGPIEUP", "SSANGTIKEUT", "TRESVETLAYA",
    "TWENTY-FIVE", "BALLOON-SPOKED", "CONSTRUCTION", "DVOECHELNAYA", "EYEGAZE-WALLPLANE",
    "FRONT-TILTED", "HAND-CURLICUE", "KAPYEOUNMIEUM", "KAPYEOUNPHIEUPH", "KAPYEOUNPIEUP",
    "NASALIZATION", "NIEUN-TIKEUT", "PERPENDICULAR", "PIEUP-SIOS-TIKEUT", "PIEUP-TIKEUT",
    "PRESENTATION", "PRISHTHAMATRA", "RIEUL-PHIEUPH", "RIEUL-THIEUTH", "RIEUL-TIKEUT",
    "RIGHT-SHADED", "SEMICIRCULAR", "SIXTY-FOURTH", "THIRTY-SECOND", "TRANSPOSITION",
    "BYELORUSSIAN-UKRAINIAN", "DVOECHELNOPOVODNAYA", "EYEGAZE-FLOORPLANE", "KAPYEOUNSSANGPIEUP",
    "KLYUCHENEPOSTOYANNAYA", "ONE-HUNDRED-AND-SIXTIETH", "PIEUP-SIOS-KIYEOK", "RIEUL-KAPYEOUNPIEUP",
    "RIEUL-KIYEOK-SIOS", "RIEUL-PIEUP-SIOS", "RIEUL-SSANGKIYEOK", "RIEUL-YEORINHIEUH"]

end FluentBuilder.Text
