import HttpScript.Text.Basic

/-!
# The table of the names of characters

The names are those of Unicode 14, other than those of Hangul syllables and of ideographs.

The table goes through the named characters in rows of neighbours, each with the code point of its
first character.  A name is written as what it does not share with the name before it: a digit of
base 36 for the number of characters that are shared at the beginning, another one for those that
are shared at the end, and what stands between them.
-/

namespace HttpScript.Text

/-! ## Names -/

/-- Names from U+0020 on, below U+0B2A. -/
def namesFrom0020 : List (Nat × String) :=
  [
    (0x20, "00SPACE,00EXCLAMATION MARK,0AQUOT,00NUMBER SIGN,06DOLLA,05PERCENT,00AMPERSAND"),
    (0x27, "10POSTROPHE,00LEFT PARENTHESIS,0DRIGH,00ASTERISK,00PLUS SIGN,00COMMA,00HYPHEN-MINUS"),
    (0x2E, "00FULL STOP,00SOLIDUS,00DIGIT ZERO,60ONE,60TWO,70HREE,60FOUR,70IVE,60SIX,70EVEN"),
    (0x38, "60EIGHT,60NINE,00COLON,05SEMI,01LESS-THAN SIG,05EQUALS,05GREATER-THAN,00QUESTION MARK"),
    (0x40, "00COMMERCIAL AT,00LATIN CAPITAL LETTER A,L0B,L0C,L0D,L0E,L0F,L0G,L0H,L0I,L0J,L0K,L0L"),
    (0x4D, "L0M,L0N,L0O,L0P,L0Q,L0R,L0S,L0T,L0U,L0V,L0W,L0X,L0Y,L0Z,10EFT SQUARE BRACKET"),
    (0x5C, "00REVERSE SOLIDUS,10IGHT SQUARE BRACKET,01CIRCUMFLEX ACCEN,00LOW LINE,00GRAVE ACCENT"),
    (0x61, "00LATIN SMALL LETTER A,J0B,J0C,J0D,J0E,J0F,J0G,J0H,J0I,J0J,J0K,J0L,J0M,J0N,J0O,J0P"),
    (0x71, "J0Q,J0R,J0S,J0T,J0U,J0V,J0W,J0X,J0Y,J0Z,10EFT CURLY BRACKET,00VERTICAL LINE"),
    (0x7D, "00RIGHT CURLY BRACKET,00TILDE"),
    (0xA0, "01NO-BREAK SPAC,00INVERTED EXCLAMATION MARK,00CENT SIGN,05POUND,05CURRENCY,05YEN"),
    (0xA6, "00BROKEN BAR,00SECTION SIGN,00DIAERESIS,00COPYRIGHT SIGN,00FEMININE ORDINAL INDICATOR"),
    (0xAB, "00LEFT-POINTING DOUBLE ANGLE QUOTATION MARK,00NOT SIGN,01SOFT HYPHE,01REGISTERED SIG"),
    (0xAF, "01MACRO,01DEGREE SIG,05PLUS-MINUS,00SUPERSCRIPT TWO,D0HREE,00ACUTE ACCENT"),
    (0xB5, "00MICRO SIGN,05PILCROW,00MIDDLE DOT,00CEDILLA,00SUPERSCRIPT ONE"),
    (0xBA, "00MASCULINE ORDINAL INDICATOR,00RIGHT-POINTING DOUBLE ANGLE QUOTATION MARK"),
    (0xBC, "00VULGAR FRACTION ONE QUARTER,K0HALF,G0THREE QUARTERS,00INVERTED QUESTION MARK"),
    (0xC0, "00LATIN CAPITAL LETTER A WITH GRAVE,S1ACUT,S0CIRCUMFLEX,S0TILDE,S0DIAERESIS"),
    (0xC5, "S0RING ABOVE,M1,L0C WITH CEDILLA,L0E WITH GRAVE,S1ACUT,S0CIRCUMFLEX,S0DIAERESIS"),
    (0xCC, "L0I WITH GRAVE,S1ACUT,S0CIRCUMFLEX,S0DIAERESIS,L0ETH,L0N WITH TILDE,L1O WITH GRAV"),
    (0xD3, "S1ACUT,S0CIRCUMFLEX,S0TILDE,S0DIAERESIS,00MULTIPLICATION SIGN"),
    (0xD8, "00LATIN CAPITAL LETTER O WITH STROKE,L1U WITH GRAV,S1ACUT,S0CIRCUMFLEX,S0DIAERESIS"),
    (0xDD, "L0Y WITH ACUTE,L0THORN,60SMALL LETTER SHARP S,J0A WITH GRAVE,Q1ACUT,Q0CIRCUMFLEX"),
    (0xE3, "Q0TILDE,Q0DIAERESIS,Q0RING ABOVE,K1,J0C WITH CEDILLA,J0E WITH GRAVE,Q1ACUT"),
    (0xEA, "Q0CIRCUMFLEX,Q0DIAERESIS,J0I WITH GRAVE,Q1ACUT,Q0CIRCUMFLEX,Q0DIAERESIS,J0ETH"),
    (0xF1, "J0N WITH TILDE,J1O WITH GRAV,Q1ACUT,Q0CIRCUMFLEX,Q0TILDE,Q0DIAERESIS,00DIVISION SIGN"),
    (0xF8, "00LATIN SMALL LETTER O WITH STROKE,J1U WITH GRAV,Q1ACUT,Q0CIRCUMFLEX,Q0DIAERESIS"),
    (0xFD, "J0Y WITH ACUTE,J0THORN,J0Y WITH DIAERESIS,60CAPITAL LETTER A WITH MACRON,6MSMAL"),
    (0x102, "60CAPITAL LETTER A WITH BREVE,6LSMAL,60CAPITAL LETTER A WITH OGONEK,6MSMAL"),
    (0x106, "60CAPITAL LETTER C WITH ACUTE,6LSMAL,60CAPITAL LETTER C WITH CIRCUMFLEX,6QSMAL"),
    (0x10A, "60CAPITAL LETTER C WITH DOT ABOVE,6PSMAL,60CAPITAL LETTER C WITH CARON,6LSMAL"),
    (0x10E, "6BCAPITAL LETTER D,6LSMAL,60CAPITAL LETTER D WITH STROKE,6MSMAL"),
    (0x112, "60CAPITAL LETTER E WITH MACRON,6MSMAL,60CAPITAL LETTER E WITH BREVE,6LSMAL"),
    (0x116, "62CAPITAL LETTER E WITH DOT ABO,6PSMAL,60CAPITAL LETTER E WITH OGONEK,6MSMAL"),
    (0x11A, "60CAPITAL LETTER E WITH CARON,6LSMAL,60CAPITAL LETTER G WITH CIRCUMFLEX,6QSMAL"),
    (0x11E, "60CAPITAL LETTER G WITH BREVE,6LSMAL,62CAPITAL LETTER G WITH DOT ABO,6PSMAL"),
    (0x122, "60CAPITAL LETTER G WITH CEDILLA,6NSMAL,60CAPITAL LETTER H WITH CIRCUMFLEX,6QSMAL"),
    (0x126, "60CAPITAL LETTER H WITH STROKE,6MSMAL,61CAPITAL LETTER I WITH TILD,6LSMAL"),
    (0x12A, "60CAPITAL LETTER I WITH MACRON,6MSMAL,60CAPITAL LETTER I WITH BREVE,6LSMAL"),
    (0x12E, "60CAPITAL LETTER I WITH OGONEK,6MSMAL,60CAPITAL LETTER I WITH DOT ABOVE"),
    (0x131, "60SMALL LETTER DOTLESS I,60CAPITAL LIGATURE IJ,6DSMAL"),
    (0x134, "60CAPITAL LETTER J WITH CIRCUMFLEX,6QSMAL,60CAPITAL LETTER K WITH CEDILLA,6NSMAL,K1R"),
    (0x139, "60CAPITAL LETTER L WITH ACUTE,6LSMAL,60CAPITAL LETTER L WITH CEDILLA,6NSMAL"),
    (0x13D, "60CAPITAL LETTER L WITH CARON,6LSMAL,60CAPITAL LETTER L WITH MIDDLE DOT,6QSMAL"),
    (0x141, "60CAPITAL LETTER L WITH STROKE,6MSMAL,61CAPITAL LETTER N WITH ACUT,6LSMAL"),
    (0x145, "60CAPITAL LETTER N WITH CEDILLA,6NSMAL,60CAPITAL LETTER N WITH CARON,6LSMAL"),
    (0x149, "L0PRECEDED BY APOSTROPHE,60CAPITAL LETTER ENG,6CSMAL,60CAPITAL LETTER O WITH MACRON"),
    (0x14D, "6MSMAL,60CAPITAL LETTER O WITH BREVE,6LSMAL,61CAPITAL LETTER O WITH DOUBLE ACUT"),
    (0x151, "6SSMAL,61CAPITAL LIGATURE O,6DSMAL,61CAPITAL LETTER R WITH ACUT,6LSMAL"),
    (0x156, "60CAPITAL LETTER R WITH CEDILLA,6NSMAL,60CAPITAL LETTER R WITH CARON,6LSMAL"),
    (0x15A, "60CAPITAL LETTER S WITH ACUTE,6LSMAL,60CAPITAL LETTER S WITH CIRCUMFLEX,6QSMAL"),
    (0x15E, "60CAPITAL LETTER S WITH CEDILLA,6NSMAL,60CAPITAL LETTER S WITH CARON,6LSMAL"),
    (0x162, "60CAPITAL LETTER T WITH CEDILLA,6NSMAL,60CAPITAL LETTER T WITH CARON,6LSMAL"),
    (0x166, "60CAPITAL LETTER T WITH STROKE,6MSMAL,61CAPITAL LETTER U WITH TILD,6LSMAL"),
    (0x16A, "60CAPITAL LETTER U WITH MACRON,6MSMAL,60CAPITAL LETTER U WITH BREVE,6LSMAL"),
    (0x16E, "62CAPITAL LETTER U WITH RING ABO,6QSMAL,61CAPITAL LETTER U WITH DOUBLE ACUT,6SSMAL"),
    (0x172, "60CAPITAL LETTER U WITH OGONEK,6MSMAL,60CAPITAL LETTER W WITH CIRCUMFLEX,6QSMAL"),
    (0x176, "6GCAPITAL LETTER Y,6QSMAL,60CAPITAL LETTER Y WITH DIAERESIS,L0Z WITH ACUTE,6LSMAL"),
    (0x17B, "61CAPITAL LETTER Z WITH DOT ABOV,6PSMAL,60CAPITAL LETTER Z WITH CARON,6LSMAL"),
    (0x17F, "J0LONG S,J0B WITH STROKE,60CAPITAL LETTER B WITH HOOK,S0TOPBAR,6MSMAL"),
    (0x184, "60CAPITAL LETTER TONE SIX,6HSMAL,60CAPITAL LETTER OPEN O,L0C WITH HOOK,6KSMAL"),
    (0x189, "60CAPITAL LETTER AFRICAN D,L0D WITH HOOK,S0TOPBAR,6MSMAL,J0TURNED DELTA"),
    (0x18E, "60CAPITAL LETTER REVERSED E,L0SCHWA,L0OPEN E,L0F WITH HOOK,6KSMAL,6ACAPITAL LETTER G"),
    (0x194, "M0AMMA,60SMALL LETTER HV,60CAPITAL LETTER IOTA,M0 WITH STROKE,L0K WITH HOOK,6KSMAL"),
    (0x19A, "J0L WITH BAR,K0AMBDA WITH STROKE,60CAPITAL LETTER TURNED M,L0N WITH LEFT HOOK"),
    (0x19E, "60SMALL LETTER N WITH LONG RIGHT LEG,60CAPITAL LETTER O WITH MIDDLE TILDE,S0HORN"),
    (0x1A1, "6KSMAL,60CAPITAL LETTER OI,6BSMAL,60CAPITAL LETTER P WITH HOOK,6KSMAL,60LETTER YR"),
    (0x1A7, "60CAPITAL LETTER TONE TWO,6HSMAL,60CAPITAL LETTER ESH,60LETTER REVERSED ESH LOOP"),
    (0x1AB, "60SMALL LETTER T WITH PALATAL HOOK,65CAPITAL LETTER T WITH,6KSMAL"),
    (0x1AE, "65CAPITAL LETTER T WITH RETROFLEX,L0U WITH HORN,6KSMAL,61CAPITAL LETTER UPSILO"),
    (0x1B2, "L0V WITH HOOK,LAY,6KSMAL,60CAPITAL LETTER Z WITH STROKE,6MSMAL,60CAPITAL LETTER EZH"),
    (0x1B8, "O0 REVERSED,6LSMAL,N0WITH TAIL,60LETTER TWO WITH STROKE,61CAPITAL LETTER TONE FIV"),
    (0x1BD, "6ISMAL,61LETTER INVERTED GLOTTAL STOP WITH STROK,D0WYNN,D0DENTAL CLICK,D8LATER"),
    (0x1C2, "D6ALVEOLAR,D6RETROFLEX,60CAPITAL LETTER DZ WITH CARON,MC WITH SMALL LETTER "),
    (0x1C6, "6CSMALL LETTER D,60CAPITAL LETTER LJ,M1 WITH SMALL LETTER ,61SMALL LETTER L"),
    (0x1CA, "61CAPITAL LETTER N,M1 WITH SMALL LETTER ,61SMALL LETTER N"),
    (0x1CD, "60CAPITAL LETTER A WITH CARON,6LSMAL,6BCAPITAL LETTER I,6LSMAL,6BCAPITAL LETTER O"),
    (0x1D2, "6LSMAL,6BCAPITAL LETTER U,6LSMAL,63CAPITAL LETTER U WITH DIAERESIS AND MAC,6ZSMALL"),
    (0x1D7, "60CAPITAL LETTER U WITH DIAERESIS AND ACUTE,6ZSMAL"),
    (0x1D9, "60CAPITAL LETTER U WITH DIAERESIS AND CARON,6ZSMAL"),
    (0x1DB, "60CAPITAL LETTER U WITH DIAERESIS AND GRAVE,6ZSMAL,J1TURNED "),
    (0x1DE, "60CAPITAL LETTER A WITH DIAERESIS AND MACRON,6ZSMALL"),
    (0x1E0, "6BCAPITAL LETTER A WITH DOT ABOVE,6ZSMALL,67CAPITAL LETTER AE WITH,6NSMAL"),
    (0x1E4, "60CAPITAL LETTER G WITH STROKE,6MSMAL,60CAPITAL LETTER G WITH CARON,6LSMAL"),
    (0x1E8, "6BCAPITAL LETTER K,6LSMAL,60CAPITAL LETTER O WITH OGONEK,6MSMAL"),
    (0x1EC, "60CAPITAL LETTER O WITH OGONEK AND MACRON,6XSMAL,63CAPITAL LETTER EZH WITH CA,6NSMAL"),
    (0x1F0, "JBJ,60CAPITAL LETTER DZ,M1 WITH SMALL LETTER ,61SMALL LETTER D"),
    (0x1F4, "60CAPITAL LETTER G WITH ACUTE,6LSMAL,60CAPITAL LETTER HWAIR,L0WYNN,L0N WITH GRAVE"),
    (0x1F9, "6LSMAL,61CAPITAL LETTER A WITH RING ABOVE AND ACUT,6ZSMALL,66CAPITAL LETTER AE WITH"),
    (0x1FD, "6MSMAL,66CAPITAL LETTER O WITH STROKE AND,6WSMAL,61CAPITAL LETTER A WITH DOUBLE GRAV"),
    (0x201, "6SSMAL,62CAPITAL LETTER A WITH INVERTED BRE,6USMAL"),
    (0x204, "62CAPITAL LETTER E WITH DOUBLE GRA,6SSMAL,62CAPITAL LETTER E WITH INVERTED BRE"),
    (0x207, "6USMAL,62CAPITAL LETTER I WITH DOUBLE GRA,6SSMAL"),
    (0x20A, "62CAPITAL LETTER I WITH INVERTED BRE,6USMAL,62CAPITAL LETTER O WITH DOUBLE GRA"),
    (0x20D, "6SSMAL,62CAPITAL LETTER O WITH INVERTED BRE,6USMAL"),
    (0x210, "62CAPITAL LETTER R WITH DOUBLE GRA,6SSMAL,62CAPITAL LETTER R WITH INVERTED BRE"),
    (0x213, "6USMAL,62CAPITAL LETTER U WITH DOUBLE GRA,6SSMAL"),
    (0x216, "62CAPITAL LETTER U WITH INVERTED BRE,6USMAL,60CAPITAL LETTER S WITH COMMA BELOW"),
    (0x219, "6RSMAL,6HCAPITAL LETTER T,6RSMAL,60CAPITAL LETTER YOGH,6DSMAL"),
    (0x21E, "60CAPITAL LETTER H WITH CARON,6LSMAL,60CAPITAL LETTER N WITH LONG RIGHT LEG"),
    (0x221, "60SMALL LETTER D WITH CURL,60CAPITAL LETTER OU,6BSMAL,60CAPITAL LETTER Z WITH HOOK"),
    (0x225, "6KSMAL,60CAPITAL LETTER A WITH DOT ABOVE,6PSMAL,60CAPITAL LETTER E WITH CEDILLA"),
    (0x229, "6NSMAL,60CAPITAL LETTER O WITH DIAERESIS AND MACRON,6ZSMALL"),
    (0x22C, "6BCAPITAL LETTER O WITH TILDE,6WSMAL,60CAPITAL LETTER O WITH DOT ABOVE,6PSMAL"),
    (0x230, "60CAPITAL LETTER O WITH DOT ABOVE AND MACRON,6ZSMALL,67CAPITAL LETTER Y WITH,6MSMAL"),
    (0x234, "J0L WITH CURL,JAN,JAT,J0DOTLESS J,K0B DIGRAPH,J8QP,60CAPITAL LETTER A WITH STROKE"),
    (0x23B, "LCC,6MSMAL,60CAPITAL LETTER L WITH BAR,L0T WITH DIAGONAL STROKE"),
    (0x23F, "60SMALL LETTER S WITH SWASH TAIL,JGZ,60CAPITAL LETTER GLOTTAL STOP,6LSMAL"),
    (0x243, "60CAPITAL LETTER B WITH STROKE,L0U BAR,L0TURNED V,L0E WITH STROKE,6MSMAL"),
    (0x248, "6CCAPITAL LETTER J,6MSMAL,60CAPITAL LETTER SMALL Q WITH HOOK TAIL,6HSMALL LETTER"),
    (0x24C, "60CAPITAL LETTER R WITH STROKE,6MSMAL,6CCAPITAL LETTER Y,6MSMAL,J0TURNED A,J1ALPH"),
    (0x252, "J6TURNED,J0B WITH HOOK,J0OPEN O,J0C WITH CURL,J1D WITH TAI,Q0HOOK,J0REVERSED E"),
    (0x259, "J0SCHWA,O0 WITH HOOK,J0OPEN E,J7REVERSED,Y0 WITH HOOK,J0CLOSED REVERSED OPEN E"),
    (0x25F, "J1DOTLESS J WITH STROK,J0G WITH HOOK,J0SCRIPT G,62LETTER SMALL CAPITAL"),
    (0x263, "60SMALL LETTER GAMMA,J0RAMS HORN,J0TURNED H,J0H WITH HOOK,KAENG,J0I WITH STROKE"),
    (0x269, "K0OTA,60LETTER SMALL CAPITAL I,60SMALL LETTER L WITH MIDDLE TILDE,Q0BELT"),
    (0x26D, "Q0RETROFLEX HOOK,K0EZH,J0TURNED M,R0 WITH LONG LEG,J0M WITH HOOK,J5N WITH LEFT"),
    (0x273, "Q5RETROFLEX,60LETTER SMALL CAPITAL N,60SMALL LETTER BARRED O"),
    (0x276, "60LETTER SMALL CAPITAL OE,60SMALL LETTER CLOSED OMEGA,J0PHI,J0TURNED R"),
    (0x27A, "R0 WITH LONG LEG,X0HOOK,J0R WITH LONG LEG,Q0TAIL,Q0FISHHOOK,KGEVERSED"),
    (0x280, "60LETTER SMALL CAPITAL R,R2INVERTED,60SMALL LETTER S WITH HOOK,J0ESH"),
    (0x284, "J0DOTLESS J WITH STROKE AND HOOK,J0SQUAT REVERSED ESH,J0ESH WITH CURL,J0TURNED T"),
    (0x288, "K0 WITH RETROFLEX HOOK,J0U BAR,K0PSILON,J0V WITH HOOK,J0TURNED V,Q0W,Q0Y"),
    (0x28F, "62LETTER SMALL CAPITAL,60SMALL LETTER Z WITH RETROFLEX HOOK,Q0CURL,J0EZH"),
    (0x293, "M0 WITH CURL,60LETTER GLOTTAL STOP,D0PHARYNGEAL VOICED FRICATIVE"),
    (0x296, "D0INVERTED GLOTTAL STOP,D0STRETCHED C,D0BILABIAL CLICK,D0SMALL CAPITAL B"),
    (0x29A, "60SMALL LETTER CLOSED OPEN E,60LETTER SMALL CAPITAL G WITH HOOK,R0H"),
    (0x29D, "60SMALL LETTER J WITH CROSSED-TAIL,J0TURNED K,60LETTER SMALL CAPITAL L"),
    (0x2A0, "60SMALL LETTER Q WITH HOOK,60LETTER GLOTTAL STOP WITH STROKE,DPREVERSED"),
    (0x2A3, "60SMALL LETTER DZ DIGRAPH,K8EZH,K0Z DIGRAPH WITH CURL,J0TS DIGRAPH,K8ESH"),
    (0x2A8, "K0C DIGRAPH WITH CURL,J0FENG DIGRAPH,J8LS,K8Z,60LETTER BILABIAL PERCUSSIVE,FDDENT"),
    (0x2AE, "60SMALL LETTER TURNED H WITH FISHHOOK,Z0SHHOOK AND TAIL,00MODIFIER LETTER SMALL H"),
    (0x2B1, "N0 WITH HOOK,M0J,M0R,M2TURNED,U0 WITH HOOK,M0CAPITAL INVERTED R,M0W,M0Y,G0PRIME"),
    (0x2BA, "G6DOUBLE,G0TURNED COMMA,G0APOSTROPHE,G0REVERSED COMMA,H0IGHT HALF RING,GBLEF"),
    (0x2C0, "G0GLOTTAL STOP,GDREVERSED,G0LEFT ARROWHEAD,GBRIGH,GAUP,GADOWN,G0CIRCUMFLEX ACCENT"),
    (0x2C7, "00CARON,00MODIFIER LETTER VERTICAL LINE,G0MACRON,G0ACUTE ACCENT,G8GRAV"),
    (0x2CC, "G0LOW VERTICAL LINE,K0MACRON,K0GRAVE ACCENT,K8ACUT,G0TRIANGULAR COLON,GHHALF"),
    (0x2D2, "G0CENTRED RIGHT HALF RING,OBLEF,G0UP TACK,G5DOWN,G0PLUS SIGN,G7MIN,00BREVE,02DOT ABO"),
    (0x2DA, "06RING,00OGONEK,00SMALL TILDE,00DOUBLE ACUTE ACCENT,00MODIFIER LETTER RHOTIC HOOK"),
    (0x2DF, "G0CROSS ACCENT,G0SMALL GAMMA,M0L,M0S,M0X,M0REVERSED GLOTTAL STOP"),
    (0x2E5, "G0EXTRA-HIGH TONE BAR,GD,G9MID,G9LOW,GCEXTRA-,G0YIN DEPARTING TONE MARK,HKANG"),
    (0x2EC, "G0VOICING,G0UNASPIRATED,G0DOUBLE APOSTROPHE,G0LOW DOWN ARROWHEAD,KAUP,KALEFT,KBRIGH"),
    (0x2F3, "M0NG,G0MIDDLE GRAVE ACCENT,NFDOUB,U8ACUT,G0LOW TILDE,G0RAISED COLON"),
    (0x2F9, "G0BEGIN HIGH TONE,GAEND,G5BEGIN LOW,G9END,G0SHELF,G6OPEN,G0LOW LEFT ARROW"),
    (0x300, "00COMBINING GRAVE ACCENT,A8ACUT,A7CIRCUMFLEX,A0TILDE,A0MACRON,A0OVERLINE,A1BREV"),
    (0x307, "A2DOT ABO,B0IAERESIS,A0HOOK ABOVE,A6RING,A0DOUBLE ACUTE ACCENT,A0CARON"),
    (0x30D, "A0VERTICAL LINE ABOVE,AKDOUBLE,H0GRAVE ACCENT,A0CANDRABINDU,A0INVERTED BREVE"),
    (0x312, "A2TURNED COMMA ABO,AB,ACREVERSED,A0COMMA ABOVE RIGHT,A0GRAVE ACCENT BELOW,AEACUT"),
    (0x318, "A6LEFT TACK,ACRIGH,A0LEFT ANGLE ABOVE,A0HORN,A0LEFT HALF RING BELOW,A6UP TACK,ABDOWN"),
    (0x31F, "A6PLUS SIGN,ADMIN,A6PALATALIZED HOOK,ABRETROFLEX,A6DOT,B6IAERESIS,A6RING,A6COMMA"),
    (0x327, "B0EDILLA,A0OGONEK,A0VERTICAL LINE BELOW,A7BRIDG,A6INVERTED DOUBLE ARCH,A6CARON"),
    (0x32D, "B6IRCUMFLEX ACCENT,A6BREVE,ACINVERTED,A7TILD,A6MACRON,A0LOW LINE,A9DOUBLE"),
    (0x334, "A0TILDE OVERLAY,A9SHORT STROK,AFLONG,A8SHORT SOLIDUS,AGLONG,A0RIGHT HALF RING BELOW"),
    (0x33A, "A6INVERTED BRIDGE,A7SQUAR,B6EAGULL,A0X ABOVE,A1VERTICAL TILD,A1DOUBLE OVERLIN"),
    (0x340, "A0GRAVE TONE MARK,ABACUT,A0GREEK PERISPOMENI,G0KORONIS,G1DIALYTIKA TONO"),
    (0x345, "G0YPOGEGRAMMENI,A0BRIDGE ABOVE,A0EQUALS SIGN BELOW,A6DOUBLE VERTICAL LINE"),
    (0x349, "A7LEFT ANGL,A0NOT TILDE ABOVE,A6HOMOTHETIC,A6ALMOST EQUAL TO"),
    (0x34D, "A0LEFT RIGHT ARROW BELOW,ACUPWARDS,A0GRAPHEME JOINER,A0RIGHT ARROWHEAD ABOVE"),
    (0x351, "A6LEFT HALF RING,A0FERMATA,A0X BELOW,A6LEFT ARROWHEAD,AHRIGH,QGAND UP"),
    (0x357, "G0HALF RING ABOVE,A0DOT ABOVE RIGHT,A0ASTERISK BELOW,A6DOUBLE RING,A0ZIGZAG ABOVE"),
    (0x35C, "A0DOUBLE BREVE BELOW,M0,H0MACRON,N0 BELOW,H0TILDE,H1INVERTED BREV"),
    (0x362, "H0RIGHTWARDS ARROW BELOW,A0LATIN SMALL LETTER A,T0E,T0I,T0O,T0U,T0C,T0D,T0H,T0M,T0R"),
    (0x36D, "T0T,T0V,T0X,00GREEK CAPITAL LETTER HETA,6DSMAL,60CAPITAL LETTER ARCHAIC SAMPI,6MSMAL"),
    (0x374, "60NUMERAL SIGN,6DLOWER,60CAPITAL LETTER PAMPHYLIAN DIGAMMA,6RSMAL"),
    (0x37A, "60YPOGEGRAMMENI,60SMALL REVERSED LUNATE SIGMA SYMBOL,CMDOTT,CRREVERSED"),
    (0x37E, "60QUESTION MARK,60CAPITAL LETTER YOT"),
    (0x384, "60TONOS,66DIALYTIKA,66CAPITAL LETTER ALPHA WITH,60ANO TELEIA"),
    (0x388, "60CAPITAL LETTER EPSILON WITH TONOS,MBTA,LDIO"),
    (0x38C, "LBOMICRON"),
    (0x38E, "LDUPSIL,LBOMEGA,66SMALL LETTER IOTA WITH DIALYTIKA AND,60CAPITAL LETTER ALPHA,L1BET"),
    (0x393, "L1GAMM,L1DELT,L0EPSILON,L0ZETA,L3,L3TH,L2IO,L1KAPP,L1LAMD,L0MU,L1N,L0XI,L0OMICRON"),
    (0x3A0, "L0PI,L0RHO"),
    (0x3A3, "L0SIGMA,L0TAU,L0UPSILON,L0PHI,L2C,L1PS,L0OMEGA,L1IOTA WITH DIALYTIK,LFUPSILON"),
    (0x3AC, "60SMALL LETTER ALPHA WITH TONOS,JBEPSILON,KBTA,JDIO,J6UPSILON WITH DIALYTIKA AND"),
    (0x3B1, "J0ALPHA,J1BET,J1GAMM,J1DELT,J0EPSILON,J0ZETA,J3,J3TH,J2IO,J1KAPP,J1LAMD,J0MU,J1N"),
    (0x3BE, "J0XI,J0OMICRON,J0PI,J0RHO,J0FINAL SIGMA,J5,J0TAU,J0UPSILON,J0PHI,J2C,J1PS,J0OMEGA"),
    (0x3CA, "J1IOTA WITH DIALYTIK,JFUPSILON,J0OMICRON WITH TONOS,JDUPSIL,JBOMEGA"),
    (0x3CF, "60CAPITAL KAI SYMBOL,67BETA,6ATH,67UPSILON WITH HOOK,JCACUTE AND,JGDIAERESIS,67PHI"),
    (0x3D6, "78,68KA,60LETTER ARCHAIC KOPPA,6LSMALL,61LETTER STIGM,6ESMALL,62LETTER DIGAM,6FSMALL"),
    (0x3DE, "61LETTER KOPP,6DSMALL,60LETTER SAMPI,6DSMALL,01COPTIC CAPITAL LETTER SHE,7DSMAL"),
    (0x3E4, "72CAPITAL LETTER F,7CSMAL,72CAPITAL LETTER KH,7DSMAL,71CAPITAL LETTER HOR,7DSMAL"),
    (0x3EA, "70CAPITAL LETTER GANGIA,7FSMAL,71CAPITAL LETTER SHIM,7ESMAL,70CAPITAL LETTER DEI"),
    (0x3EF, "7CSMAL,00GREEK KAPPA SYMBOL,67RHO,67LUNATE SIGMA,70ETTER YOT,60CAPITAL THETA SYMBOL"),
    (0x3F5, "67LUNATE EPSILON,6MREVERSED,60CAPITAL LETTER SHO,6CSMAL"),
    (0x3F9, "60CAPITAL LUNATE SIGMA SYMBOL,F0ETTER SAN,6CSMAL,60RHO WITH STROKE SYMBOL"),
    (0x3FD, "67CAPITAL REVERSED LUNATE SIGMA,EMDOTT,ERREVERSED"),
    (0x400, "00CYRILLIC CAPITAL LETTER IE WITH GRAVE,P0O,O0DJE,O2G,O1UKRAINIAN I,O1DZ"),
    (0x406, "O0BYELORUSSIAN-UKRAINIAN I,O1Y,O0JE,O2L,O2N,O1TSH,O1KJ,O1I WITH GRAV,O0SHORT U"),
    (0x40F, "O0DZHE,O0A,O0BE,O1V,O1GH,O1D,O1I,O1ZH,P1,O0I,O2SHORT,O0KA,O0EL,P0M,P0N,O0O,O0PE,O0ER"),
    (0x421, "P0S,O0TE,O0U,O0EF,O0HA,O0TSE,O1CH,O0SHA,Q2C,O0HARD SIGN,O0YERU,O0SOFT SIGN,O0E,O0YU"),
    (0x42F, "P0A,91SMALL LETTER ,M0BE,M1V,M1GH,M1D,M1I,M1ZH,N1,M0I,M2SHORT,M0KA,M0EL,N0M,N0N,M0O"),
    (0x43F, "M0PE,M0ER,N0S,M0TE,M0U,M0EF,M0HA,M0TSE,M1CH,M0SHA,O2C,M0HARD SIGN,M0YERU,M0SOFT SIGN"),
    (0x44D, "M0E,M0YU,N0A,M0IE WITH GRAVE,N0O,M0DJE,M2G,M1UKRAINIAN I,M1DZ"),
    (0x456, "M0BYELORUSSIAN-UKRAINIAN I,M1Y,M0JE,M2L,M2N,M1TSH,M1KJ,M1I WITH GRAV,M0SHORT U"),
    (0x45F, "M0DZHE,90CAPITAL LETTER OMEGA,9ESMAL,90CAPITAL LETTER YAT,9CSMAL"),
    (0x464, "90CAPITAL LETTER IOTIFIED E,9JSMAL,90CAPITAL LETTER LITTLE YUS,9JSMAL"),
    (0x468, "9BCAPITAL LETTER IOTIFIED,9SSMAL,94CAPITAL LETTER BIG,9GSMAL"),
    (0x46C, "98CAPITAL LETTER IOTIFIED,9PSMAL,90CAPITAL LETTER KSI,9CSMAL,92CAPITAL LETTER P"),
    (0x471, "9CSMAL,90CAPITAL LETTER FITA,9DSMAL,91CAPITAL LETTER IZHITS,9GSMAL"),
    (0x476, "90CAPITAL LETTER IZHITSA WITH DOUBLE GRAVE ACCENT,9ZSMALL LETT,90CAPITAL LETTER UK"),
    (0x479, "9BSMAL,90CAPITAL LETTER ROUND OMEGA,9KSMAL,90CAPITAL LETTER OMEGA WITH TITLO,9PSMAL"),
    (0x47E, "90CAPITAL LETTER OT,9BSMAL,90CAPITAL LETTER KOPPA,9ESMAL,90THOUSANDS SIGN"),
    (0x483, "10OMBINING CYRILLIC TITLO,J0PALATALIZATION,J0DASIA PNEUMATA,J9PSILI,K0OKRYTIE"),
    (0x488, "J0HUNDRED THOUSANDS SIGN,J6MILLION,10YRILLIC CAPITAL LETTER SHORT I WITH TAIL,9QSMAL"),
    (0x48C, "90CAPITAL LETTER SEMISOFT SIGN,9MSMAL,90CAPITAL LETTER ER WITH TICK,9LSMAL"),
    (0x490, "90CAPITAL LETTER GHE WITH UPTURN,9OSMAL,90CAPITAL LETTER GHE WITH STROKE,9OSMAL"),
    (0x494, "90CAPITAL LETTER GHE WITH MIDDLE HOOK,9TSMAL,90CAPITAL LETTER ZHE WITH DESCENDER"),
    (0x497, "9RSMAL,9GCAPITAL LETTER Z,9QSMAL,9FCAPITAL LETTER KA,9QSMAL"),
    (0x49C, "90CAPITAL LETTER KA WITH VERTICAL STROKE,9WSMAL,97CAPITAL LETTER KA WITH,9NSMAL"),
    (0x4A0, "90CAPITAL LETTER BASHKIR KA,9JSMAL,90CAPITAL LETTER EN WITH DESCENDER,9QSMAL"),
    (0x4A4, "90CAPITAL LIGATURE EN GHE,9HSMAL,90CAPITAL LETTER PE WITH MIDDLE HOOK,9SSMAL"),
    (0x4A8, "90CAPITAL LETTER ABKHASIAN HA,9LSMAL,90CAPITAL LETTER ES WITH DESCENDER,9QSMAL"),
    (0x4AC, "9FCAPITAL LETTER TE,9QSMAL,90CAPITAL LETTER STRAIGHT U,9JSMAL"),
    (0x4B0, "90CAPITAL LETTER STRAIGHT U WITH STROKE,9VSMAL,90CAPITAL LETTER HA WITH DESCENDER"),
    (0x4B3, "9QSMAL,90CAPITAL LIGATURE TE TSE,9HSMAL,90CAPITAL LETTER CHE WITH DESCENDER,9RSMAL"),
    (0x4B8, "90CAPITAL LETTER CHE WITH VERTICAL STROKE,9XSMAL,90CAPITAL LETTER SHHA,9DSMAL"),
    (0x4BC, "90CAPITAL LETTER ABKHASIAN CHE,9MSMAL,90CAPITAL LETTER ABKHASIAN CHE WITH DESCENDER"),
    (0x4BF, "9ZSMALL ,90LETTER PALOCHKA,90CAPITAL LETTER ZHE WITH BREVE,9NSMAL"),
    (0x4C3, "90CAPITAL LETTER KA WITH HOOK,9LSMAL,90CAPITAL LETTER EL WITH TAIL,9LSMAL"),
    (0x4C7, "90CAPITAL LETTER EN WITH HOOK,9LSMAL,90CAPITAL LETTER EN WITH TAIL,9LSMAL"),
    (0x4CB, "90CAPITAL LETTER KHAKASSIAN CHE,9NSMAL,90CAPITAL LETTER EM WITH TAIL,9LSMAL"),
    (0x4CF, "M0PALOCHKA,90CAPITAL LETTER A WITH BREVE,9LSMAL,90CAPITAL LETTER A WITH DIAERESIS"),
    (0x4D3, "9PSMAL,90CAPITAL LIGATURE A IE,9FSMAL,91CAPITAL LETTER IE WITH BREV,9MSMAL"),
    (0x4D8, "90CAPITAL LETTER SCHWA,9ESMAL,90CAPITAL LETTER SCHWA WITH DIAERESIS,9TSMAL"),
    (0x4DC, "9FCAPITAL LETTER ZHE,9RSMAL,9GCAPITAL LETTER Z,9QSMAL,90CAPITAL LETTER ABKHASIAN DZE"),
    (0x4E1, "9MSMAL,90CAPITAL LETTER I WITH MACRON,9MSMAL,90CAPITAL LETTER I WITH DIAERESIS"),
    (0x4E5, "9PSMAL,9FCAPITAL LETTER O,9PSMAL,90CAPITAL LETTER BARRED O,9HSMAL"),
    (0x4EA, "90CAPITAL LETTER BARRED O WITH DIAERESIS,9WSMAL,9FCAPITAL LETTER E,9PSMAL"),
    (0x4EE, "90CAPITAL LETTER U WITH MACRON,9MSMAL,90CAPITAL LETTER U WITH DIAERESIS,9PSMAL"),
    (0x4F2, "90CAPITAL LETTER U WITH DOUBLE ACUTE,9SSMAL,90CAPITAL LETTER CHE WITH DIAERESIS"),
    (0x4F5, "9RSMAL,90CAPITAL LETTER GHE WITH DESCENDER,9RSMAL"),
    (0x4F8, "90CAPITAL LETTER YERU WITH DIAERESIS,9SSMAL"),
    (0x4FA, "90CAPITAL LETTER GHE WITH STROKE AND HOOK,9XSMAL,95CAPITAL LETTER HA WITH,9LSMAL"),
    (0x4FE, "90CAPITAL LETTER HA WITH STROKE,9NSMAL,91CAPITAL LETTER KOMI D,9GSMAL"),
    (0x502, "91CAPITAL LETTER KOMI DJ,9HSMAL,92CAPITAL LETTER KOMI Z,9HSMAL"),
    (0x506, "93CAPITAL LETTER KOMI D,9ISMAL,92CAPITAL LETTER KOMI L,9HSMAL"),
    (0x50A, "92CAPITAL LETTER KOMI N,9HSMAL,92CAPITAL LETTER KOMI S,9HSMAL"),
    (0x50E, "92CAPITAL LETTER KOMI T,9HSMAL,91CAPITAL LETTER REVERSED Z,9KSMAL"),
    (0x512, "90CAPITAL LETTER EL WITH HOOK,9LSMAL,90CAPITAL LETTER LHA,9CSMAL,92CAPITAL LETTER R"),
    (0x517, "9CSMAL,90CAPITAL LETTER YAE,9CSMAL,90CAPITAL LETTER QA,9BSMAL,90CAPITAL LETTER WE"),
    (0x51D, "9BSMAL,90CAPITAL LETTER ALEUT KA,9HSMAL,90CAPITAL LETTER EL WITH MIDDLE HOOK,9SSMAL"),
    (0x522, "9HCAPITAL LETTER EN,9SSMAL,90CAPITAL LETTER PE WITH DESCENDER,9QSMAL"),
    (0x526, "9FCAPITAL LETTER SHHA,9SSMAL,90CAPITAL LETTER EN WITH LEFT HOOK,9QSMAL"),
    (0x52A, "90CAPITAL LETTER DZZHE,9ESMAL,92CAPITAL LETTER DC,9DSMAL"),
    (0x52E, "90CAPITAL LETTER EL WITH DESCENDER,9QSMAL"),
    (0x531, "00ARMENIAN CAPITAL LETTER AYB,O0BEN,O0GIM,O0DA,O0ECH,O0ZA,O0EH,P0T,O0TO,O0ZHE,O0INI"),
    (0x53C, "O0LIWN,O0XEH,O0CA,O0KEN,O0HO,O0JA,O0GHAD,O0CHEH,O0MEN,O0YI,O0NOW,O0SHA,O0VO,O0CHA"),
    (0x54A, "O0PEH,O2JH,O0RA,O0SEH,O0VEW,O0TIWN,O0REH,O0CO,O0YIWN,O0PIWR,O0KEH,O1O,O1FE"),
    (0x559, "90MODIFIER LETTER LEFT HALF RING,90APOSTROPHE,90EMPHASIS MARK,A5XCLAMATION,90COMMA"),
    (0x55E, "90QUESTION MARK,99ABBREVIA,90SMALL LETTER TURNED AYB,M3,M0BEN,M0GIM,M0DA,M0ECH,M0ZA"),
    (0x567, "M0EH,N0T,M0TO,M0ZHE,M0INI,M0LIWN,M0XEH,M0CA,M0KEN,M0HO,M0JA,M0GHAD,M0CHEH,M0MEN,M0YI"),
    (0x576, "M0NOW,M0SHA,M0VO,M0CHA,M0PEH,M2JH,M0RA,M0SEH,M0VEW,M0TIWN,M0REH,M0CO,M0YIWN,M0PIWR"),
    (0x584, "M0KEH,M1O,M1FE,G0IGATURE ECH YIWN,G0ETTER YI WITH STROKE,90FULL STOP,90HYPHEN"),
    (0x58D, "01RIGHT-FACING ARMENIAN ETERNITY SIG,0VLEF,05ARMENIAN DRAM"),
    (0x591, "00HEBREW ACCENT ETNAHTA,E0SEGOL,F0HALSHELET,E0ZAQEF QATAN,K0GADOL,E0TIPEHA,E1REVI"),
    (0x598, "E1ZARQ,E1PASHT,E0YETIV,E0TEVIR,E0GERESH,K0 MUQDAM,H1SHAYI,E0QARNEY PARA"),
    (0x5A0, "E1TELISHA GEDOL,E0PAZER,E0ATNAH HAFUKH,E1MUNA,F1AHAPAK,F0ERKHA,K1 KEFUL,E1DARG"),
    (0x5A8, "E1QADM,E1TELISHA QETAN,E0YERAH BEN YOMO,E0OLE,E0ILUY,E0DEHI,E0ZINOR"),
    (0x5AF, "70MARK MASORA CIRCLE,70POINT SHEVA,D0HATAF SEGOL,J0PATAH,J0QAMATS,E0IRIQ,D0TSERE"),
    (0x5B6, "D0SEGOL,D0PATAH,D0QAMATS,D0HOLAM,I0 HASER FOR VAV,D0QUBUTS,D0DAGESH OR MAPIQ,D0METEG"),
    (0x5BE, "80UNCTUATION MAQAF,80OINT RAFE,80UNCTUATION PASEQ,80OINT SHIN DOT,E6"),
    (0x5C3, "80UNCTUATION SOF PASUQ,70MARK UPPER DOT,C6LOW,70PUNCTUATION NUN HAFUKHA"),
    (0x5C7, "80OINT QAMATS QATAN"),
    (0x5D0, "70LETTER ALEF,E0BET,E0GIMEL,E0DALET,E0HE,E0VAV,E0ZAYIN,E0HET,E2T,E0YOD,E0FINAL KAF"),
    (0x5DB, "E3,E0LAMED,E0FINAL MEM,E3,E0FINAL NUN,E3,E0SAMEKH,E0AYIN,E0FINAL PE,E2,E0FINAL TSADI"),
    (0x5E6, "E5,E0QOF,E0RESH,E0SHIN,E0TAV"),
    (0x5EF, "70YOD TRIANGLE,70LIGATURE YIDDISH DOUBLE VAV,O0VAV YOD,O4DOUBLE,70PUNCTUATION GERESH"),
    (0x5F4, "M0SHAYIM"),
    (0x600, "00ARABIC NUMBER SIGN,70SIGN SANAH,70FOOTNOTE MARKER,70SIGN SAFHA,E0MVAT"),
    (0x605, "70NUMBER MARK ABOVE,60-INDIC CUBE ROOT,D5FOURTH,60 RAY,60-INDIC PER MILLE SIGN"),
    (0x60A, "H5TEN THOUSAND,15FGHANI,10RABIC COMMA,70DATE SEPARATOR,70POETIC VERSE SIGN"),
    (0x60F, "70SIGN MISRA,C0SALLALLAHOU ALAYHE WASSALLAM,C8ALAYHE ,C0RAHMATULLAH ALAYHE"),
    (0x613, "E0DI ALLAHOU ANHU,C0TAKHALLUS,80MALL HIGH TAH,I1LIGATURE ALEF WITH LAM WITH YE"),
    (0x617, "I0ZAIN,D0FATHA,D1DAMM,D1KASR,80EMICOLON,70LETTER MARK,75END OF TEXT"),
    (0x61E, "75TRIPLE DOT PUNCTUATION,79QUES,70LETTER KASHMIRI YEH,E0HAMZA"),
    (0x622, "E0ALEF WITH MADDA ABOVE,O7HAMZ,EHWAW,E0ALEF WITH HAMZA BELOW,E0YEH WITH HAMZA ABOVE"),
    (0x627, "E0ALEF,E0BEH,E0TEH MARBUTA,H0,F2H,E0JEEM,E0HAH,E3K,E0DAL,E2TH,E0REH,E0ZAIN,E1SEE,F3H"),
    (0x635, "F0AD,E2D,E0TAH,E2Z,E0AIN,E3GH,E0KEHEH WITH TWO DOTS ABOVE,Q0HREE DOTS BELOW"),
    (0x63D, "E0FARSI YEH WITH INVERTED V,T0TWO DOTS ABOVE,UBHREE,70TATWEEL,70LETTER FEH,E0QAF,E2K"),
    (0x644, "E0LAM,E1MEE,E0NOON,E0HEH,E0WAW,E0ALEF MAKSURA,E0YEH,70FATHATAN,74DAMM,74KASR,70FATHA"),
    (0x64F, "71DAMM,71KASR,71SHADD,80UKUN,70MADDAH ABOVE,76HAMZA,D0BELOW,70SUBSCRIPT ALEF"),
    (0x657, "70INVERTED DAMMA,71MARK NOON GHUNN,70ZWARAKAY,70VOWEL SIGN SMALL V ABOVE,IEINVERTED"),
    (0x65C, "I0DOT BELOW,70REVERSED DAMMA,70FATHA WITH TWO DOTS,70WAVY HAMZA BELOW"),
    (0x660, "60-INDIC DIGIT ZERO,J0ONE,J0TWO,K0HREE,J0FOUR,K0IVE,J0SIX,K0EVEN,J0EIGHT,J0NINE"),
    (0x66A, "60 PERCENT SIGN,70DECIMAL SEPARATOR,7ATHOUSANDS,71FIVE POINTED STA"),
    (0x66E, "70LETTER DOTLESS BEH,M0QAF,E1SUPERSCRIPT ALE,E0ALEF WASLA,K0ITH WAVY HAMZA ABOVE"),
    (0x673, "Z0BELOW,E0HIGH HAMZA,O0 ALEF,P0WAW,E0U WITH HAMZA ABOVE,E0HIGH HAMZA YEH,E2TT,I2"),
    (0x67B, "E2BE,E0TEH WITH RING,N0THREE DOTS ABOVE DOWNWARDS,E0PEH,E2TEH,E4B"),
    (0x681, "E0HAH WITH HAMZA ABOVE,N6TWO DOTS VERTICAL,E0NYEH,E3D,E0HAH WITH THREE DOTS ABOVE"),
    (0x686, "E0TCHEH,J2,E0DDAL,F0AL WITH RING,N0DOT BELOW,W0 AND SMALL TAH,G0HAL,F5,F1U"),
    (0x68F, "F0AL WITH THREE DOTS ABOVE DOWNWARDS,N0FOUR DOTS ABOVE,E0RREH,F0EH WITH SMALL V"),
    (0x693, "N0RING,N0DOT BELOW,N6SMALL V,N0DOT BELOW AND DOT ABOVE,N6TWO DOTS,E0JEH"),
    (0x699, "E0REH WITH FOUR DOTS ABOVE,E6SEEN WITH DOT BELOW AND DOT,O0THREE DOTS BELOW"),
    (0x69C, "Z0BELOW AND THREE DOTS ABOVE,F0AD WITH TWO DOTS BELOW,O0HREE DOTS ABOVE,EMTAH,EMAIN"),
    (0x6A1, "E0DOTLESS FEH,E0FEH WITH DOT MOVED BELOW,R5,E0VEH,E0FEH WITH THREE DOTS BELOW"),
    (0x6A6, "E0PEHEH,E0QAF WITH DOT ABOVE,N6THREE DOTS,E0KEHEH,E0SWASH KAF,E0KAF WITH RING"),
    (0x6AC, "N0DOT ABOVE,E0NG,E0KAF WITH THREE DOTS BELOW,E0GAF,H0 WITH RING,E0NGOEH"),
    (0x6B2, "E0GAF WITH TWO DOTS BELOW,F0UEH,F0AF WITH THREE DOTS ABOVE,E0LAM WITH SMALL V"),
    (0x6B6, "N0DOT ABOVE,N6THREE DOTS,Y0BELOW,E6NOON WITH DOT,J0GHUNNA,E0RNOON,E0NOON WITH RING"),
    (0x6BD, "O0THREE DOTS ABOVE,E1HEH DOACHASHME,E1TCHEH WITH DOT ABOV,E6HEH WITH YEH,I0GOAL"),
    (0x6C2, "M0 WITH HAMZA ABOVE,E0TEH MARBUTA GOAL,E0WAW WITH RING,E0KIRGHIZ OE,E2,E0U,E1Y"),
    (0x6C9, "E3KIRGHIZ,E0WAW WITH TWO DOTS ABOVE,E2,E0FARSI YEH,E0YEH WITH TAIL,N0SMALL V"),
    (0x6CF, "E0WAW WITH DOT ABOVE,E1,E0YEH WITH THREE DOTS BELOW,I0BARREE,O1 WITH HAMZA ABOV"),
    (0x6D4, "70FULL STOP,70LETTER AE,70SMALL HIGH LIGATURE SAD WITH LAM WITH ALEF MAKSURA,RRQAF"),
    (0x6D8, "I0MEEM INITIAL FORM,I0LAM ALEF,I0JEEM,I0THREE DOTS,I0SEEN,70END OF AYAH"),
    (0x6DE, "70START OF RUB EL HIZB,80MALL HIGH ROUNDED ZERO,I5UPRIGHT RECTANGULAR"),
    (0x6E1, "I0DOTLESS HEAD OF KHAH,I0MEEM ISOLATED FORM,D0LOW SEEN,D0HIGH MADDA,D0WAW,D0YEH"),
    (0x6E7, "D4HIGH,I0NOON,70PLACE OF SAJDAH,70EMPTY CENTRE LOW STOP,K5HIGH"),
    (0x6EC, "70ROUNDED HIGH STOP WITH FILLED CENTRE,70SMALL LOW MEEM,70LETTER DAL WITH INVERTED V"),
    (0x6EF, "EGREH,00EXTENDED ARABIC-INDIC DIGIT ZERO,S0ONE,S0TWO,T0HREE,S0FOUR,T0IVE,S0SIX"),
    (0x6F7, "T0EVEN,S0EIGHT,S0NINE,00ARABIC LETTER SHEEN WITH DOT BELOW,EFDAD,EFGHAIN"),
    (0x6FD, "70SIGN SINDHI AMPERSAND,J0POSTPOSITION MEN,70LETTER HEH WITH INVERTED V"),
    (0x700, "00SYRIAC END OF PARAGRAPH,70SUPRALINEAR FULL STOP,9GB,90PRALINEAR COLON,9CB"),
    (0x705, "76HORIZONTAL,70COLON SKEWED LEFT,K1RIGH,71SUPRALINEAR COLON SKEWED LEF"),
    (0x709, "91BLINEAR COLON SKEWED RIGH,70CONTRACTION,70HARKLEAN OBELUS,G6MET,G2ASTERISC"),
    (0x70F, "70ABBREVIATION MARK,70LETTER ALAPH,E6SUPERSCRIPT,E1BET,E0GAMAL,J0 GARSHUNI,E0DALATH"),
    (0x716, "F1OTLESS DALATH RIS,E0HE,E0WAW,E0ZAIN,E0HETH,E3T,I0 GARSHUNI,E0YUDH,I0 HE,E0KAPH"),
    (0x720, "E1LAMAD,E0MIM,E0NUN,E0SEMKATH,E8FINAL,E0E,E1P,E3REVERSED,E1SADH,E0QAPH,E1RIS,E0SHIN"),
    (0x72C, "E0TAW,E0PERSIAN BHETH,M0GHAMAL,M0DHALATH,70PTHAHA ABOVE,E0BELOW,E0DOTTED"),
    (0x733, "70ZQAPHA ABOVE,E0BELOW,E0DOTTED,70RBASA ABOVE,D0BELOW,70DOTTED ZLAMA HORIZONTAL"),
    (0x739, "K0ANGULAR,70HBASA ABOVE,D0BELOW,C0-ESASA DOTTED,70ESASA ABOVE,D0BELOW,70RWAHA"),
    (0x740, "70FEMININE DOT,70QUSHSHAYA,71RUKKAKH,70TWO VERTICAL DOTS ABOVE,P0BELOW"),
    (0x745, "80HREE DOTS ABOVE,I0BELOW,70OBLIQUE LINE ABOVE,K0BELOW,70MUSIC,70BARREKH"),
    (0x74D, "70LETTER SOGDIAN ZHAIN,M0KHAPH,M0FE"),
    (0x750, "00ARABIC LETTER BEH WITH THREE DOTS HORIZONTALLY BELOW"),
    (0x751, "N0DOT BELOW AND THREE DOTS ABOVE,N0THREE DOTS POINTING UPWARDS BELOW"),
    (0x753, "Z0OINTING UPWARDS BELOW AND TWO DOTS ABOVE,O6WO DOTS BELOW AND DOT"),
    (0x755, "N0INVERTED SMALL V BELOW,N0SMALL V,E0HAH WITH TWO DOTS ABOVE"),
    (0x758, "O0HREE DOTS POINTING UPWARDS BELOW"),
    (0x759, "E0DAL WITH TWO DOTS VERTICALLY BELOW AND SMALL TAH,N0INVERTED SMALL V BELOW"),
    (0x75B, "E0REH WITH STROKE,E1SEEN WITH FOUR DOTS ABOV,EBAIN WITH TWO"),
    (0x75E, "O7HREE DOTS POINTING DOWNWARD,O6WO DOTS VERTICALLY,E0FEH WITH TWO DOTS BELOW"),
    (0x761, "O7HREE DOTS POINTING UPWARD,E0KEHEH WITH DOT ABOVE,P6THREE DOTS"),
    (0x764, "Z0 POINTING UPWARDS BELOW,E0MEEM WITH DOT ABOVE,S0BELOW,E6NOON WITH TWO DOTS"),
    (0x768, "O0SMALL TAH,U0V,E0LAM WITH BAR,E0REH WITH TWO DOTS VERTICALLY ABOVE,N6HAMZA"),
    (0x76D, "E6SEEN WITH TWO DOTS VERTICALLY,E0HAH WITH SMALL ARABIC LETTER TAH BELOW"),
    (0x76F, "Z0 LETTER TAH AND TWO DOTS,EZSEEN WITH S,EZREH WITH S"),
    (0x772, "E0HAH WITH SMALL ARABIC LETTER TAH ABOVE,E6ALEF WITH EXTENDED ARABIC-INDIC DIGIT TWO"),
    (0x774, "Z6ABIC-INDIC DIGIT THREE,E6FARSI YEH WITH EXTENDED ARABIC-INDIC DIGIT TWO"),
    (0x776, "Z6ED ARABIC-INDIC DIGIT THREE,Z0ED ARABIC-INDIC DIGIT FOUR BELOW"),
    (0x778, "E0WAW WITH EXTENDED ARABIC-INDIC DIGIT TWO ABOVE,Z6BIC-INDIC DIGIT THREE"),
    (0x77A, "E6YEH BARREE WITH EXTENDED ARABIC-INDIC DIGIT TWO,Z6DED ARABIC-INDIC DIGIT THREE"),
    (0x77C, "E0HAH WITH EXTENDED ARABIC-INDIC DIGIT FOUR BELOW"),
    (0x77D, "E0SEEN WITH EXTENDED ARABIC-INDIC DIGIT FOUR ABOVE,O0INVERTED V"),
    (0x77F, "E0KAF WITH TWO DOTS ABOVE,00THAANA LETTER HAA,E0SHAVIYANI,E0NOONU,E0RAA,E2B"),
    (0x785, "E0LHAVIYANI,E0KAAFU,E2ALI,E1VAAV,E1MEEM,E1FAAF,E1DHAAL,E0THAA,E0LAAMU,E1GAAF"),
    (0x78F, "F0NAVIYANI,E0SEENU,E0DAVIYANI,E7Z,E7T,E0YAA,E0PAVIYANI,E7J,E7CH,E0TTAA,E2HH,E3K"),
    (0x79B, "E0THAALU,E0ZAA,E0SHEENU,F1AADH,E5D,E0TO,E1Z,E0AINU,E4GH,E1QAAF,E1WAAV,70ABAFILI"),
    (0x7A7, "85ABA,74IBI,74EEBEE,74UBU,74OOBOO,74EBE,84YBEY,74OBO,84ABOA,70SUKUN,70LETTER NAA"),
    (0x7C0, "00NKO DIGIT ZERO,A0ONE,A0TWO,B0HREE,A0FOUR,B0IVE,A0SIX,B0EVEN,A0EIGHT,A0NINE"),
    (0x7CA, "40LETTER A,B0EE,B0I,B0E,B0U,B0OO,C0,B0DAGBASINNA,B0N,B0BA,B1P,B1T,B1J,B1CH,B1D,B1R"),
    (0x7DA, "C2,B1S,B1GB,B1F,B1K,B1L,B0NA WOLOSO,B0MA,B1NY,C1,B1H,B1W,B1Y,B0NYA WOLOSO,B0JONA JA"),
    (0x7E9, "G1CH,G1R,40COMBINING SHORT HIGH TONE,K5LOW,K5RISING,E8LONG DESCEND,J5HIGH,J5LOW"),
    (0x7F1, "J5RISING,E0NASALIZATION MARK,E0DOUBLE DOT ABOVE,41HIGH TONE APOSTROPH,4GLOW"),
    (0x7F6, "40SYMBOL OO DENNEN,B3GBAKURU,40COMMA,40EXCLAMATION MARK,40LAJANYALAN"),
    (0x7FD, "45DANTA,51OROME SIG,45TAMAN,00SAMARITAN LETTER ALAF,H0BIT,H0GAMAN,H0DALAT,H0IY,H0BAA"),
    (0x806, "H0ZEN,H0IT,H2T,H1YU,H0KAAF,H0LABAT,H0MIM,H0NUN,H0SINGAAT,H0IN,H0FI,H0TSAADIY,H0QUF"),
    (0x813, "H0RISH,H0SHAN,H0TAAF,A0MARK IN,H0-ALAF,F0OCCLUSION,F0DAGESH"),
    (0x81A, "B0ODIFIER LETTER EPENTHETIC YUT,BFARK,A0VOWEL SIGN LONG E,L1,L0OVERLONG AA,L7,L2"),
    (0x821, "L1OVERLONG ,L6,L1,A2MODIFIER LETTER SHORT,A8VOWEL SIGN,L0LONG U,L1"),
    (0x828, "A0MODIFIER LETTER I,A2VOWEL SIGN LONG,L1,L0O,L0SUKUN,A0MARK NEQUDAA"),
    (0x830, "A8PUNCTUATION,M0AFSAAQ,N0NGED,M0BAU,M2ATMA,M0SHIYYAALAA,A0ABBREVIATION MARK"),
    (0x837, "A0PUNCTUATION MELODIC QITSA,M1ZIQA,M1QITS,M0ZAEF,M0TURU,M1ARKAAN,M0SOF MASHFAAT"),
    (0x83E, "M0ANNAAU"),
    (0x840, "00MANDAIC LETTER HALQA,F0AB,G0G,G0D,G0H,F0USHENNA,F0AZ,F0IT,F1AT,G0KSA,H0,G0L,G0M"),
    (0x84D, "G0N,G0S,F0IN,F0AP,G0SZ,G0Q,G0R,G0SH,G0T,F0DUSHENNA,F0KAD,F0AIN,80AFFRICATION MARK"),
    (0x85A, "8AVOCALIZ,8AGEMIN"),
    (0x85E, "80PUNCTUATION"),
    (0x860, "00SYRIAC LETTER MALAYALAM NGA,O1J,O1NY,O1TT,O1NN,Q2,O1BH,O1R,O1LL,Q2,O1SS"),
    (0x870, "01ARABIC LETTER ALEF WITH ATTACHED FATH,X6TOP RIGHT,O0RIGHT MIDDLE STROKE,OFLEF"),
    (0x874, "O0ATTACHED KASRA,X6BOTTOM RIGHT,X0ROUND DOT ABOVE,Y0IGHT ROUND DOT,XBLEF"),
    (0x879, "X0ROUND DOT BELOW,O0DOT ABOVE,OAATTACHED TOP RIGHT FATHA AND,OERIGHT MIDDLE STROKE"),
    (0x87D, "OEATTACHED BOTTOM RIGHT KASRA,X0TOP RIGHT FATHA AND LEFT RING,OERIGHT MIDDLE STROKE"),
    (0x880, "OEATTACHED BOTTOM RIGHT KASRA,X0RIGHT HAMZA,X7LEF,76TATWEEL WITH OVERSTRUCK,V0WAW"),
    (0x885, "K1TWO DOTS BELO,70LETTER THIN YEH,70BASELINE ROUND DOT,7ARAISED"),
    (0x889, "70LETTER NOON WITH INVERTED SMALL V,E0HAH WITH INVERTED SMALL V BELOW,E6TAH WITH DOT"),
    (0x88C, "N6THREE DOTS,E6KEHEH WITH TWO DOTS VERTICALLY,70VERTICAL TAIL"),
    (0x890, "70POUND MARK ABOVE,8BIASTRE"),
    (0x898, "70SMALL HIGH WORD AL-JUZ,D0LOW WORD ISHMAAM,N0MAALA,M0TASHEEL,70MADDA WAAJIB"),
    (0x89D, "70SUPERSCRIPT ALEF MOKHASSAS,70DOUBLED MADDA,76HALF MADDA OVER"),
    (0x8A0, "70LETTER BEH WITH SMALL V BELOW,N0HAMZA ABOVE,E6JEEM WITH TWO DOTS,EKTAH"),
    (0x8A4, "EBFEH WITH DOT BELOW AND THREE,E0QAF WITH DOT BELOW,E0LAM WITH DOUBLE BAR"),
    (0x8A7, "E0MEEM WITH THREE DOTS ABOVE,E6YEH WITH TWO DOTS BELOW AND HAMZA,Z6OW AND DOT"),
    (0x8AA, "E0REH WITH LOOP,E0WAW WITH DOT WITHIN,E0ROHINGYA YEH,E0LOW ALEF"),
    (0x8AE, "E0DAL WITH THREE DOTS BELOW,EMSAD,E0GAF WITH INVERTED STROKE,E0STRAIGHT WAW"),
    (0x8B2, "E0ZAIN WITH INVERTED V ABOVE,E0AIN WITH THREE DOTS BELOW,E6KAF WITH DOT"),
    (0x8B5, "E0QAF WITH DOT BELOW AND NO DOTS ABOVE,E6BEH WITH SMALL MEEM,EOP"),
    (0x8B8, "E6TEH WITH SMALL TEH,E6REH WITH SMALL NOON,EHYEH WITH TWO DOTS BELOW AND"),
    (0x8BB, "E0AFRICAN FEH,M0QAF,M0NOON,E0PEH WITH SMALL V,EFT,FG,FFCH,EGKE"),
    (0x8C3, "E0GHAIN WITH THREE DOTS ABOVE,EMAFRICAN QAF,EMJEEM,Z0BELOW"),
    (0x8C7, "E0LAM WITH SMALL ARABIC LETTER TAH ABOVE,E0GRAF,70SMALL FARSI YEH,DAHIGH"),
    (0x8CB, "I0YEH BARREE WITH TWO DOTS BELOW,I0WORD SAH,I2Z,70LARGE ROUND DOT ABOVE,N0BELOW"),
    (0x8D0, "76SUKUN,76LARGE CIRCLE,DEROUND DOT INSID,71SMALL LOW WA,D0HIGH WORD AR-RUB,I0SAD"),
    (0x8D6, "I0AIN,I0QAF,I0NOON WITH KASRA,DGLOW,D1HIGH WORD ATH-THALATH,O1S-SAJD,O0N-NISF"),
    (0x8DD, "N0SAKTA,N0QIF,N0WAQFA,I0FOOTNOTE MARKER,I0SIGN SAFHA,70DISPUTED END OF AYAH"),
    (0x8E3, "70TURNED DAMMA BELOW,70CURLY FATHA,D1DAMM,D1KASR,D0FATHATAN,D4DAMM,D4KASR"),
    (0x8EA, "70TONE ONE DOT ABOVE,C6TWO DOTS,C6LOOP,C0ONE DOT BELOW,C6TWO DOTS,C6LOOP"),
    (0x8F0, "70OPEN FATHATAN,C4DAMM,C4KASR,70SMALL HIGH WAW,70FATHA WITH RING,I0DOT ABOVE"),
    (0x8F6, "70KASRA WITH DOT BELOW,70LEFT ARROWHEAD ABOVE,7HRIGH,70LEFT ARROWHEAD BELOW,7HRIGH"),
    (0x8FB, "70DOUBLE RIGHT ARROWHEAD ABOVE,Z0 WITH DOT,7U,79DAMMA,70MARK SIDEWAYS NOON GHUNNA"),
    (0x900, "00DEVANAGARI SIGN INVERTED CANDRABINDU,GB,G0ANUSVARA,G1VISARG,B1LETTER SHORT ,I1,J1"),
    (0x907, "I0I,J1,I0U,J1,I0VOCALIC R,Q0L,I0CANDRA E,I2SHORT,I1,I0AI,I0CANDRA O,I2SHORT,I1,I0AU"),
    (0x915, "I0KA,J1H,I1G,J1H,I1NG,I1C,J1H,I1J,J1H,I1NY,I1TT,K1H,I1DD,K1H,I1NN,I1T,J1H,I1D,J1H"),
    (0x928, "I1N,J2N,I1P,J1H,I1B,J1H,I1M,I1Y,I1R,J2,I1L,J2,K2,I1V,I1SH,J1S,J1,I1H,B0VOWEL SIGN OE"),
    (0x93B, "N2,B0SIGN NUKTA,G1AVAGRAH,B1VOWEL SIGN A,M0I,N1,M0U,N1,M0VOCALIC R,V1,M0CANDRA E"),
    (0x946, "M2SHORT,M1,M0AI,M0CANDRA O,M2SHORT,M1,M0AU,B0SIGN VIRAMA"),
    (0x94E, "B0VOWEL SIGN PRISHTHAMATRA E,M0AW,B0OM,B0STRESS SIGN UDATTA,N6AN,B0GRAVE ACCENT"),
    (0x954, "B8ACUT,B0VOWEL SIGN CANDRA LONG E,M1U,N2,B0LETTER QA,I1KHH,I3G,I1Z,I1DDDH,I2R,I1F"),
    (0x95F, "I1YY,I0VOCALIC RR,Q0LL,B1VOWEL SIGN VOCALIC ,V1,B0DANDA,C6OUBLE,C0IGIT ZERO,H0ONE"),
    (0x968, "H0TWO,I0HREE,H0FOUR,I0IVE,H0SIX,I0EVEN,H0EIGHT,H0NINE,B0ABBREVIATION SIGN"),
    (0x971, "B0SIGN HIGH SPACING DOT,B0LETTER CANDRA A,I0OE,J2,I0AW,I0UE,J2,I0MARWARI DDA,I1ZH"),
    (0x97A, "I1HEAVY Y,I1GG,I1JJ,I0GLOTTAL STOP,I0DDDA,I1BB,00BENGALI ANJI,80SIGN CANDRABINDU"),
    (0x982, "D0ANUSVARA,D1VISARG"),
    (0x985, "81LETTER ,G1,F0I,G1,F0U,G1,F0VOCALIC R,N0L"),
    (0x98F, "F0E,F0AI"),
    (0x993, "F0O,F0AU,F0KA,G1H,F1G,G1H,F1NG,F1C,G1H,F1J,G1H,F1NY,F1TT,H1H,F1DD,H1H,F1NN,F1T,G1H"),
    (0x9A6, "F1D,G1H,F1N"),
    (0x9AA, "F1P,G1H,F1B,G1H,F1M,F1Y,F1R"),
    (0x9B2, "F1L"),
    (0x9B6, "F1SH,G1S,G1,F1H"),
    (0x9BC, "81SIGN NUKT,D1AVAGRAH,81VOWEL SIGN A,J0I,K1,J0U,K1,J0VOCALIC R,S1"),
    (0x9C7, "J0E,J0AI"),
    (0x9CB, "J0O,J0AU,80SIGN VIRAMA,81LETTER KHANDA T"),
    (0x9D7, "80AU LENGTH MARK"),
    (0x9DC, "80LETTER RRA,G1H"),
    (0x9DF, "F1YY,F0VOCALIC RR,N0LL,81VOWEL SIGN VOCALIC ,S1"),
    (0x9E6, "80DIGIT ZERO,E0ONE,E0TWO,F0HREE,E0FOUR,F0IVE,E0SIX,F0EVEN,E0EIGHT,E0NINE"),
    (0x9F0, "80LETTER RA WITH MIDDLE DIAGONAL,N9LOWER,80RUPEE MARK,E0SIGN"),
    (0x9F4, "80CURRENCY NUMERATOR ONE,R0TWO,S0HREE,R0FOUR,R1ONE LESS THAN THE DENOMINATO"),
    (0x9F9, "H0DENOMINATOR SIXTEEN,80ISSHAR,80GANDA MARK,80LETTER VEDIC ANUSVARA"),
    (0x9FD, "80ABBREVIATION SIGN,80SANDHI MARK"),
    (0xA01, "00GURMUKHI SIGN ADAK BINDI,E5,E0VISARGA"),
    (0xA05, "91LETTER ,H1,G0I,H1,G0U,H1"),
    (0xA0F, "G0EE,G0AI"),
    (0xA13, "G0OO,G0AU,G0KA,H1H,G1G,H1H,G1NG,G1C,H1H,G1J,H1H,G1NY,G1TT,I1H,G1DD,I1H,G1NN,G1T,H1H"),
    (0xA26, "G1D,H1H,G1N"),
    (0xA2A, "G1P,H1H,G1B,H1H,G1M,G1Y,G1R"),
    (0xA32, "G1L,H2"),
    (0xA35, "G1V,G1SH"),
    (0xA38, "H1,G1H"),
    (0xA3C, "91SIGN NUKT"),
    (0xA3E, "91VOWEL SIGN A,K0I,L1,K0U,L1"),
    (0xA47, "K0EE,K0AI"),
    (0xA4B, "K0OO,K0AU,90SIGN VIRAMA"),
    (0xA51, "E0UDAAT"),
    (0xA59, "90LETTER KHHA,G3G,G1Z,G1RR"),
    (0xA5E, "G1F"),
    (0xA66, "90DIGIT ZERO,F0ONE,F0TWO,G0HREE,F0FOUR,G0IVE,F0SIX,G0EVEN,F0EIGHT,F0NINE,90TIPPI"),
    (0xA71, "90ADDAK,90IRI,90URA,90EK ONKAR,90SIGN YAKASH,90ABBREVIATION SIGN"),
    (0xA81, "20JARATI SIGN CANDRABINDU,E0ANUSVARA,E1VISARG"),
    (0xA85, "91LETTER ,H1,G0I,H1,G0U,H1,G0VOCALIC R,O0L,90VOWEL CANDRA E"),
    (0xA8F, "92LETTER,G0AI,90VOWEL CANDRA O"),
    (0xA93, "92LETTER,G0AU,G0KA,H1H,G1G,H1H,G1NG,G1C,H1H,G1J,H1H,G1NY,G1TT,I1H,G1DD,I1H,G1NN,G1T"),
    (0xAA5, "H1H,G1D,H1H,G1N"),
    (0xAAA, "G1P,H1H,G1B,H1H,G1M,G1Y,G1R"),
    (0xAB2, "G1L,H2"),
    (0xAB5, "G1V,G1SH,H1S,H1,G1H"),
    (0xABC, "91SIGN NUKT,E1AVAGRAH,91VOWEL SIGN A,K0I,L1,K0U,L1,K0VOCALIC R,T1,K0CANDRA E"),
    (0xAC7, "K1,K0AI,K0CANDRA O"),
    (0xACB, "K1,K0AU,90SIGN VIRAMA"),
    (0xAD0, "90OM"),
    (0xAE0, "90LETTER VOCALIC RR,O0LL,91VOWEL SIGN VOCALIC ,T1"),
    (0xAE6, "90DIGIT ZERO,F0ONE,F0TWO,G0HREE,F0FOUR,G0IVE,F0SIX,G0EVEN,F0EIGHT,F0NINE"),
    (0xAF0, "90ABBREVIATION SIGN,95RUPEE"),
    (0xAF9, "90LETTER ZHA,90SIGN SUKUN,F0HADDA,E0MADDAH,E0THREE-DOT NUKTA ABOVE,ECCIRCLE,EITWO-"),
    (0xB01, "00ORIYA SIGN CANDRABINDU,B0ANUSVARA,B1VISARG"),
    (0xB05, "61LETTER ,E1,D0I,E1,D0U,E1,D0VOCALIC R,L0L"),
    (0xB0F, "D0E,D0AI"),
    (0xB13, "D0O,D0AU,D0KA,E1H,D1G,E1H,D1NG,D1C,E1H,D1J,E1H,D1NY,D1TT,F1H,D1DD,F1H,D1NN,D1T,E1H"),
    (0xB26, "D1D,E1H,D1N")
  ]

/-- Names from U+0B2A on, below U+1F18. -/
def namesFrom0B2A : List (Nat × String) :=
  [
    (0xB2A, "00ORIYA LETTER PA,E1H,D1B,E1H,D1M,D1Y,D1R"),
    (0xB32, "D1L,E2"),
    (0xB35, "D1V,D1SH,E1S,E1,D1H"),
    (0xB3C, "61SIGN NUKT,B1AVAGRAH,61VOWEL SIGN A,H0I,I1,H0U,I1,H0VOCALIC R,Q1"),
    (0xB47, "H0E,H0AI"),
    (0xB4B, "H0O,H0AU,60SIGN VIRAMA"),
    (0xB55, "B0OVERLINE,60AI LENGTH MARK,7CU"),
    (0xB5C, "60LETTER RRA,E1H"),
    (0xB5F, "D1YY,D0VOCALIC RR,L0LL,61VOWEL SIGN VOCALIC ,Q1"),
    (0xB66, "60DIGIT ZERO,C0ONE,C0TWO,D0HREE,C0FOUR,D0IVE,C0SIX,D0EVEN,C0EIGHT,C0NINE,60ISSHAR"),
    (0xB71, "60LETTER WA,60FRACTION ONE QUARTER,J0HALF,F0THREE QUARTERS,F0ONE SIXTEENTH,J2EIGH"),
    (0xB77, "F0THREE SIXTEENTHS"),
    (0xB82, "00TAMIL SIGN ANUSVARA,B1VISARG"),
    (0xB85, "61LETTER ,E1,D0I,E1,D0U,E1"),
    (0xB8E, "D0E,E1,D0AI"),
    (0xB92, "D0O,E1,D0AU,D0KA"),
    (0xB99, "D1NG,D1C"),
    (0xB9C, "D1J"),
    (0xB9E, "D1NY,D1TT"),
    (0xBA3, "D1NN,D1T"),
    (0xBA8, "D1N,E2N,D1P"),
    (0xBAE, "D1M,D1Y,D1R,E2,D1L,E2,F2,D1V,D1SH,E1S,E1,D1H"),
    (0xBBE, "61VOWEL SIGN A,H0I,I1,H0U,I1"),
    (0xBC6, "H0E,I1,H0AI"),
    (0xBCA, "H0O,I1,H0AU,60SIGN VIRAMA"),
    (0xBD0, "60OM"),
    (0xBD7, "60AU LENGTH MARK"),
    (0xBE6, "60DIGIT ZERO,C0ONE,C0TWO,D0HREE,C0FOUR,D0IVE,C0SIX,D0EVEN,C0EIGHT,C0NINE"),
    (0xBF0, "60NUMBER TEN,D0ONE HUNDRED,H1THOUSAN,60DAY SIGN,65MONTH,65YEAR,65DEBIT,67CRED"),
    (0xBF8, "65AS ABOVE,66RUPE,65NUMBER"),
    (0xC00, "10ELUGU SIGN COMBINING CANDRABINDU ABOVE,D0ANDRABINDU,C0ANUSVARA,C1VISARG"),
    (0xC04, "C0COMBINING ANUSVARA ABOVE,70LETTER A,F1,E0I,F1,E0U,F1,E0VOCALIC R,M0L"),
    (0xC0E, "E0E,F1,E0AI"),
    (0xC12, "E0O,F1,E0AU,E0KA,F1H,E1G,F1H,E1NG,E1C,F1H,E1J,F1H,E1NY,E1TT,G1H,E1DD,G1H,E1NN,E1T"),
    (0xC25, "F1H,E1D,F1H,E1N"),
    (0xC2A, "E1P,F1H,E1B,F1H,E1M,E1Y,E1R,F2,E1L,F2,G2,E1V,E1SH,F1S,F1,E1H"),
    (0xC3C, "71SIGN NUKT,C1AVAGRAH,71VOWEL SIGN A,I0I,J1,I0U,J1,I0VOCALIC R,R1"),
    (0xC46, "I0E,J1,I0AI"),
    (0xC4A, "I0O,J1,I0AU,70SIGN VIRAMA"),
    (0xC55, "70LENGTH MARK,7CAI"),
    (0xC58, "70LETTER TSA,E1DZ,E1RRR"),
    (0xC5D, "E0NAKAARA POLLU"),
    (0xC60, "E0VOCALIC RR,M0LL,71VOWEL SIGN VOCALIC ,R1"),
    (0xC66, "70DIGIT ZERO,D0ONE,D0TWO,E0HREE,D0FOUR,E0IVE,D0SIX,E0EVEN,D0EIGHT,D0NINE"),
    (0xC77, "70SIGN SIDDHAM,70FRACTION DIGIT ZERO FOR ODD POWERS OF FOUR,MNONE,MNTWO,NNHREE"),
    (0xC7C, "MFONE FOR EVEN,MOTWO,NOHREE,70SIGN TUUMU,01KANNADA SIGN SPACING CANDRABIND,DB"),
    (0xC82, "D0ANUSVARA,D1VISARG,D0SIDDHAM,80LETTER A,G1,F0I,G1,F0U,G1,F0VOCALIC R,N0L"),
    (0xC8E, "F0E,G1,F0AI"),
    (0xC92, "F0O,G1,F0AU,F0KA,G1H,F1G,G1H,F1NG,F1C,G1H,F1J,G1H,F1NY,F1TT,H1H,F1DD,H1H,F1NN,F1T"),
    (0xCA5, "G1H,F1D,G1H,F1N"),
    (0xCAA, "F1P,G1H,F1B,G1H,F1M,F1Y,F1R,G2,F1L,G2"),
    (0xCB5, "F1V,F1SH,G1S,G1,F1H"),
    (0xCBC, "81SIGN NUKT,D1AVAGRAH,81VOWEL SIGN A,J0I,K1,J0U,K1,J0VOCALIC R,S1"),
    (0xCC6, "J0E,K1,J0AI"),
    (0xCCA, "J0O,K1,J0AU,80SIGN VIRAMA"),
    (0xCD5, "80LENGTH MARK,8CAI"),
    (0xCDD, "80LETTER NAKAARA POLLU,F0FA"),
    (0xCE0, "F0VOCALIC RR,N0LL,81VOWEL SIGN VOCALIC ,S1"),
    (0xCE6, "80DIGIT ZERO,E0ONE,E0TWO,F0HREE,E0FOUR,F0IVE,E0SIX,F0EVEN,E0EIGHT,E0NINE"),
    (0xCF1, "80SIGN JIHVAMULIYA,D3UPADHMAN"),
    (0xD00, "00MALAYALAM SIGN COMBINING ANUSVARA ABOVE,G0ANDRABINDU,F0ANUSVARA,F1VISARG"),
    (0xD04, "A1LETTER VEDIC ANUSVAR,H1,I1,H0I,I1,H0U,I1,H0VOCALIC R,P0L"),
    (0xD0E, "H0E,I1,H0AI"),
    (0xD12, "H0O,I1,H0AU,H0KA,I1H,H1G,I1H,H1NG,H1C,I1H,H1J,I1H,H1NY,H1TT,J1H,H1DD,J1H,H1NN,H1T"),
    (0xD25, "I1H,H1D,I1H,H1N,I2N,H1P,I1H,H1B,I1H,H1M,H1Y,H1R,I2,H1L,I2,J2,H1V,H1SH,I1S,I1,H1H"),
    (0xD3A, "H1TTT,A1SIGN VERTICAL BAR VIRAM,F9CIRCUL,F1AVAGRAH,A1VOWEL SIGN A,L0I,M1,L0U,M1"),
    (0xD43, "L0VOCALIC R,U1"),
    (0xD46, "L0E,M1,L0AI"),
    (0xD4A, "L0O,M1,L0AU,A0SIGN VIRAMA,A0LETTER DOT REPH,A0SIGN PARA"),
    (0xD54, "A0LETTER CHILLU M,O0Y,O0LLL,A0AU LENGTH MARK,A0FRACTION ONE ONE-HUNDRED-AND-SIXTIETH"),
    (0xD59, "N5FOR,J0THREE EIGHTIETHS,J0ONE TWENTIETH,O2EN,J0THREE TWENTIETHS,J0ONE FIFTH"),
    (0xD5F, "A0LETTER ARCHAIC II,H0VOCALIC RR,P0LL,A1VOWEL SIGN VOCALIC ,U1"),
    (0xD66, "A0DIGIT ZERO,G0ONE,G0TWO,H0HREE,G0FOUR,H0IVE,G0SIX,H0EVEN,G0EIGHT,G0NINE"),
    (0xD70, "A0NUMBER TEN,H0ONE HUNDRED,L1THOUSAN,A0FRACTION ONE QUARTER,N0HALF,J0THREE QUARTERS"),
    (0xD76, "J0ONE SIXTEENTH,N2EIGH,J0THREE SIXTEENTHS,A0DATE MARK,A0LETTER CHILLU NN,P0,O0RR,O0L"),
    (0xD7E, "P1,O0K"),
    (0xD81, "00SINHALA SIGN CANDRABINDU,D0ANUSVARAYA,D3VISARG"),
    (0xD85, "81LETTER AYANN,G6,G5E,H6,F5I,G6,F5U,G6,F6IR,I6,G6L,I6,F5E,G6,F5AI,F5O,G6,F5AU"),
    (0xD9A, "G5LPAPRAANA KA,FFMAHA,F6ALPAPRAANA G,FFMAHA,F1KANTAJA NAASIKYAY,F1SANYAKA GAYANN"),
    (0xDA0, "F6ALPAPRAANA C,FFMAHA,F6ALPAPRAANA J,FFMAHA,F1TAALUJA NAASIKYAY,N7SANYOOGA NAAK"),
    (0xDA6, "F1SANYAKA JAYANN,F6ALPAPRAANA TT,FGMAHA,F6ALPAPRAANA DD,FGMAHA,G6UURDHAJA N"),
    (0xDAC, "F6SANYAKA DD,F6ALPAPRAANA T,FFMAHA,F6ALPAPRAANA D,FFMAHA,F6DANTAJA N"),
    (0xDB3, "F6SANYAKA D,F6ALPAPRAANA P,FFMAHA,F6ALPAPRAANA B,FFMAHA,H5,F6AMBA B,F6Y,F6R"),
    (0xDBD, "F6DANTAJA L"),
    (0xDC0, "F6V,F6TAALUJA S,FAMUURDHA,FBDANT,F6H,F6MUURDHAJA L,F6F"),
    (0xDCA, "82SIGN AL-LAKU"),
    (0xDCF, "81VOWEL SIGN AELA-PILL,J7KETTI AED,JBDIGA,J6KETTI IS,J9DIGA,J6KETTI PAA"),
    (0xDD6, "JADIGA"),
    (0xDD8, "J7GAETT,J1KOMBUV,J8DIGA,J1KOMBU DEK,O1VA HAA AELA-PILL,VCDIG,V1GAYANUKITT,JB"),
    (0xDE6, "80LITH DIGIT ZERO,J0ONE,J0TWO,K0HREE,J0FOUR,K0IVE,J0SIX,K0EVEN,J0EIGHT,J0NINE"),
    (0xDF2, "80VOWEL SIGN DIGA GAETTA-PILLA,Q1YANUKITT,81PUNCTUATION KUNDDALIY"),
    (0xE01, "00THAI CHARACTER KO KAI,G2HO KH,L0UAT,L0WAI,L0ON,J0RAKHANG,F0NGO NGU,F0CHO CHAN"),
    (0xE09, "L0ING,L2A,F0SO SO,F0CHO CHOE,F0YO YING,F0DO CHADA,F0TO PATAK,G0HO THAN,J0NANGMONTHO"),
    (0xE12, "J1PHUTHA,F0NO NEN,F0DO DEK,F0TO TAO,G0HO THUNG,L0AHAN,L0ONG,F0NO NU,F0BO BAIMAI"),
    (0xE1B, "F0PO PLA,G0HO PHUNG,F0FO FA,F0PHO PHAN,F2FO F,F0PHO SAMPHAO,F0MO MA,F0YO YAK"),
    (0xE23, "F0RO RUA,G0U,F0LO LING,G0U,F0WO WAEN,F0SO SALA,I0RUSI,I0SUA,F0HO HIP,F0LO CHULA"),
    (0xE2D, "F0O ANG,F0HO NOKHUK,F0PAIYANNOI,F0SARA A,F0MAI HAN-AKAT,F0SARA AA,L0M,K0I,L1,K0UE,M1"),
    (0xE38, "L0,L1,F1PHINTH"),
    (0xE3F, "60URRENCY SYMBOL BAHT,60HARACTER SARA E,K1A,K0O,K0AI MAIMUAN,R0ALAI,F0LAKKHANGYAO"),
    (0xE46, "F0MAIYAMOK,I0TAIKHU,I0 EK,J0THO,K0RI,J0CHATTAWA,F0THANTHAKHAT,F1NIKHAHI,F0YAMAKKAN"),
    (0xE4F, "F2FONGM,50DIGIT ZERO,B0ONE,B0TWO,C0HREE,B0FOUR,C0IVE,B0SIX,C0EVEN,B0EIGHT,B0NINE"),
    (0xE5A, "50CHARACTER ANGKHANKHU,F0KHOMUT"),
    (0xE81, "00LAO LETTER KO,C0HO SUNG"),
    (0xE84, "F0TAM"),
    (0xE86, "B0PALI GHA,B0NGO,B1C,B0PALI CHA,B0SO TAM"),
    (0xE8C, "B0PALI JHA,B0NYO,B0PALI NYA,G1TT,I1H,G1DD,I1H,G1NN,B0DO,B1T,C0HO SUNG,F0TAM"),
    (0xE98, "B0PALI DHA,B0NO,B1B,B1P,C0HO SUNG,B0FO TAM,B5PH,B0FO SUNG,B0PALI BHA,B0MO,B1Y"),
    (0xEA3, "B0LO LING"),
    (0xEA5, "F0OOT"),
    (0xEA7, "B0WO,B0SANSKRIT SHA,L1S,C0O SUNG,B6H,B0PALI LLA,B0O,B0HO TAM,40ELLIPSIS"),
    (0xEB0, "40VOWEL SIGN A,F0MAI KAN,F0AA,G0M,F0I,G1,F0Y,G1,F0U,G1,40SIGN PALI VIRAMA"),
    (0xEBB, "40VOWEL SIGN MAI KON,40SEMIVOWEL SIGN LO,J1NY"),
    (0xEC0, "40VOWEL SIGN E,G0I,F0O,F0AY,G0I"),
    (0xEC6, "40KO LA"),
    (0xEC8, "40TONE MAI EK,D0THO,E0I,D0CATAWA,40CANCELLATION MARK,40NIGGAHITA"),
    (0xED0, "40DIGIT ZERO,A0ONE,A0TWO,B0HREE,A0FOUR,B0IVE,A0SIX,B0EVEN,A0EIGHT,A0NINE"),
    (0xEDC, "40HO NO,71M,41LETTER KHMU G,G1NY"),
    (0xF00, "00TIBETAN SYLLABLE OM,80MARK GTER YIG MGO TRUNCATED A,Q1-UM RNAM BCAD M,U3GTER TSHEG"),
    (0xF04, "D3INITIAL YIG MGO MDUN,D3CLOSING YIG MGO SGAB,E3ARET YIG MGO PHUR SHAD"),
    (0xF07, "D8YIG MGO TSHEG,D0SBRUL SHAD,D0BSKUR YIG MGO,E8KA- SHOG,D0INTERSYLLABIC TSHEG"),
    (0xF0C, "D0DELIMITER TSHEG BSTAR,D0SHAD,D5NYIS,D5TSHEG,DBNYIS,D5RIN CHEN SPUNGS,E5GYA GRAM"),
    (0xF13, "D0CARET -DZUD RTAGS ME LONG CAN,D0GTER TSHEG,80LOGOTYPE SIGN CHAD RTAGS,M6LHAG"),
    (0xF17, "86ASTROLOGICAL SIGN SGRA GCAN -CHAR,Q0-KHYUD PA,Q0SDONG TSHUGS,80SIGN RDEL DKAR GCIG"),
    (0xF1B, "O0NYIS,O0SUM,I0NAG GCIG,N0NYIS,I0DKAR RDEL NAG,80DIGIT ZERO,E0ONE,E0TWO,F0HREE"),
    (0xF24, "E0FOUR,F0IVE,E0SIX,F0EVEN,E0EIGHT,E0NINE,E2HALF O,J0TWO,K0HREE,J0FOUR,K0IVE,J0SIX"),
    (0xF30, "K0EVEN,J0EIGHT,J0NINE,J0ZERO,80MARK BSDUS RTAGS,D0NGAS BZUNG NYI ZLA"),
    (0xF36, "D0CARET -DZUD RTAGS BZHI MIG CAN,D0NGAS BZUNG SGOR RTAGS,D0CHE MGO,D0TSA -PHRU"),
    (0xF3A, "D0GUG RTAGS GYON,P0AS,D0ANG KHANG GYON,P0AS,81SIGN YAR TSHE,D8M,80LETTER KA,G1H,F1G"),
    (0xF43, "G1H,F1NG,F1C,G1H,F1J"),
    (0xF49, "F1NY,F1TT,H1H,F1DD,H1H,F1NN,F1T,G1H,F1D,G1H,F1N,F1P,G1H,F1B,G1H,F1M,F1TS,H1H,F1DZ"),
    (0xF5C, "H1H,F1W,F1ZH,G1,F1-,F1Y,F1R,F1L,F1SH,G1S,G1,F1H,F1,F1KSS,F1FIXED-FORM R,F1KK,F1RR"),
    (0xF71, "81VOWEL SIGN A,J0I,K1,J0U,K1,J0VOCALIC R,S1,R0L,S1,J0E,K1,J0O,K1"),
    (0xF7E, "81SIGN RJES SU NGA R,E0NAM BCAD,80VOWEL SIGN REVERSED I,T1,80SIGN NYI ZLA NAA DA"),
    (0xF83, "D0SNA LDAN,80MARK HALANTA,D2PALU,80SIGN LCI RTAGS,D6YANG,D0LCE TSA CAN,D4MCHU"),
    (0xF8A, "D0GRU CAN RGYINGS,H8MED,D0INVERTED MCHU CAN,94UBJOINED SIGN LCE TSA,N4MCHU"),
    (0xF8F, "N9INVERTED,I0LETTER KA,Q1H,P1G,Q1H,P1NG,P1C,Q1H,P1J"),
    (0xF99, "P1NY,P1TT,R1H,P1DD,R1H,P1NN,P1T,Q1H,P1D,Q1H,P1N,P1P,Q1H,P1B,Q1H,P1M,P1TS,R1H,P1DZ"),
    (0xFAC, "R1H,P1W,P1ZH,Q1,P1-,P1Y,P1R,P1L,P1SH,Q1S,Q1,P1H,P1,P1KSS,P1FIXED-FORM W,Z1 Y,Z1 R"),
    (0xFBE, "81KU RU KH,H0 BZHI MIG CAN,80CANTILLATION SIGN HEAVY BEAT,Q5LIGHT,Q0CANG TE-U"),
    (0xFC3, "Q0SBUB -CHAL,80SYMBOL DRIL BU,F0RDO RJE,F0PADMA GDAN,F0RDO RJE RGYA GRAM,F0PHUR PA"),
    (0xFC9, "F0NOR BU,L0 NYIS -KHYIL,M7GSUM,M7BZHI"),
    (0xFCE, "90IGN RDEL NAG RDEL DKAR,M0GSUM,80MARK BSKA- SHOG GI MGO RGYAN,DEMNYAM YI"),
    (0xFD2, "D0NYIS TSHEG,D0INITIAL BRDA RNYING YIG MGO MDUN MA"),
    (0xFD4, "D3CLOSING BRDA RNYING YIG MGO SGAB,00RIGHT-FACING SVASTI SIGN,0KLEF"),
    (0xFD7, "00RIGHT-FACING SVASTI SIGN WITH DOTS,0ULEF,01TIBETAN MARK LEADING MCHAN RTAG,DFTRAIL"),
    (0x1000, "00MYANMAR LETTER KA,G1H,F1G,G1H,F1NG,F1C,G1H,F1J,G1H,F1NY,G3,F1TT,H1H,F1DD,H1H,F1NN"),
    (0x1010, "F1T,G1H,F1D,G1H,F1N,F1P,G1H,F1B,G1H,F1M,F1Y,F1R,F1L,F1W,F1S,F1H,F1LL,F1,F2SHAN,F0I"),
    (0x1024, "G1,F0U,G1,F0E,F2MON,F0O,F0AU,80VOWEL SIGN TALL AA,J2,J0I,K1,J0U,K1,J0E,J0AI,J1MON I"),
    (0x1034, "N0O,J0E ABOVE,80SIGN ANUSVARA,D0DOT BELOW,D0VISARGA,F1RAM,D0ASAT"),
    (0x103B, "80CONSONANT SIGN MEDIAL YA,U1R,U1W,U1H,81LETTER GREAT S,80DIGIT ZERO,E0ONE,E0TWO"),
    (0x1043, "F0HREE,E0FOUR,F0IVE,E0SIX,F0EVEN,E0EIGHT,E0NINE,80SIGN LITTLE SECTION,D7"),
    (0x104C, "90YMBOL LOCATIVE,F0COMPLETED,F2AFOREMENTION,F0GENITIVE,80LETTER SHA,G1S,F0VOCALIC R"),
    (0x1053, "O1,N0L,O1,80VOWEL SIGN VOCALIC R,S1,R0L,S1,80LETTER MON NGA,J1JH,J1BB,L0E"),
    (0x105E, "80CONSONANT SIGN MON MEDIAL NA,Y1M,Y1L,81LETTER SGAW KAREN SH"),
    (0x1062, "80VOWEL SIGN SGAW KAREN EU,80TONE MARK SGAW KAREN HATHI,T0KE PHO"),
    (0x1065, "80LETTER WESTERN PWO KAREN THA,X1PW,80VOWEL SIGN WESTERN PWO KAREN EU,Z0N UE"),
    (0x1069, "80SIGN WESTERN PWO KAREN TONE-1,Z0-2,Z0-3,Z0-4,Z0-5,80LETTER EASTERN PWO KAREN NNA"),
    (0x106F, "X1YW,X2GH,80VOWEL SIGN GEBA KAREN I,J0KAYAH OE,P0U,P0EE,80LETTER SHAN KA,L1H,K1G"),
    (0x1078, "K1C,K1Z,K1NY,K1D,K1N,K1PH,K1F,K1B,K1TH,K2,81CONSONANT SIGN SHAN MEDIAL W"),
    (0x1083, "81VOWEL SIGN SHAN A,O0E,P1 ABOV,O0FINAL Y,80SIGN SHAN TONE-2,N03,N05,N06"),
    (0x108B, "I0COUNCIL TONE-2,V03,Q0EMPHATIC TONE,80LETTER RUMAI PALAUNG FA"),
    (0x108F, "80SIGN RUMAI PALAUNG TONE-5,90HAN DIGIT ZERO,J0ONE,J0TWO,K0HREE,J0FOUR,K0IVE,J0SIX"),
    (0x1097, "K0EVEN,J0EIGHT,J0NINE,90IGN KHAMTI TONE-1,P03,80VOWEL SIGN AITON A,Q0I"),
    (0x109E, "80SYMBOL SHAN ONE,K0EXCLAMATION,01GEORGIAN CAPITAL LETTER A,O2B,O2G,O1DO,O1E,O1VI"),
    (0x10A6, "O1ZE,O1TA,O1I,O1KA,O0LAS,O0MAN,O0NAR,O0ON,O0PAR,O2ZH,O0RAE,O0SAN,O0TAR,O0UN,O0PHAR"),
    (0x10B5, "O3K,O0GHAN,O0QAR,O0SHIN,O3C,P1A,O0JIL,O2C,P0HAR,O0XAN,O2JH,O0HAE,P1,P1I,O1W,O0HAR"),
    (0x10C5, "P0OE"),
    (0x10C7, "O0YN"),
    (0x10CD, "O1AE"),
    (0x10D0, "91LETTER A,G2B,G2G,G1DO,G1E,G1VI,G1ZE,G1TA,G1I,G1KA,G0LAS,G0MAN,G0NAR,G0ON,G0PAR"),
    (0x10DF, "G2ZH,G0RAE,G0SAN,G0TAR,G0UN,G0PHAR,G3K,G0GHAN,G0QAR,G0SHIN,G3C,H1A,G0JIL,G2C,H0HAR"),
    (0x10EE, "G0XAN,G2JH,G0HAE,H1,H1I,G1W,G0HAR,H0OE,G0FI,G0YN,G0ELIFI,G0TURNED GAN,G1AI"),
    (0x10FB, "90PARAGRAPH SEPARATOR,01MODIFIER LETTER GEORGIAN NA,00GEORGIAN LETTER AEN"),
    (0x10FE, "G1HARD SIG,G5LABIAL,00HANGUL CHOSEONG KIYEOK,G6SSANG,G0NIEUN,G0TIKEUT,G6SSANG"),
    (0x1105, "G0RIEUL,G0MIEUM,G0PIEUP,G5SSANG,H0IOS,H4SANG,G0IEUNG,G0CIEUC,G5SSANG,G0CHIEUCH"),
    (0x110F, "G1KHIEUK,G1THIEUT,G1PHIEUP,G1HIEU,G0NIEUN-KIYEOK,G0SSANGNIEUN,G0NIEUN-TIKEUT"),
    (0x1116, "M0PIEUP,G0TIKEUT-KIYEOK,G0RIEUL-NIEUN,G0SSANGRIEUL,G0RIEUL-HIEUH,G0KAPYEOUNRIEUL"),
    (0x111C, "G0MIEUM-PIEUP,G0KAPYEOUNMIEUM,G0PIEUP-KIYEOK,M0NIEUN,M0TIKEUT,M0SIOS,Q0-KIYEOK"),
    (0x1123, "R0TIKEUT,R0PIEUP,N0SANGSIOS,N0IOS-CIEUC,M5,N0HIEUCH,M1THIEUT,M1PHIEUP"),
    (0x112B, "G0KAPYEOUNPIEUP,O5SSANG,G0SIOS-KIYEOK,L0NIEUN,L0TIKEUT,L0RIEUL,L0MIEUM,L0PIEUP"),
    (0x1133, "Q0-KIYEOK,L0SSANGSIOS,L0IEUNG,L0CIEUC,M0HIEUCH,L1KHIEUK,L1THIEUT,L1PHIEUP,L1HIEU"),
    (0x113C, "G0CHITUEUMSIOS,P4SANG,H4EONGCHIEUM,S4SANG,G4PAN,G0IEUNG-KIYEOK,M0TIKEUT,M0MIEUM"),
    (0x1144, "M0PIEUP,M0SIOS,M4PAN,G0SSANGIEUNG,G0IEUNG-CIEUC,N0HIEUCH,M1THIEUT,M1PHIEUP"),
    (0x114C, "G0YESIEUNG,G5CIEUC-,H0HITUEUMCIEUC,O5SSANG,H5EONGCHIEUM,R5SSANG,H0HIEUCH-KHIEUKH"),
    (0x1153, "O1HIEU,J1TUEUMCHIEUC,HAEONGCHI,G0PHIEUPH-PIEUP,G0KAPYEOUNPHIEUPH,G1SSANGHIEU"),
    (0x1159, "G5YEORIN,G0KIYEOK-TIKEUT,G0NIEUN-SIOS,M0CIEUC,M0HIEUH,G0TIKEUT-RIEUL,G0FILLER"),
    (0x1160, "7CJUNG,H0A,I0E,H0YA,J0E,H0EO,I0,H0YEO,J0,H0O,H0WA,J0E,H1O,H0YO,H0U,H0WEO,J0,I0I"),
    (0x1172, "H0YU,H1E,H0YI,H1,H0A-O,J0U,H0YA-O,K1Y,H1EO-,K0U,K1E,H0YEO-O,L0U,H0O-EO,K0,J1Y,J0O"),
    (0x1183, "J0U,H0YO-YA,M0E,L0EO,K1,K0I,H0U-A,K0E,J0EO-EU,J0YE,J0U,H0YU-A,K0EO,L0,K0YEO,M0,K0U"),
    (0x1194, "K0I,H0EU-U,K1E,H1YI-,H0I-A,J1Y,J0O,J0U,J1E,J0ARAEA,H5,M0-EO,N0U,N0I,H0SSANGARAEA"),
    (0x11A3, "H0A-EU,H1YA-,I0EO-YA,H4,L0E,80ONGSEONG KIYEOK,H6SSANG,H0KIYEOK-SIOS,H0NIEUN"),
    (0x11AC, "M0-CIEUC,N0HIEUH,H0TIKEUT,H0RIEUL,M0-KIYEOK,N0MIEUM,N0PIEUP,N0SIOS,N0THIEUTH"),
    (0x11B5, "N1PHIEUP,N1HIEU,H0MIEUM,H0PIEUP,M0-SIOS,H4,I4SANG,H0IEUNG,H0CIEUC,I0HIEUCH,H1KHIEUK"),
    (0x11C0, "H1THIEUT,H1PHIEUP,H1HIEU,H0KIYEOK-RIEUL,O0SIOS-KIYEOK,H7NIEUN,N0TIKEUT,N0SIOS,N4PAN"),
    (0x11C9, "N0THIEUTH,H0TIKEUT-KIYEOK,O0RIEUL,H0RIEUL-KIYEOK-SIOS,N0NIEUN,N0TIKEUT,T0-HIEUH"),
    (0x11D0, "H0SSANGRIEUL,H0RIEUL-MIEUM-KIYEOK,T0SIOS,N5PIEUP,T0HIEUH,N0KAPYEOUNPIEUP"),
    (0x11D6, "N0SSANGSIOS,N4PAN,N0KHIEUKH,N1YEORINHIEU,H0MIEUM-KIYEOK,N0RIEUL,N0PIEUP,N0SIOS"),
    (0x11DE, "O4SANG,N4PAN,N0CHIEUCH,N1HIEU,H0KAPYEOUNMIEUM,H0PIEUP-RIEUL,N0PHIEUPH,N1HIEU"),
    (0x11E6, "H0KAPYEOUNPIEUP,H0SIOS-KIYEOK,M0TIKEUT,M0RIEUL,M0PIEUP,H0PANSIOS,H0IEUNG-KIYEOK"),
    (0x11ED, "N6SSANG,H0SSANGIEUNG,H0IEUNG-KHIEUKH,H0YESIEUNG,P0-SIOS,Q4PAN,H0PHIEUPH-PIEUP"),
    (0x11F4, "H0KAPYEOUNPHIEUPH,H0HIEUH-NIEUN,N0RIEUL,N0MIEUM,N0PIEUP,H0YEORINHIEUH"),
    (0x11FA, "H0KIYEOK-NIEUN,O0PIEUP,O0CHIEUCH,O1KHIEUK,O1HIEU,H0SSANGNIEUN"),
    (0x1200, "00ETHIOPIC SYLLABLE HA,J0U,J0I,J0AA,J0EE,K0,J0O,K0A,I1L,J0U,J0I,J0AA,J0EE,K0,J0O"),
    (0x120F, "J0WA,I1HH,K0U,K0I,K0AA,K0EE,L0,K0O,K0WA,I1M,J0U,J0I,J0AA,J0EE,K0,J0O,J0WA,I1SZ,K0U"),
    (0x1222, "K0I,K0AA,K0EE,L0,K0O,K0WA,I1R,J0U,J0I,J0AA,J0EE,K0,J0O,J0WA,I1S,J0U,J0I,J0AA,J0EE"),
    (0x1235, "K0,J0O,J0WA,J1H,K0U,K0I,K0AA,K0EE,L0,K0O,K0WA,I1Q,J0U,J0I,J0AA,J0EE,K0,J0O,K0A,J1W"),
    (0x124A, "K0I,K0AA,K0EE,L0"),
    (0x1250, "J0HA,K0U,K0I,K0AA,K0EE,L0,K0O"),
    (0x1258, "K0WA"),
    (0x125A, "L0I,L0AA,L0EE,M0"),
    (0x1260, "I0BA,J0U,J0I,J0AA,J0EE,K0,J0O,J0WA,I1V,J0U,J0I,J0AA,J0EE,K0,J0O,J0WA,I1T,J0U,J0I"),
    (0x1273, "J0AA,J0EE,K0,J0O,J0WA,I1C,J0U,J0I,J0AA,J0EE,K0,J0O,J0WA,I1X,J0U,J0I,J0AA,J0EE,K0"),
    (0x1286, "J0O,K0A,J1W"),
    (0x128A, "K0I,K0AA,K0EE,L0"),
    (0x1290, "I0NA,J0U,J0I,J0AA,J0EE,K0,J0O,J0WA,J1Y,K0U,K0I,K0AA,K0EE,L0,K0O,K0WA,I1GLOTTAL ,Q0U"),
    (0x12A2, "Q0I,Q0AA,Q0EE,R0,Q0O,Q0WA,I1K,J0U,J0I,J0AA,J0EE,K0,J0O,K0A,J1W"),
    (0x12B2, "K0I,K0AA,K0EE,L0"),
    (0x12B8, "J0XA,K0U,K0I,K0AA,K0EE,L0,K0O"),
    (0x12C0, "K0WA"),
    (0x12C2, "L0I,L0AA,L0EE,M0"),
    (0x12C8, "I0WA,J0U,J0I,J0AA,J0EE,K0,J0O,K0A,I1PHARYNGEAL ,T0U,T0I,T0AA,T0EE,U0,T0O"),
    (0x12D8, "I0ZA,J0U,J0I,J0AA,J0EE,K0,J0O,J0WA,J1H,K0U,K0I,K0AA,K0EE,L0,K0O,K0WA,I1Y,J0U,J0I"),
    (0x12EB, "J0AA,J0EE,K0,J0O,K0A,I1D,J0U,J0I,J0AA,J0EE,K0,J0O,J0WA,J1D,K0U,K0I,K0AA,K0EE,L0,K0O"),
    (0x12FF, "K0WA,I1J,J0U,J0I,J0AA,J0EE,K0,J0O,J0WA,I1G,J0U,J0I,J0AA,J0EE,K0,J0O,K0A,J1W"),
    (0x1312, "K0I,K0AA,K0EE,L0"),
    (0x1318, "J0GA,K0U,K0I,K0AA,K0EE,L0,K0O,K0WAA,I1TH,K0U,K0I,K0AA,K0EE,L0,K0O,K0WA,I1CH,K0U,K0I"),
    (0x132B, "K0AA,K0EE,L0,K0O,K0WA,I1PH,K0U,K0I,K0AA,K0EE,L0,K0O,K0WA,I1TS,K0U,K0I,K0AA,K0EE,L0"),
    (0x133E, "K0O,K0WA,J1Z,K0U,K0I,K0AA,K0EE,L0,K0O,L0A,I1F,J0U,J0I,J0AA,J0EE,K0,J0O,J0WA,I1P,J0U"),
    (0x1352, "J0I,J0AA,J0EE,K0,J0O,J0WA,I1RY,I2M,I2F"),
    (0x135D, "90COMBINING GEMINATION AND VOWEL LENGTH MARK,JH,J5GEMINATION,99SEC,90WORDSPACE"),
    (0x1362, "90FULL STOP,90COMMA,90SEMICOLON,95,96PREFACE,90QUESTION MARK,90PARAGRAPH SEPARATOR"),
    (0x1369, "90DIGIT ONE,F0TWO,G0HREE,F0FOUR,G0IVE,F0SIX,G0EVEN,F0EIGHT,F0NINE,90NUMBER TEN"),
    (0x1373, "H0WENTY,H2HIR,G3FO,H2IF,G2SIX,H2EVEN,G2EIGH,G2NINE,G0HUNDRED,G1TEN THOUSAN"),
    (0x1380, "90SYLLABLE SEBATBEIT MWA,I0MWI,K0EE,L0,I0SEBATBEIT BWA,I0BWI,K0EE,L0"),
    (0x1388, "I0SEBATBEIT FWA,I0FWI,K0EE,L0,I0SEBATBEIT PWA,I0PWI,K0EE,L0,90TONAL MARK YIZET"),
    (0x1391, "K2DER,K0RIKRIK,K7SHORT,K0DIFAT,K2KEN,K1CHIRE,K2HID,K5DERET-,K1KUR"),
    (0x13A0, "00CHEROKEE LETTER A,G0E,G0I,G0O,G0U,G0V,G0GA,G1K,G0GE,H0I,H0O,H0U,H0V,G0HA,H0E,H0I"),
    (0x13B0, "H0O,H0U,H0V,G0LA,H0E,H0I,H0O,H0U,H0V,G0MA,H0E,H0I,H0O,H0U,G0NA,G2H,G0NAH,H0E,H0I"),
    (0x13C3, "H0O,H0U,H0V,G0QUA,I0E,I0I,I0O,I0U,I0V,G0SA,H0,H0E,H0I,H0O,H0U,H0V,G0DA,G1T,G0DE,G1T"),
    (0x13D7, "G0DI,G1T,G0DO,H0U,H0V,H0LA,G2T,I0E,I0I,I0O,I0U,I0V,H0SA,I0E,I0I,I0O,I0U,I0V,G0WA"),
    (0x13EA, "H0E,H0I,H0O,H0U,H0V,G0YA,H0E,H0I,H0O,H0U,H0V,G1M"),
    (0x13F8, "90SMALL LETTER YE,N0I,N0O,N0U,N0V,M1M"),
    (0x1400, "10ANADIAN SYLLABICS HYPHEN,J0E,J0AAI,J1,K1,J0O,K1,J3Y-CREE,J0CARRIER EE,R0I,J0A,K1"),
    (0x140C, "J0WE,L3ST-CREE,K0I,K3EST-CREE,K1I,K4EST-CREE,K0O,K3EST-CREE,K1O,K4EST-CREE"),
    (0x1416, "J4NASKAPI,J0WA,K3EST-CREE,K1A,K4EST-CREE,J4NASKAPI,J0AI,J0Y-CREE W,J0GLOTTAL STOP"),
    (0x141F, "J0FINAL ACUTE,P1GRAV,P0BOTTOM HALF RING,PATOP,PARIGHT,R2,P0DOUBLE ACUTE"),
    (0x1426, "W0SHORT VERTICAL STROKES,P0MIDDLE DOT,P0SHORT HORIZONTAL STROKE,P0PLUS,P0DOWN TACK"),
    (0x142B, "J0EN,J1I,J1O,J1A,J0PE,K0AAI,K1,L1,K0O,L1,J4Y-CREE,J0CARRIER HEE,S0I,J0PA,L1,K0WE"),
    (0x143B, "J4WEST-CREE,J0PWI,J4WEST-CREE,J1PWI,J5WEST-CREE,J0PWO,J4WEST-CREE,J1PWO,J5WEST-CREE"),
    (0x1444, "J0PWA,J4WEST-CREE,J1PWA,J5WEST-CREE,JAY,J0P,J2WEST-CREE,J0CARRIER H,J0TE,K0AAI,K1"),
    (0x144F, "L1,K0O,L1,J4Y-CREE,J0CARRIER DEE,S0I,J0TA,L1,K0WE,J4WEST-CREE,J0TWI,J4WEST-CREE"),
    (0x145B, "J1TWI,J5WEST-CREE,J0TWO,J4WEST-CREE,J1TWO,J5WEST-CREE,J0TWA,J4WEST-CREE,J1TWA"),
    (0x1464, "J5WEST-CREE,J5NASKAPI,J0T,K0TE,L0I,L0O,L0A,J0KE,K0AAI,K1,L1,K0O,L1,J4Y-CREE,J0KA,L1"),
    (0x1474, "K0WE,J4WEST-CREE,J0KWI,J4WEST-CREE,J1KWI,J5WEST-CREE,J0KWO,J4WEST-CREE,J1KWO"),
    (0x147D, "J5WEST-CREE,J0KWA,J4WEST-CREE,J1KWA,J5WEST-CREE,J5NASKAPI,J0K,K0W"),
    (0x1485, "J0SOUTH-SLAVEY KEH,X1I,X1O,X1A,J0CE,K0AAI,K1,L1,K0O,L1,J4Y-CREE,J0CA,L1,K0WE"),
    (0x1493, "J4WEST-CREE,J0CWI,J4WEST-CREE,J1CWI,J5WEST-CREE,J0CWO,J4WEST-CREE,J1CWO,J5WEST-CREE"),
    (0x149C, "J0CWA,J4WEST-CREE,J1CWA,J5WEST-CREE,J5NASKAPI,J0C,J0SAYISI TH,J0ME,K0AAI,K1,L1,K0O"),
    (0x14A8, "L1,J4Y-CREE,J0MA,L1,K0WE,J4WEST-CREE,J0MWI,J4WEST-CREE,J1MWI,J5WEST-CREE,J0MWO"),
    (0x14B3, "J4WEST-CREE,J1MWO,J5WEST-CREE,J0MWA,J4WEST-CREE,J1MWA,J5WEST-CREE,J5NASKAPI,J0M"),
    (0x14BC, "J2WEST-CREE,J0MH,J0ATHAPASCAN M,J2SAYISI,J0NE,K0AAI,K1,L1,K0O,L1,J4Y-CREE,J0NA,L1"),
    (0x14C9, "K0WE,J4WEST-CREE,J0NWA,J4WEST-CREE,J1NWA,J5WEST-CREE,J5NASKAPI,K0,J0CARRIER NG,J0NH"),
    (0x14D3, "J0LE,K0AAI,K1,L1,K0O,L1,J4Y-CREE,J0LA,L1,K0WE,J4WEST-CREE,J0LWI,J4WEST-CREE,J1LWI"),
    (0x14E1, "J5WEST-CREE,J0LWO,J4WEST-CREE,J1LWO,J5WEST-CREE,J0LWA,J4WEST-CREE,J1LWA,J5WEST-CREE"),
    (0x14EA, "J0L,J2WEST-CREE,J2MEDIAL,J0SE,K0AAI,K1,L1,K0O,L1,J4Y-CREE,J0SA,L1,K0WE,J4WEST-CREE"),
    (0x14F8, "J0SWI,J4WEST-CREE,J1SWI,J5WEST-CREE,J0SWO,J4WEST-CREE,J1SWO,J5WEST-CREE,J0SWA"),
    (0x1501, "J4WEST-CREE,J1SWA,J5WEST-CREE,J5NASKAPI,J0S,J2ATHAPASCAN,J0SW,J0BLACKFOOT S"),
    (0x1509, "J0MOOSE-CREE SK,J0NASKAPI SKW,S1-,S0PWA,S2T,S2K,S2C,J0SHE,L0I,M1,L0O,M1,L0A,M1,L0WE"),
    (0x1518, "J5WEST-CREE,J0SHWI,J5WEST-CREE,J1SHWI,J6WEST-CREE,J0SHWO,J5WEST-CREE,J1SHWO"),
    (0x1520, "J6WEST-CREE,J0SHWA,J5WEST-CREE,J1SHWA,J6WEST-CREE,J0SH,J0YE,K0AAI,K1,L1,K0O,L1"),
    (0x152C, "K4-CREE,K0A,L1,K0WE,J4WEST-CREE,J0YWI,J4WEST-CREE,J1YWI,J5WEST-CREE,J0YWO"),
    (0x1536, "J4WEST-CREE,J1YWO,J5WEST-CREE,J0YWA,J4WEST-CREE,J1YWA,J5WEST-CREE,J5NASKAPI,J0Y"),
    (0x153F, "J2BIBLE-CREE,J7WEST,J0SAYISI YI,J0RE,K3-CREE,J1WEST-CREE L,J0RAAI,K1,L1,K0O,L1"),
    (0x154A, "J1WEST-CREE L,J0RA,L1,J1WEST-CREE L,J1RWA,J5WEST-CREE,J0R,J2WEST-CREE,J2MEDIAL,J0FE"),
    (0x1554, "K0AAI,K1,L1,K0O,L1,K0A,L1,K2W,J5WEST-CREE,J0F,J0THE,J4N-CREE,J0THI,J4N-CREE,J1THI"),
    (0x1563, "J5N-CREE,J0THO,M1,L0A,M1,L2W,J6WEST-CREE,J0TH,K0THE,M0I,M0O,M0A,M0,K0YE,L0I,L0O,L0A"),
    (0x1574, "J0NUNAVIK HE,S0I,T1,S0O,T1,S0A,T1,S0,O2UT,J0HK,J0QAAI,K1,L1,K0O,L1,K0A,L1,K0,J0TLHE"),
    (0x1587, "M0I,M0O,M0A,J0WEST-CREE RE,U0I,U0O,U0A,J0NGAAI,L1,M1,L0O,M1,L0A,M1,L0,K2"),
    (0x1597, "J0SAYISI SHE,S0I,S0O,S0A,J0WOODS-CREE THE,W0I,W0O,W0A,W0,J0LHI,M1,L0O,M1,L0A,M1,L0"),
    (0x15A7, "J0TH-CREE THE,T0I,U1,T0O,U1,T0A,U1,T0,J0AIVILIK B,J0BLACKFOOT E,T0I,T0O,T0A,T0WE"),
    (0x15B5, "U0I,U0O,U0A,T0NE,U0I,U0O,U0A,T0KE,U0I,U0O,U0A,J0SAYISI HE,R0I,R0O,R0A,J0CARRIER GHU"),
    (0x15C5, "T0O,T0E,U1,T0I,T0A,R0RU,S0O,S0E,T1,S0I,S0A,R0WU,S0O,S0E,T1,S0I,S0A,R0HWU,T0O,T0E,U1"),
    (0x15DA, "T0I,T0A,R0THU,T0O,T0E,U1,T0I,T0A,S0TU,T0O,T0E,U1,T0I,T0A,R0PU,S0O,S0E,T1,S0I,S0A,S0"),
    (0x15EF, "R0GU,S0O,S0E,T1,S0I,S0A,R0KHU,T0O,T0E,U1,T0I,T0A,S0KU,T0O,T0E,U1,T0I,T0A,T0,R0NU"),
    (0x1603, "S0O,S0E,T1,S0I,S0A,R0MU,S0O,S0E,T1,S0I,S0A,R0YU,S0O,S0E,T1,S0I,S0A,R0JU,J3SAYISI"),
    (0x1616, "J0CARRIER JO,S0E,T1,S0I,J3SAYISI,J0CARRIER JA,S0JU,T0O,T0E,U1,T0I,T0A,R0LU,S0O,S0E"),
    (0x1625, "T1,S0I,S0A,R0DLU,T0O,T0E,U1,T0I,T0A,R0LHU,T0O,T0E,U1,T0I,T0A,R0TLHU,U0O,U0E,V1,U0I"),
    (0x1639, "U0A,T0U,T0O,T0E,U1,T0I,T0A,R0ZU,S0O,S0E,T1,S0I,S0A,S0,R2INITIAL,R0DZU,T0O,T0E,U1"),
    (0x164C, "T0I,T0A,R0SU,S0O,S0E,T1,S0I,S0A,S0HU,T0O,T0E,U1,T0I,T0A,T0,R0TSU,T0O,T0E,U1,T0I,T0A"),
    (0x1661, "R0CHU,T0O,T0E,U1,T0I,T0A,R0TTSU,U0O,U0E,V1,U0I,U0A,K0HI SIGN,J0FULL STOP,J0QAI,J2NG"),
    (0x1671, "K1NG,N1,M0O,N1,M0A,N1,J0WOODS-CREE THWEE,X0I,Y1,X0O,Y1,X0A,Y1,U0FINAL TH"),
    (0x167F, "J0BLACKFOOT W,00OGHAM SPACE MARK,60LETTER BEITH,D0LUIS,D0FEARN,D0SAIL,D0NION,D0UATH"),
    (0x1687, "D0DAIR,D0TINNE,D0COLL,E0EIRT,D0MUIN,D0GORT,D0NGEADAL,D0STRAIF,D0RUIS,D0AILM,D0ONN"),
    (0x1692, "D0UR,D0EADHADH,D5IO,D4EAB,D0OR,D0UILLEANN,D1IFI,D0EAMHANCHOLL,D0PEITH"),
    (0x169B, "60FEATHER MARK,6DREVERSED"),
    (0x16A0, "00RUNIC LETTER FEHU FEOH FE F,D0V,D0URUZ UR U,D0YR,E0,D0W,D0THURISAZ THURS THORN"),
    (0x16A7, "D0ETH,D0ANSUZ A,D0OS O,D0AC A,E0ESC,D0LONG-BRANCH-OSS O,D6SHORT-TWIG,D1,E0E,E0N"),
    (0x16B1, "D0RAIDO RAD REID R,D0KAUNA,D0CEN,D0KAUN K,D0G,D1EN,D1GEBO GYFU ,E0AR,D0WUNJO WYNN W"),
    (0x16BA, "D0HAGLAZ H,F2EGL,D3LONG-BRANCH-HAGAL,D9SHORT-TWIG,D0NAUDIZ NYD NAUD N,D6SHORT-TWIG-"),
    (0x16C0, "D1DOTTED-,D0ISAZ IS ISS I,D0E,D0JERAN J,D0GER,D0LONG-BRANCH-AR AE,D0SHORT-TWIG-AR A"),
    (0x16C7, "D0IWAZ EOH,D0PERTHO PEORTH P,D0ALGIZ EOLHX,D0SOWILO S,E2IGEL LONG-BRANCH-SOL"),
    (0x16CC, "E6HORT-TWIG,D0C,D0Z,D0TIWAZ TIR TYR T,D5SHORT-TWIG-,D0D,D0BERKANAN BEORC BJARKAN B"),
    (0x16D3, "D9SHORT-TWIG-,D0DOTTED-P,D2OPEN,D0EHWAZ EH E,D0MANNAZ MAN M,D2LONG-BRANCH-MADR"),
    (0x16D9, "D7SHORT-TWIG,D0LAUKAZ LAGU LOGR L,D1DOTTED-,D0INGWAZ,G0,D0DAGAZ DAEG D"),
    (0x16DF, "D0OTHALAN ETHEL O,D0EAR,D1IO,D0CWEORTH,E0ALC,E3E,D0STAN,D0LONG-BRANCH-YR"),
    (0x16E7, "D3SHORT-TWIG,D3ICELANDIC,D0Q,D0X,60SINGLE PUNCTUATION,6EMULTIP,6CCROSS"),
    (0x16EE, "60ARLAUG SYMBOL,67TVIMADUR,68BELGTHO,60LETTER K,D0SH,D0OO,D0FRANKS CASKET OS,R1I"),
    (0x16F6, "R0EH,R0AC,S1ES"),
    (0x1700, "00TAGALOG LETTER A,F0I,F0U,F0KA,F1G,F2N,F1T,F1D,F1N,F1P,F1B,F1M,F1Y,F1R,F1L,F1W,F1S"),
    (0x1711, "F1H,80VOWEL SIGN I,J0U,80SIGN VIRAMA,D0PAMUDPOD"),
    (0x171F, "80LETTER ARCHAIC RA,01HANUNOO LETTER ,F0I,F0U,F0KA,F1G,F2N,F1T,F1D,F1N,F1P,F1B,F1M"),
    (0x172C, "F1Y,F1R,F1L,F1W,F1S,F1H,80VOWEL SIGN I,J0U,80SIGN PAMUDPOD"),
    (0x1735, "00PHILIPPINE SINGLE PUNCTUATION,BEDOUB"),
    (0x1740, "00BUHID LETTER A,D0I,D0U,D0KA,D1G,D2N,D1T,D1D,D1N,D1P,D1B,D1M,D1Y,D1R,D1L,D1W,D1S"),
    (0x1751, "D1H,60VOWEL SIGN I,H0U"),
    (0x1760, "00TAGBANWA LETTER A,G0I,G0U,G0KA,G1G,G2N,G1T,G1D,G1N,G1P,G1B,G1M,G1Y"),
    (0x176E, "G1L,G1W,G1S"),
    (0x1772, "90VOWEL SIGN I,K0U"),
    (0x1780, "00KHMER LETTER KA,E1H,E0O,E1H,D1NG,D0CA,E1H,E0O,E1H,D1NY,D0DA,D1TTH,D0DO,D1TTH,D1NN"),
    (0x178F, "D0TA,E1H,E0O,E1H,D1N,D0BA,D1PH,E0O,E1H,D1M,D1Y,D1R,D1L,D1V,D0SHA,E0SO,E0A,D1H,D1L"),
    (0x17A2, "D1Q,60INDEPENDENT VOWEL QAQ,Q0A,P0I,Q1,P0U,Q0K,Q0U,R0V,O0RY,Q1,O1L,Q1,O0QE,P0AI"),
    (0x17B1, "P0OO TYPE ONE,X0TWO,P0AU,60VOWEL INHERENT AQ,M0A,C3SIGN,H0I,I1,H0Y,I1,H0U,I1,I0A"),
    (0x17BE, "H0OE,H0YA,H0IE,H1,H1A,I0I,H0OO,H0AU,60SIGN NIKAHIT,B0REAHMUK,B0YUUKALEAPINTU"),
    (0x17C9, "B0MUUSIKATOAN,B0TRIISAP,B0BANTOC,B0ROBAT,B2TOANDAKHI,B2KAKAB,B0AHSDA,B1SAMYOK SANNY"),
    (0x17D1, "B0VIRIAM,B0COENG,B0BATHAMASAT,B0KHAN,B2BARIYOOS,B0CAMNUC PII KUUH,B0LEK TOO"),
    (0x17D8, "B0BEYYAL,B0PHNAEK MUAN,B0KOOMUUT,60CURRENCY SYMBOL RIEL,60SIGN AVAKRAHASANYA"),
    (0x17DD, "C0TTHACAN"),
    (0x17E0, "60DIGIT ZERO,C0ONE,C0TWO,D0HREE,C0FOUR,D0IVE,C0SIX,D0EVEN,C0EIGHT,C0NINE"),
    (0x17F0, "60SYMBOL LEK ATTAK SON,N0MUOY,N0PII,N1BE,O0UON,N0PRAM,R0-MUOY,S0PII,S1BE,T0UON"),
    (0x1800, "00MONGOLIAN BIRGA,A0ELLIPSIS,A0COMMA,A0FULL STOP,A0COLON,A0FOUR DOTS"),
    (0x1806, "A0TODO SOFT HYPHEN,A0SIBE SYLLABLE BOUNDARY MARKER,A0MANCHU COMMA,H0FULL STOP"),
    (0x180A, "A0NIRUGU,A0FREE VARIATION SELECTOR ONE,Y0TWO,Z0HREE,A0VOWEL SEPARATOR"),
    (0x180F, "A1FREE VARIATION SELECTOR FOU,A0DIGIT ZERO,G0ONE,G0TWO,H0HREE,G0FOUR,H0IVE,G0SIX"),
    (0x1817, "H0EVEN,G0EIGHT,G0NINE"),
    (0x1820, "A0LETTER A,H0E,H0I,H0O,H0U,H0OE,H1U,H1E,H0NA,H0ANG,H0BA,H1P,H1Q,H1G,H1M,H1L,H1S,I1H"),
    (0x1832, "H1T,H1D,H1CH,H1J,H1Y,H1R,H1W,H1F,H1K,I1H,H1TS,H1Z,H1HA,H1ZR,H1LH,H0ZHI,H2C"),
    (0x1843, "H0TODO LONG VOWEL SIGN,M0E,M0I,M0O,M0U,M0OE,M1U,M0ANG,M0BA,M1P,M1Q,M1G,M1M,M1T,M1D"),
    (0x1852, "M1CH,M1J,M1TS,M1Y,M1W,M1K,M1GA,M2H,M1JI,M2N,M1DZ,H0SIBE E,M0I,N0Y,M0UE,N0,M0ANG"),
    (0x1863, "M0KA,M1G,M1H,M1P,M1SH,M1T,M1D,M1J,M1F,M1GA,M2H,M1TS,M1Z,M1RA,M1CH,M2Z,H0MANCHU I"),
    (0x1874, "O0KA,O1R,O1F,O1ZH,H0CHA WITH TWO DOTS"),
    (0x1880, "H0ALI GALI ANUSVARA ONE,Q5VISARG,Q0DAMARU,Q0UBADAMA,Q8INVERTED,Q1BALUD,Q7THREE,Q1"),
    (0x1888, "Q0I,Q0KA,Q1NG,Q1C,Q1TT,S1H,Q1DD,Q1NN,Q1T,Q1D,Q1P,R1H,Q1SS,Q1ZH,R1,Q0AH"),
    (0x1898, "H0TODO ALI GALI TA,V1ZH,H2MANCHU ALI GALI G,X1NG,X1C,X1JH,X1TT,X1DDH,X1T,X1DH,X1SS"),
    (0x18A3, "X1CY,X1ZH,Y1,H0ALI GALI HALF U,V0YA,H1MANCHU ALI GALI BH,H1ALI GALI DAGALG"),
    (0x18AA, "H1MANCHU ALI GALI LH"),
    (0x18B0, "00CANADIAN SYLLABICS OY,J1A,K2,J2W,J1PO,K1A,K1WO,J1TA,J2K,K2W,J2M,J1NO,K1A,J2L,J1SO"),
    (0x18BF, "K1A,K1HO,L1A,L1WO,J2Y,K1A,J2R,J0NWI,J4OJIBWAY,J1NWI,J5OJIBWAY,J0NWO,J4OJIBWAY,J1NWO"),
    (0x18CD, "J5OJIBWAY,J0RWEE,L0I,M1,L0O,M1,L0A,J0OJIBWAY P,R0T,R0K,R0C,R0M,R0N,R0S,S0H"),
    (0x18DC, "J0EASTERN W,J7WE,J0FINAL SMALL RING,P0RAISED DOT,J0R-CREE RWE,J0WEST-CREE LOO,U0AA"),
    (0x18E3, "J0THWE,M0A,K0THWE,M0OO,M0AA,K0LHWE,M0OO,J0SAYISI SHWE,S0OO,Q3,J0CARRIER GWU"),
    (0x18EE, "R0DENE GEE,R0GAA,S1W,J0SAYISI JUU,J0CARRIER JWA,J0BEAVER DENE L,V0R"),
    (0x18F5, "J0CARRIER DENTAL S"),
    (0x1900, "00LIMBU VOWEL-CARRIER LETTER,60LETTER KA,E1H,D1G,E1H,D1NG,D1C,E1H,D1J,E1H,D0YAN"),
    (0x190B, "D0TA,E1H,D1D,E1H,D1N,D1P,E1H,D1B,E1H,D1M,D1Y,D1R,D1L,D1W,D1SH,E1S,E1,D1H,D0GYAN"),
    (0x191E, "D0TRA"),
    (0x1920, "61VOWEL SIGN ,H0I,H0U,H0EE,H0AI,H0OO,H0AU,H0E,H0O,60SUBJOINED LETTER YA,N1R,N1W"),
    (0x1930, "71MALL LETTER K,J1NG,J1ANUSVAR,J1T,J1N,J1P,J1M,J1R,J1L,70IGN MUKPHRENG,B6KEM,B0SA-I"),
    (0x1940, "B0LOO"),
    (0x1944, "60EXCLAMATION MARK,69QUES,60DIGIT ZERO,C0ONE,C0TWO,D0HREE,C0FOUR,D0IVE,C0SIX,D0EVEN"),
    (0x194E, "C0EIGHT,C0NINE,00TAI LE LETTER KA,E1X,E1NG,E1TS,E2,E1Y,E1T,F1H,E1L,E1P,F1H,E1M,E1F"),
    (0x195D, "E1V,E1H,E1Q,E1KH,E2TS,E1N,E1,E0I,E0EE,F0H,E0U,E0OO,F0,E0UE,E1,E1AU,F0I"),
    (0x1970, "E0TONE-2,J03,J04,J05,J06"),
    (0x1980, "00NEW TAI LUE LETTER HIGH QA,J3LOW,J1HIGH K,O1X,O1NG,J1LOW K,N1X,N1NG,J1HIGH TS,O2"),
    (0x198A, "O1Y,J1LOW TS,N2,N1Y,J1HIGH T,P1H,O1N,J1LOW T,O1H,N1N,J1HIGH P,P1H,O1M,J1LOW P,O1H"),
    (0x1999, "N1M,J1HIGH F,O1V,O1L,J1LOW F,N1V,N1L,J1HIGH H,O1D,O1B,J1LOW H,N1D,N1B,J1HIGH KV,O2X"),
    (0x19A8, "J2LOW K,N2X,J1HIGH SU,J4LOW"),
    (0x19B0, "C0VOWEL SIGN VOWEL SHORTENER,N0AA,N0II,N0U,O1,N0E,N1A,N0O,O0A,N0UE,N0AY,O2,N1U,N1O"),
    (0x19BE, "O1A,N1UE,N1I,C0LETTER FINAL V,P0NG,Q0,P0M,P0K,P0D,P0B,C0TONE MARK-1,M02"),
    (0x19D0, "C0DIGIT ZERO,I0ONE,I0TWO,J0HREE,I0FOUR,J0IVE,I0SIX,J0EVEN,I0EIGHT,I0NINE"),
    (0x19DA, "C2THAM DIGIT O"),
    (0x19DE, "C1SIGN LA,K0V,00KHMER SYMBOL PATHAMASAT,D1MUOY KOE,D5PII,D6BE,E5UON,D5PRAM,H5-MUOY"),
    (0x19E7, "I5PII,I6BE,J5UON,D5DAP,G5-MUOY,H5PII,H6BE,I5UON,H5PRAM,D1TUTEYASA,D0MUOY ROC,D4PII"),
    (0x19F3, "D5BE,E4UON,D4PRAM,H4-MUOY,I4PII,I5BE,J4UON,D4DAP,G4-MUOY,H4PII,H5BE,I4UON,H4PRAM"),
    (0x1A00, "00BUGINESE LETTER KA,G1G,G2N,I1K,G1P,G1B,G1M,H1P,G1T,G1D,G1N,H1R,G1C,G1J,G1NY,I1C"),
    (0x1A10, "G1Y,G1R,G1L,G1V,G1S,G1,G1H,90VOWEL SIGN I,K0U,K0E,K0O,K0AE"),
    (0x1A1E, "90PALLAWA,90END OF SECTION,00TAI THAM LETTER HIGH KA,M1H,M1X,G1LOW K,L1X,L1H,G1NG"),
    (0x1A27, "G1HIGH C,M1H,G1LOW C,K1S,K1CH,G1NY,G1RAT,G1HIGH RATH,G1D,G1LOW RATH,G1RAN,G1HIGH T"),
    (0x1A33, "M1H,G1LOW T,L1H,G1N,G1B,G1HIGH P,M1H,L1F,G1LOW P,K1F,K1PH,G1M,G1LOW Y,G3HIGH,G1R"),
    (0x1A42, "H0UE,G0LA,H0UE,G0WA,G1HIGH SH,M1S,M1,L1H,G1LL,G1,G1LOW H,G0I,H1,G0U,H1,G0EE,G0OO"),
    (0x1A53, "G0LAE,G0GREAT SA,91CONSONANT SIGN MEDIAL R,V1L,O0LA TANG LAI,97SIGN MAI K"),
    (0x1A59, "90CONSONANT SIGN FINAL NGA,O1LOW P,O7HIGH RATHA OR,O1M,O1B,O1S"),
    (0x1A60, "90SIGN SAKOT,90VOWEL SIGN A,K0MAI SAT,K0AA,K3TALL,K0I,L1,K0UE,L2,L0,L1,K0O"),
    (0x1A6C, "L0A BELOW,L0Y,K0E,K1A,K0OO,K0AI,K3THAM,K0OA ABOVE,90SIGN MAI KANG,E0TONE-1,J02"),
    (0x1A77, "E0KHUEN TONE-3,P04,P05,E0RA HAAM,E2MAI S,E0KHUEN-LUE KARAN"),
    (0x1A7F, "90COMBINING CRYPTOGRAMMIC DOT,90HORA DIGIT ZERO,K0ONE,K0TWO,L0HREE,K0FOUR,L0IVE"),
    (0x1A86, "K0SIX,L0EVEN,K0EIGHT,K0NINE"),
    (0x1A90, "90THAM DIGIT ZERO,K0ONE,K0TWO,L0HREE,K0FOUR,L0IVE,K0SIX,L0EVEN,K0EIGHT,K0NINE"),
    (0x1AA0, "90SIGN WIANG,J0WAAK,E0SAWAN,E0KEOW,E0HOY,E0DOKMAI,E0REVERSED ROTATED RANA"),
    (0x1AA7, "E0MAI YAMOK,E0KAAN,I0KUU,E0SATKAAN,L0KUU,E0HANG,E3CA"),
    (0x1AB0, "00COMBINING DOUBLED CIRCUMFLEX ACCENT,B0IAERESIS-RING,A0INFINITY,A0DOWNWARDS ARROW"),
    (0x1AB4, "A0TRIPLE DOT,A0X-X BELOW,A6WIGGLY LINE,A6OPEN MARK,AGDOUBLE"),
    (0x1AB9, "A6LIGHT CENTRALIZATION STROKE,ASSTRONG,A0PARENTHESES ABOVE,AIDOUBLE"),
    (0x1ABD, "A0PARENTHESES BELOW,M0OVERLAY,A0LATIN SMALL LETTER W BELOW,T8TURNED"),
    (0x1AC1, "B0EFT PARENTHESIS ABOVE LEFT,A1RIGHT PARENTHESIS ABOVE RIGH"),
    (0x1AC3, "A1LEFT PARENTHESIS BELOW LEF,A1RIGHT PARENTHESIS BELOW RIGH,A0SQUARE BRACKETS ABOVE"),
    (0x1AC6, "A6NUMBER SIGN,A6INVERTED DOUBLE ARCH,A6PLUS SIGN,AGDOUBLE,R0BELOW"),
    (0x1ACB, "A0TRIPLE ACUTE ACCENT,A0LATIN SMALL LETTER INSULAR G,Z0R R,Z0R T"),
    (0x1B00, "00BALINESE SIGN ULU RICEM,I0CANDRA,E0CECEK,E0SURANG,E0BISAH,90LETTER AKARA"),
    (0x1B06, "L0 TEDUNG,G0IKARA,L0 TEDUNG,G0UKARA,L0 TEDUNG,G0RA REPA,N0 TEDUNG,G0LA LENGA"),
    (0x1B0E, "O0 TEDUNG,G0EKARA,G4AI,G4O,L0 TEDUNG,G0KA,I1 MAHAPRAN,G1G,I1 GOR,G1NG,G1C,I2 LA,G1J"),
    (0x1B1B, "I1 JER,G1NY,G0TA LATIK,J0MURDA MAHAPRANA,G6DA MURDA ALP,P6MAH,G0NA RAMBAT,G0TA"),
    (0x1B23, "I1 TAW,G1D,I0 MADU,G0NA,G1P,I0 KAPAL,G0BA,I0 KEMBANG,G0MA,G1Y,G1R,G1L,G1W,G1SA SAG"),
    (0x1B31, "L1P,I0,G1H,90SIGN REREKAN,90VOWEL SIGN TEDUNG,K0ULU,N0 SARI,K0SUKU,O0 ILUT"),
    (0x1B3A, "K0RA REPA,R0 TEDUNG,K0LA LENGA,S0 TEDUNG,K2TALI,Q0 REPA,R0TEDUNG,R7REPA,K0PEPET"),
    (0x1B43, "P0 TEDUNG,91ADEG ADE,90LETTER KAF SASAK,H6HOT,G6TZIR,G6EF,G6VE,G6ZAL,G6ASYURA"),
    (0x1B4C, "H0RCHAIC JNYA"),
    (0x1B50, "90DIGIT ZERO,F0ONE,F0TWO,G0HREE,F0FOUR,G0IVE,F0SIX,G0EVEN,F0EIGHT,F0NINE,90PANTI"),
    (0x1B5B, "B0MADA,90WINDU,90CARIK PAMUNGKAH,F0SIKI,F0PAREREN,90PAMENENG,92MUSICAL SYMBOL DO"),
    (0x1B62, "P2E,P2U,P2A,S3 SUR,P2I,P2AE,P2EU,P2AI,Q0NG GEDE,O0COMBINING TEGEH,Y0ENDEP,Y0KEMPUL"),
    (0x1B6E, "Z0EMPLI,Y0JEGOGAN,Y8KEMPUL WITH,ZDEMPLI,Y0BENDE,Y0GONG,O1RIGHT-HAND OPEN DU"),
    (0x1B75, "Z1OPEN DA,Z0CLOSED TUK,Z1CLOSED TA,O0LEFT-HAND OPEN PANG,Z2PEN PU,Y0CLOSED PLAK"),
    (0x1B7B, "Z1LOSED PLU,Y0OPEN PING,92PANTI LANTA,B8MADA"),
    (0x1B80, "00SUNDANESE SIGN PANYECEK,I0GLAYAR,J0WISAD,A0LETTER A,H0I,H0U,H0AE,H0O,H0E,I0U,H0KA"),
    (0x1B8B, "H1Q,H1G,H2N,H1C,H1J,H1Z,H1NY,H1T,H1D,H1N,H1P,H1F,H1V,H1B,H1M,H1Y,H1R,H1L,H1W,H1S"),
    (0x1B9F, "H1X,H1H,A0CONSONANT SIGN PAMINGKAL,R0NYAKRA,T0IKU,A1VOWEL SIGN PANGHUL,O1YUK"),
    (0x1BA6, "O0AELAENG,O2OLO,N0MEPET,N0NEULEUNG,A0SIGN PAMAAEH,F0VIRAMA"),
    (0x1BAC, "A2CONSONANT SIGN PASANGAN ,Y1W,A1LETTER KH,H1SY,A0DIGIT ZERO,G0ONE,G0TWO,H0HREE"),
    (0x1BB4, "G0FOUR,H0IVE,G0SIX,H0EVEN,G0EIGHT,G0NINE,A0AVAGRAHA,A0LETTER REU,H2L,H0BHA"),
    (0x1BBE, "H0FINAL K,N0M,00BATAK LETTER A,D2SIMALUNGUN,D1H,D3SIMALUNGUN,D3MANDAILING,D1B"),
    (0x1BC6, "D3KARO,D1P,D3SIMALUNGUN,D1N,D3MANDAILING,D1W,D3SIMALUNGUN,D3PAKPAK,D1G,D3SIMALUNGUN"),
    (0x1BD0, "D1J,D1D,D1R,D3SIMALUNGUN,D1M,D3SIMALUNGUN,E1OUTHERN T,D8NOR,D1S,E3IMALUNGUN"),
    (0x1BDA, "D3MANDAILING,D1Y,D3SIMALUNGUN,D1NG,D1L,D3SIMALUNGUN,D1NY,D1C,D1ND,D1MB,D0I,D0U"),
    (0x1BE6, "60SIGN TOMPI,60VOWEL SIGN E,H2PAKPAK,H1E,H0I,H2KARO,H0O,H2KARO,H0U"),
    (0x1BEF, "I0 FOR SIMALUNGUN SA,60CONSONANT SIGN NG,L0H,60PANGOLAT,90ONGONAN"),
    (0x1BFC, "60SYMBOL BINDU NA METEK,J0PINARBORAS,J0JUDUL,J0PANGOLAT,00LEPCHA LETTER KA,F1L,F1H"),
    (0x1C03, "E1G,F1L,E1NG,E1C,F1H,E1J,E1NY,E1T,F1H,E1D,E1N,E1P,F1L,F1H,E1F,F1L,E1B,F1L,E1M,F1L"),
    (0x1C17, "E1TS,G1H,E1DZ,E1Y,E1R,E1L,E1H,F1L,E1V,E1S,F1H,E1W,E1,71SUBJOINED LETTER Y,O1R"),
    (0x1C26, "71VOWEL SIGN A,I0I,I0O,J1,I0U,J1,I0E,70CONSONANT SIGN K,M0M,M0L,M0N,M0P,M0R,M0T"),
    (0x1C34, "M0NYIN-DO,M0KANG,70SIGN RAN,C0NUKTA"),
    (0x1C3B, "70PUNCTUATION TA-ROL,J7NYET THYOOM,J0CER-WA,J7TSHOOK,P0,70DIGIT ZERO,D0ONE,D0TWO"),
    (0x1C43, "E0HREE,D0FOUR,E0IVE,D0SIX,E0EVEN,D0EIGHT,D0NINE"),
    (0x1C4D, "70LETTER TTA,G1H,E1DD,00OL CHIKI DIGIT ZERO,F0ONE,F0TWO,G0HREE,F0FOUR,G0IVE,F0SIX"),
    (0x1C57, "G0EVEN,F0EIGHT,F0NINE,90LETTER LA,G0AT,H0G,H1N,H0L,G0LAA,G0AAK,I0J,I0M,I0W,G0LI"),
    (0x1C65, "G0IS,H0H,H0NY,H0R,G0LU,G0UC,H0D,H0NN,H0Y,G0LE,G0EP,H0DD,H0N,H0RR,G0LO,G0OTT,H0B,H0V"),
    (0x1C77, "H0H,90MU TTUDDAG,92GAAHLAA TTUDDA,9GMU-,90RELAA,92PHAARK,90AHAD,92PUNCTUATION MUCA"),
    (0x1C7F, "L7DOUBLE,00CYRILLIC SMALL LETTER ROUNDED VE,M1LONG-LEGGED D,M0NARROW O,M0WIDE ES"),
    (0x1C84, "M0TALL TE,N3HREE-LEGGED,N0ALL HARD SIGN,R0YAT,M0UNBLENDED UK"),
    (0x1C90, "00GEORGIAN MTAVRULI CAPITAL LETTER AN,X2B,X2G,X1DO,X1E,X1VI,X1ZE,X1TA,X1I,X1KA"),
    (0x1C9A, "X0LAS,X0MAN,X0NAR,X0ON,X0PAR,X2ZH,X0RAE,X0SAN,X0TAR,X0UN,X0PHAR,X3K,X0GHAN,X0QAR"),
    (0x1CA8, "X0SHIN,X3C,Y1A,X0JIL,X2C,Y0HAR,X0XAN,X2JH,X0HAE,Y1,Y1I,X1W,X0HAR,Y0OE,X0FI,X0YN"),
    (0x1CB8, "X0ELIFI,X0TURNED GAN,X1AI"),
    (0x1CBD, "Y1E,X1HARD SIG,X5LABIAL,00SUNDANESE PUNCTUATION BINDU SURYA,S0PANGLONG,T0URNAMA"),
    (0x1CC3, "S1CAKR,S1LEU SATANG,S8KA,S9D,S9B"),
    (0x1CD0, "01VEDIC TONE KARSHAN,B1SHAR,B1PRENKH,61SIGN NIHSHVAS,B1YAJURVEDIC MIDLINE SVARIT"),
    (0x1CD5, "68TONE YAJURVEDIC AGGRAVATED INDEPENDENT,MJ,MKKATHAKA,B0CANDRA BELOW"),
    (0x1CD9, "B0YAJURVEDIC KATHAKA INDEPENDENT SVARITA SCHROEDER,B0DOUBLE SVARITA,BATRIP"),
    (0x1CDC, "B2KATHAKA ANUDAT,B0DOT BELOW,B6TWO DOTS,CBHREE"),
    (0x1CE0, "B0RIGVEDIC KASHMIRI INDEPENDENT SVARITA,BKATHARVAVEDIC,68SIGN VISARGA,J2UDAT"),
    (0x1CE4, "BFREVERSED,B6VISARGA AN,BHREVERSED,B0VISARGA UDATTA WITH TAIL,JGAN"),
    (0x1CE9, "B0ANUSVARA ANTARGOMUKHA,K8BAHI,K7VAMA,V0 WITH TAIL,B0TIRYAK"),
    (0x1CEE, "B0HEXIFORM LONG ANUSVARA,BD,BERTHANG,B1ANUSVARA UBHAYATO MUKH,C1RDHAVISARG"),
    (0x1CF3, "BDROTATED,60TONE CANDRA ABOVE,60SIGN JIHVAMULIYA,B3UPADHMAN,B1ATIKRAM"),
    (0x1CF8, "60TONE RING ABOVE,BCDOUBL,60SIGN DOUBLE ANUSVARA ANTARGOMUKHA"),
    (0x1D00, "01LATIN LETTER SMALL CAPITAL ,S0E,63SMALL LETTER TURNED"),
    (0x1D03, "60LETTER SMALL CAPITAL BARRED B,R0C,R0D,R0ETH,S0,62SMALL LETTER TURNED OPEN,Q0I"),
    (0x1D0A, "60LETTER SMALL CAPITAL J,R0K,R0L WITH STROKE,R0M,R0REVERSED N,R0O,S2PEN"),
    (0x1D11, "62SMALL LETTER SIDEWAYS,T2PEN,T0 WITH STROKE,J1TURNED O,60LETTER SMALL CAPITAL OU"),
    (0x1D16, "60SMALL LETTER TOP HALF O,J7BOTTOM,60LETTER SMALL CAPITAL P,R0REVERSED R,R4TURN,S0"),
    (0x1D1C, "R0U,62SMALL LETTER SIDEWAYS,S2DIAERESIZED,S0TURNED M,60LETTER SMALL CAPITAL V,R0W"),
    (0x1D22, "R0Z,R0EZH,D0VOICED LARYNGEAL SPIRANT,D0AIN,00GREEK LETTER SMALL CAPITAL GAMMA"),
    (0x1D27, "R1LAMD,R0PI,R0RHO,R0PSI,00CYRILLIC LETTER SMALL CAPITAL EL"),
    (0x1D2C, "00MODIFIER LETTER CAPITAL A,P0E,O0B,P2ARRED,O0D,O0E,O2REVERSED,O0G,O0H,O0I,O0J,O0K"),
    (0x1D38, "O0L,O0M,O0N,O2REVERSED,O0O,P0U,O0P,O0R,O0T,O0U,O0W,G0SMALL A,M2TURNED,M1ALPH"),
    (0x1D46, "M0TURNED AE,M0B,M0D,M0E,M0SCHWA,M0OPEN E,M7TURNED,M0G,M0TURNED I,M0K,M0M,M0ENG,M0O"),
    (0x1D53, "N2PEN,M2TOP HALF,M7BOTTOM,M0P,M0T,M0U,M2SIDEWAYS,M0TURNED M,M0V,M0AIN,M0BETA"),
    (0x1D5E, "M1GREEK GAMM,M1DELT,M0GREEK PHI,M2C,01LATIN SUBSCRIPT SMALL LETTER ,T0R,T0U,T0V"),
    (0x1D66, "00GREEK SUBSCRIPT SMALL LETTER BETA,T1GAMM,T0RHO,T0PHI,T2C,00LATIN SMALL LETTER UE"),
    (0x1D6C, "J1B WITH MIDDLE TILD,JID,JIF,JIM,JIN,JIP,JIR,QDFISHHOOK AND,JDS WITH,JIT,JIZ"),
    (0x1D77, "J0TURNED G,00MODIFIER LETTER CYRILLIC EN,00LATIN SMALL LETTER INSULAR G"),
    (0x1D7A, "J0TH WITH STRIKETHROUGH,C0CAPITAL LETTER I WITH STROKE,CCLETTER IOTA,JCP"),
    (0x1D7E, "CCCAPITAL LETTER U,CCLETTER UPSILON,J0B WITH PALATAL HOOK,JID,JIF,JIG,JIK,JIL,JIM"),
    (0x1D87, "JIN,JIP,JIR,JIS,JIESH,JIV,JIX,JIZ,J5A WITH RETROFLEX,KLLPH,J0D WITH HOOK AND TAIL"),
    (0x1D92, "J0E WITH RETROFLEX HOOK,JMOPEN,JRREVERSED,JKSCHWA,JKI,JKOPEN O,JKESH,JKU,JKEZH"),
    (0x1D9B, "00MODIFIER LETTER SMALL TURNED ALPHA,M0C,N0 WITH CURL,M0ETH,M0REVERSED OPEN E,M0F"),
    (0x1DA1, "M0DOTLESS J WITH STROKE,M0SCRIPT G,M0TURNED H,M0I WITH STROKE,N0OTA,M0CAPITAL I"),
    (0x1DA7, "V0 WITH STROKE,M0J WITH CROSSED-TAIL,M0L WITH RETROFLEX HOOK,T5PALATAL,M0CAPITAL L"),
    (0x1DAC, "M0M WITH HOOK,M0TURNED M WITH LONG LEG,M0N WITH LEFT HOOK,T5RETROFLEX,M0CAPITAL N"),
    (0x1DB1, "M0BARRED O,M0PHI,M0S WITH HOOK,M0ESH,M0T WITH PALATAL HOOK,M0U BAR,N0PSILON"),
    (0x1DB8, "M0CAPITAL U,M0V WITH HOOK,M0TURNED V,M0Z,N0 WITH RETROFLEX HOOK,T0CURL,M0EZH"),
    (0x1DBF, "M0THETA,00COMBINING DOTTED GRAVE ACCENT,H8ACUT,A0SNAKE BELOW,B0USPENSION MARK"),
    (0x1DC4, "A0MACRON-ACUTE,A0GRAVE-MACRON,A0MACRON-GRAVE,A0ACUTE-MACRON,A0GRAVE-ACUTE-GRAVE"),
    (0x1DC9, "A1ACUTE-GRAVE-ACUT,A0LATIN SMALL LETTER R BELOW,A0BREVE-MACRON,A0MACRON-BREVE"),
    (0x1DCD, "A2DOUBLE CIRCUMFLEX ABO,A6OGONEK,A0ZIGZAG BELOW,A6IS,A0UR ABOVE,B6S"),
    (0x1DD3, "A6LATIN SMALL LETTER FLATTENED OPEN A,T1A,U0O,U0V,T0C CEDILLA,T0INSULAR D,T0ETH,T0G"),
    (0x1DDB, "G2LETTER SMALL CAPITAL,G0SMALL LETTER K,T0L,G2LETTER SMALL CAPITAL,Z0L M"),
    (0x1DE0, "G0SMALL LETTER N,G2LETTER SMALL CAPITAL,Z0L R,G0SMALL LETTER R ROTUNDA,T0S,T2LONG"),
    (0x1DE6, "T0Z,T0ALPHA,T0B,U0ETA,T1SCHW,T0F,T0L WITH DOUBLE MIDDLE TILDE"),
    (0x1DED, "T1O WITH LIGHT CENTRALIZATION STROK,T0P,T0ESH,T0U WITH LIGHT CENTRALIZATION STROKE"),
    (0x1DF1, "T0W,T0A WITH DIAERESIS,TFO,TFU,A0UP TACK ABOVE,A0KAVYKA ABOVE RIGHT,N1LEF,ABDOT"),
    (0x1DF9, "A0WIDE INVERTED BRIDGE BELOW,A0DOT BELOW LEFT,B0ELETION MARK"),
    (0x1DFC, "B0OUBLE INVERTED BREVE BELOW,A6ALMOST EQUAL TO,A0LEFT ARROWHEAD ABOVE"),
    (0x1DFF, "A0RIGHT ARROWHEAD AND DOWN ARROWHEAD BELOW,06LATIN CAPITAL LETTER A WITH RING"),
    (0x1E01, "6QSMAL,60CAPITAL LETTER B WITH DOT ABOVE,6PSMAL,60CAPITAL LETTER B WITH DOT BELOW"),
    (0x1E05, "6PSMAL,66CAPITAL LETTER B WITH LINE,6QSMAL"),
    (0x1E08, "60CAPITAL LETTER C WITH CEDILLA AND ACUTE,6XSMAL,61CAPITAL LETTER D WITH DOT ABOV"),
    (0x1E0B, "6PSMAL,60CAPITAL LETTER D WITH DOT BELOW,6PSMAL,66CAPITAL LETTER D WITH LINE,6QSMAL"),
    (0x1E10, "60CAPITAL LETTER D WITH CEDILLA,6NSMAL,60CAPITAL LETTER D WITH CIRCUMFLEX BELOW"),
    (0x1E13, "6WSMAL,60CAPITAL LETTER E WITH MACRON AND GRAVE,6WSMAL"),
    (0x1E16, "61CAPITAL LETTER E WITH MACRON AND ACUT,6WSMAL"),
    (0x1E18, "60CAPITAL LETTER E WITH CIRCUMFLEX BELOW,6WSMAL,66CAPITAL LETTER E WITH TILDE"),
    (0x1E1B, "6RSMAL,60CAPITAL LETTER E WITH CEDILLA AND BREVE,6XSMAL"),
    (0x1E1E, "62CAPITAL LETTER F WITH DOT ABO,6PSMAL,60CAPITAL LETTER G WITH MACRON,6MSMAL"),
    (0x1E22, "60CAPITAL LETTER H WITH DOT ABOVE,6PSMAL,60CAPITAL LETTER H WITH DOT BELOW,6PSMAL"),
    (0x1E26, "60CAPITAL LETTER H WITH DIAERESIS,6PSMAL,60CAPITAL LETTER H WITH CEDILLA,6NSMAL"),
    (0x1E2A, "60CAPITAL LETTER H WITH BREVE BELOW,6RSMAL,67CAPITAL LETTER I WITH TILD,6RSMAL"),
    (0x1E2E, "60CAPITAL LETTER I WITH DIAERESIS AND ACUTE,6ZSMAL,66CAPITAL LETTER K WITH,6LSMAL"),
    (0x1E32, "60CAPITAL LETTER K WITH DOT BELOW,6PSMAL,66CAPITAL LETTER K WITH LINE,6QSMAL"),
    (0x1E36, "66CAPITAL LETTER L WITH DOT,6PSMAL,60CAPITAL LETTER L WITH DOT BELOW AND MACRON"),
    (0x1E39, "6ZSMALL,60CAPITAL LETTER L WITH LINE BELOW,6QSMAL"),
    (0x1E3C, "66CAPITAL LETTER L WITH CIRCUMFLEX,6WSMAL,60CAPITAL LETTER M WITH ACUTE,6LSMAL"),
    (0x1E40, "61CAPITAL LETTER M WITH DOT ABOV,6PSMAL,60CAPITAL LETTER M WITH DOT BELOW,6PSMAL"),
    (0x1E44, "60CAPITAL LETTER N WITH DOT ABOVE,6PSMAL,60CAPITAL LETTER N WITH DOT BELOW,6PSMAL"),
    (0x1E48, "66CAPITAL LETTER N WITH LINE,6QSMAL,66CAPITAL LETTER N WITH CIRCUMFLEX,6WSMAL"),
    (0x1E4C, "60CAPITAL LETTER O WITH TILDE AND ACUTE,6VSMAL"),
    (0x1E4E, "60CAPITAL LETTER O WITH TILDE AND DIAERESIS,6ZSMAL"),
    (0x1E50, "60CAPITAL LETTER O WITH MACRON AND GRAVE,6WSMAL"),
    (0x1E52, "61CAPITAL LETTER O WITH MACRON AND ACUT,6WSMAL,66CAPITAL LETTER P WITH,6LSMAL"),
    (0x1E56, "61CAPITAL LETTER P WITH DOT ABOV,6PSMAL,6FCAPITAL LETTER R,6PSMAL"),
    (0x1E5A, "60CAPITAL LETTER R WITH DOT BELOW,6PSMAL"),
    (0x1E5C, "60CAPITAL LETTER R WITH DOT BELOW AND MACRON,6ZSMALL"),
    (0x1E5E, "60CAPITAL LETTER R WITH LINE BELOW,6QSMAL,60CAPITAL LETTER S WITH DOT ABOVE,6PSMAL"),
    (0x1E62, "60CAPITAL LETTER S WITH DOT BELOW,6PSMAL"),
    (0x1E64, "60CAPITAL LETTER S WITH ACUTE AND DOT ABOVE,6ZSMAL,6ECAPITAL LETTER S WITH CARON"),
    (0x1E67, "6ZSMAL,6ECAPITAL LETTER S WITH DOT BELOW,6ZSMALL LE,6ACAPITAL LETTER T WITH,6PSMAL"),
    (0x1E6C, "60CAPITAL LETTER T WITH DOT BELOW,6PSMAL,66CAPITAL LETTER T WITH LINE,6QSMAL"),
    (0x1E70, "66CAPITAL LETTER T WITH CIRCUMFLEX,6WSMAL,66CAPITAL LETTER U WITH DIAERESIS,6VSMAL"),
    (0x1E74, "66CAPITAL LETTER U WITH TILDE,6RSMAL,66CAPITAL LETTER U WITH CIRCUMFLEX,6WSMAL"),
    (0x1E78, "60CAPITAL LETTER U WITH TILDE AND ACUTE,6VSMAL"),
    (0x1E7A, "60CAPITAL LETTER U WITH MACRON AND DIAERESIS,6ZSMALL,60CAPITAL LETTER V WITH TILDE"),
    (0x1E7D, "6LSMAL,60CAPITAL LETTER V WITH DOT BELOW,6PSMAL,60CAPITAL LETTER W WITH GRAVE"),
    (0x1E81, "6LSMAL,61CAPITAL LETTER W WITH ACUT,6LSMAL,60CAPITAL LETTER W WITH DIAERESIS,6PSMAL"),
    (0x1E86, "60CAPITAL LETTER W WITH DOT ABOVE,6PSMAL,60CAPITAL LETTER W WITH DOT BELOW,6PSMAL"),
    (0x1E8A, "60CAPITAL LETTER X WITH DOT ABOVE,6PSMAL,60CAPITAL LETTER X WITH DIAERESIS,6PSMAL"),
    (0x1E8E, "60CAPITAL LETTER Y WITH DOT ABOVE,6PSMAL,60CAPITAL LETTER Z WITH CIRCUMFLEX,6QSMAL"),
    (0x1E92, "60CAPITAL LETTER Z WITH DOT BELOW,6PSMAL,66CAPITAL LETTER Z WITH LINE,6QSMAL,JGH"),
    (0x1E97, "J0T WITH DIAERESIS,J0W WITH RING ABOVE,JGY,J0A WITH RIGHT HALF RING"),
    (0x1E9B, "J0LONG S WITH DOT ABOVE,W1IAGONAL STROK,V7HIGH,60CAPITAL LETTER SHARP S"),
    (0x1E9F, "60SMALL LETTER DELTA,60CAPITAL LETTER A WITH DOT BELOW,6PSMAL"),
    (0x1EA2, "60CAPITAL LETTER A WITH HOOK ABOVE,6QSMAL"),
    (0x1EA4, "61CAPITAL LETTER A WITH CIRCUMFLEX AND ACUT,6ZSMALL"),
    (0x1EA6, "61CAPITAL LETTER A WITH CIRCUMFLEX AND GRAV,6ZSMALL"),
    (0x1EA8, "62CAPITAL LETTER A WITH CIRCUMFLEX AND HOOK ABO,6ZSMALL LETT"),
    (0x1EAA, "61CAPITAL LETTER A WITH CIRCUMFLEX AND TILD,6ZSMALL"),
    (0x1EAC, "60CAPITAL LETTER A WITH CIRCUMFLEX AND DOT BELOW,6ZSMALL LET"),
    (0x1EAE, "60CAPITAL LETTER A WITH BREVE AND ACUTE,6VSMAL"),
    (0x1EB0, "61CAPITAL LETTER A WITH BREVE AND GRAV,6VSMAL"),
    (0x1EB2, "62CAPITAL LETTER A WITH BREVE AND HOOK ABO,6ZSMALL"),
    (0x1EB4, "61CAPITAL LETTER A WITH BREVE AND TILD,6VSMAL"),
    (0x1EB6, "60CAPITAL LETTER A WITH BREVE AND DOT BELOW,6ZSMAL,6ACAPITAL LETTER E WITH,6PSMAL"),
    (0x1EBA, "60CAPITAL LETTER E WITH HOOK ABOVE,6QSMAL,61CAPITAL LETTER E WITH TILD,6LSMAL"),
    (0x1EBE, "61CAPITAL LETTER E WITH CIRCUMFLEX AND ACUT,6ZSMALL"),
    (0x1EC0, "61CAPITAL LETTER E WITH CIRCUMFLEX AND GRAV,6ZSMALL"),
    (0x1EC2, "62CAPITAL LETTER E WITH CIRCUMFLEX AND HOOK ABO,6ZSMALL LETT"),
    (0x1EC4, "61CAPITAL LETTER E WITH CIRCUMFLEX AND TILD,6ZSMALL"),
    (0x1EC6, "60CAPITAL LETTER E WITH CIRCUMFLEX AND DOT BELOW,6ZSMALL LET"),
    (0x1EC8, "60CAPITAL LETTER I WITH HOOK ABOVE,6QSMAL,60CAPITAL LETTER I WITH DOT BELOW,6PSMAL"),
    (0x1ECC, "6FCAPITAL LETTER O,6PSMAL,60CAPITAL LETTER O WITH HOOK ABOVE,6QSMAL"),
    (0x1ED0, "61CAPITAL LETTER O WITH CIRCUMFLEX AND ACUT,6ZSMALL"),
    (0x1ED2, "61CAPITAL LETTER O WITH CIRCUMFLEX AND GRAV,6ZSMALL"),
    (0x1ED4, "62CAPITAL LETTER O WITH CIRCUMFLEX AND HOOK ABO,6ZSMALL LETT"),
    (0x1ED6, "61CAPITAL LETTER O WITH CIRCUMFLEX AND TILD,6ZSMALL"),
    (0x1ED8, "60CAPITAL LETTER O WITH CIRCUMFLEX AND DOT BELOW,6ZSMALL LET"),
    (0x1EDA, "60CAPITAL LETTER O WITH HORN AND ACUTE,6USMAL,61CAPITAL LETTER O WITH HORN AND GRAV"),
    (0x1EDD, "6USMAL,62CAPITAL LETTER O WITH HORN AND HOOK ABO,6ZSMAL"),
    (0x1EE0, "61CAPITAL LETTER O WITH HORN AND TILD,6USMAL"),
    (0x1EE2, "60CAPITAL LETTER O WITH HORN AND DOT BELOW,6YSMAL,6ACAPITAL LETTER U WITH,6PSMAL"),
    (0x1EE6, "60CAPITAL LETTER U WITH HOOK ABOVE,6QSMAL,61CAPITAL LETTER U WITH HORN AND ACUT"),
    (0x1EE9, "6USMAL,61CAPITAL LETTER U WITH HORN AND GRAV,6USMAL"),
    (0x1EEC, "62CAPITAL LETTER U WITH HORN AND HOOK ABO,6ZSMAL"),
    (0x1EEE, "61CAPITAL LETTER U WITH HORN AND TILD,6USMAL"),
    (0x1EF0, "60CAPITAL LETTER U WITH HORN AND DOT BELOW,6YSMAL,60CAPITAL LETTER Y WITH GRAVE"),
    (0x1EF3, "6LSMAL,60CAPITAL LETTER Y WITH DOT BELOW,6PSMAL,60CAPITAL LETTER Y WITH HOOK ABOVE"),
    (0x1EF7, "6QSMAL,61CAPITAL LETTER Y WITH TILD,6LSMAL,60CAPITAL LETTER MIDDLE-WELSH LL,6OSMAL"),
    (0x1EFC, "60CAPITAL LETTER MIDDLE-WELSH V,6NSMAL,60CAPITAL LETTER Y WITH LOOP,6KSMAL"),
    (0x1F00, "00GREEK SMALL LETTER ALPHA WITH PSILI,U0DASIA,U2PSILI AND VAR,UADASIA"),
    (0x1F04, "U2PSILI AND OX,U9DASIA,U0PSILI AND PERISPOMENI,UGDASIA"),
    (0x1F08, "61CAPITAL LETTER ALPHA WITH PSIL,W0DASIA,W2PSILI AND VAR,WADASIA,W2PSILI AND OX"),
    (0x1F0D, "W9DASIA,W0PSILI AND PERISPOMENI,WGDASIA,61SMALL LETTER EPSILON WITH PSIL,W0DASIA"),
    (0x1F12, "W2PSILI AND VAR,WADASIA,W2PSILI AND OX,W9DASIA")
  ]

/-- Names from U+1F18 on, below U+2B76. -/
def namesFrom1F18 : List (Nat × String) :=
  [
    (0x1F18, "00GREEK CAPITAL LETTER EPSILON WITH PSILI,Y0DASIA,Y2PSILI AND VAR,YADASIA"),
    (0x1F1C, "Y2PSILI AND OX,Y9DASIA"),
    (0x1F20, "60SMALL LETTER ETA WITH PSILI,S0DASIA,S2PSILI AND VAR,SADASIA,S2PSILI AND OX"),
    (0x1F25, "S9DASIA,S0PSILI AND PERISPOMENI,SGDASIA,61CAPITAL LETTER ETA WITH PSIL,U0DASIA"),
    (0x1F2A, "U2PSILI AND VAR,UADASIA,U2PSILI AND OX,U9DASIA,U0PSILI AND PERISPOMENI,UGDASIA"),
    (0x1F30, "61SMALL LETTER IOTA WITH PSIL,T0DASIA,T2PSILI AND VAR,TADASIA,T2PSILI AND OX"),
    (0x1F35, "T9DASIA,T0PSILI AND PERISPOMENI,TGDASIA,61CAPITAL LETTER IOTA WITH PSIL,V0DASIA"),
    (0x1F3A, "V2PSILI AND VAR,VADASIA,V2PSILI AND OX,V9DASIA,V0PSILI AND PERISPOMENI,VGDASIA"),
    (0x1F40, "61SMALL LETTER OMICRON WITH PSIL,W0DASIA,W2PSILI AND VAR,WADASIA,W2PSILI AND OX"),
    (0x1F45, "W9DASIA"),
    (0x1F48, "60CAPITAL LETTER OMICRON WITH PSILI,Y0DASIA,Y2PSILI AND VAR,YADASIA,Y2PSILI AND OX"),
    (0x1F4D, "Y9DASIA"),
    (0x1F50, "60SMALL LETTER UPSILON WITH PSILI,W0DASIA,W2PSILI AND VAR,WADASIA,W2PSILI AND OX"),
    (0x1F55, "W9DASIA,W0PSILI AND PERISPOMENI,WGDASIA"),
    (0x1F59, "60CAPITAL LETTER UPSILON WITH DASIA"),
    (0x1F5B, "Z2ASIA AND VAR"),
    (0x1F5D, "Z2ASIA AND OX"),
    (0x1F5F, "Z0ASIA AND PERISPOMENI,61SMALL LETTER OMEGA WITH PSIL,U0DASIA,U2PSILI AND VAR"),
    (0x1F63, "UADASIA,U2PSILI AND OX,U9DASIA,U0PSILI AND PERISPOMENI,UGDASIA"),
    (0x1F68, "61CAPITAL LETTER OMEGA WITH PSIL,W0DASIA,W2PSILI AND VAR,WADASIA,W2PSILI AND OX"),
    (0x1F6D, "W9DASIA,W0PSILI AND PERISPOMENI,WGDASIA,60SMALL LETTER ALPHA WITH VARIA,U2OX"),
    (0x1F72, "J2EPSILON WITH VAR,W2OX,K2TA WITH VAR,S2OX,J2IOTA WITH VAR,T2OX,J2OMICRON WITH VAR"),
    (0x1F79, "W2OX,J2UPSILON WITH VAR,W2OX,J2OMEGA WITH VAR,U2OX"),
    (0x1F80, "J0ALPHA WITH PSILI AND YPOGEGRAMMENI,UIDASIA,UKPSILI AND VAR,USDASIA,UKPSILI AND OX"),
    (0x1F85, "URDASIA,UIPSILI AND PERISPOMENI,UYDASIA,6ACAPITAL LETTER ALPHA WITH PSILI AND PROS"),
    (0x1F89, "WJDASIA,WLPSILI AND VAR,WTDASIA,WLPSILI AND OX,WSDASIA,WJPSILI AND PERISPOMENI"),
    (0x1F8F, "WZDASIA,6ASMALL LETTER ETA WITH PSILI AND YPO,SIDASIA,SKPSILI AND VAR,SSDASIA"),
    (0x1F94, "SKPSILI AND OX,SRDASIA,SIPSILI AND PERISPOMENI,SYDASIA"),
    (0x1F98, "6ACAPITAL LETTER ETA WITH PSILI AND PROS,UJDASIA,ULPSILI AND VAR,UTDASIA"),
    (0x1F9C, "ULPSILI AND OX,USDASIA,UJPSILI AND PERISPOMENI,UZDASIA"),
    (0x1FA0, "6ASMALL LETTER OMEGA WITH PSILI AND YPO,UIDASIA,UKPSILI AND VAR,USDASIA"),
    (0x1FA4, "UKPSILI AND OX,URDASIA,UIPSILI AND PERISPOMENI,UYDASIA"),
    (0x1FA8, "6ACAPITAL LETTER OMEGA WITH PSILI AND PROS,WJDASIA,WLPSILI AND VAR,WTDASIA"),
    (0x1FAC, "WLPSILI AND OX,WSDASIA,WJPSILI AND PERISPOMENI,WZDASIA"),
    (0x1FB0, "60SMALL LETTER ALPHA WITH VRACHY,U0MACRON,U0VARIA AND YPOGEGRAMMENI,UD,UEOXIA AND"),
    (0x1FB6, "U4PERISPO,Z4POMENI AND YPOGEGRAM,60CAPITAL LETTER ALPHA WITH VRACHY,W0MACRON"),
    (0x1FBA, "W0VARIA,W2OX,W0PROSGEGRAMMENI,60KORONIS,60PROSGEGRAMMENI,71SIL,71ERISPOMEN"),
    (0x1FC1, "6CDIALYTIKA AND,64SMALL LETTER ETA WITH VARIA AND YPOGEGRAM,SD,SEOXIA AND"),
    (0x1FC6, "S4PERISPO,Z4MENI AND YPOGEGRAM,60CAPITAL LETTER EPSILON WITH VARIA,Y2OX"),
    (0x1FCA, "M2TA WITH VAR,U2OX,U0PROSGEGRAMMENI,60PSILI AND VARIA,G2OX,G0PERISPOMENI"),
    (0x1FD0, "60SMALL LETTER IOTA WITH VRACHY,T0MACRON,T0DIALYTIKA AND VARIA,Z2IKA AND OX"),
    (0x1FD6, "T0PERISPOMENI,TCDIALYTIKA AND,60CAPITAL LETTER IOTA WITH VRACHY,V0MACRON,V0VARIA"),
    (0x1FDB, "V2OX"),
    (0x1FDD, "62DASIA AND VAR,G2OX,G0PERISPOMENI,60SMALL LETTER UPSILON WITH VRACHY,W0MACRON"),
    (0x1FE2, "W0DIALYTIKA AND VARIA,Z2LYTIKA AND OX,J0RHO WITH PSILI,S0DASIA"),
    (0x1FE6, "J0UPSILON WITH PERISPOMENI,WCDIALYTIKA AND,60CAPITAL LETTER UPSILON WITH VRACHY"),
    (0x1FE9, "Y0MACRON,Y0VARIA,Y2OX,L2RHO WITH DAS,62DIALYTIKA AND VAR,K2OX,62VAR"),
    (0x1FF2, "60SMALL LETTER OMEGA WITH VARIA AND YPOGEGRAMMENI,UD,UEOXIA AND"),
    (0x1FF6, "U4PERISPO,Z4POMENI AND YPOGEGRAM,60CAPITAL LETTER OMICRON WITH VARIA,Y2OX"),
    (0x1FFA, "N2EGA WITH VAR,W2OX,W0PROSGEGRAMMENI,60OXIA,62DAS"),
    (0x2000, "00EN QUAD,15M,10N SPACE,16M,08THREE-PER-,0DFOUR,0DSIX,06FIGURE,06PUNCTUATION,07THI"),
    (0x200A, "06HAIR,06ZERO WIDTH,B0NON-JOINER,B6,00LEFT-TO-RIGHT MARK,06RIGHT-TO-LEF,00HYPHEN"),
    (0x2011, "06NON-BREAKING ,00FIGURE DASH,05EN,15M,00HORIZONTAL BAR,00DOUBLE VERTICAL LINE"),
    (0x2017, "75LOW,00LEFT SINGLE QUOTATION MARK,0NRIGH,0FSINGLE LOW-9,7HHIGH-REVERSED"),
    (0x201C, "0FLEFT DOUBLE,0NRIGH,0FDOUBLE LOW-9,7HHIGH-REVERSED,10AGGER,16OUBLE ,00BULLET"),
    (0x2023, "06TRIANGULAR ,00ONE DOT LEADER,0BTWO,00HORIZONTAL ELLIPSIS,10YPHENATION POINT"),
    (0x2028, "00LINE SEPARATOR,0APARAGRAPH,00LEFT-TO-RIGHT EMBEDDING,0BRIGHT-TO-LEF"),
    (0x202C, "03POP DIRECTIONAL FORMATT,00LEFT-TO-RIGHT OVERRIDE,0ARIGHT-TO-LEF"),
    (0x202F, "01NARROW NO-BREAK SPAC,00PER MILLE SIGN,45TEN THOUSAND,10RIME,05DOUBLE ,08TRIP"),
    (0x2035, "06REVERSED,96DOUBLE,98TRIP,00CARET,00SINGLE LEFT-POINTING ANGLE QUOTATION MARK"),
    (0x203A, "7VRIGH,05REFERENCE,05DOUBLE EXCLAMATION,00INTERROBANG,00OVERLINE,01UNDERTI"),
    (0x2040, "03CHARACTER ,10ARET INSERTION POINT,00ASTERISM,00HYPHEN BULLET,00FRACTION SLASH"),
    (0x2045, "00LEFT SQUARE BRACKET WITH QUILL,0RRIGH,00DOUBLE QUESTION MARK,09QUESTION EXCLAMA"),
    (0x2049, "09EXCLAMATION QUES,00TIRONIAN SIGN ET,00REVERSED PILCROW SIGN"),
    (0x204C, "00BLACK LEFTWARDS BULLET,6DRIGH,00LOW ASTERISK,00REVERSED SEMICOLON,00CLOSE UP"),
    (0x2051, "00TWO ASTERISKS ALIGNED VERTICALLY,00COMMERCIAL MINUS SIGN,00SWUNG DASH"),
    (0x2054, "00INVERTED UNDERTIE,00FLOWER PUNCTUATION MARK,00THREE DOT PUNCTUATION"),
    (0x2057, "00QUADRUPLE PRIME,00FOUR DOT PUNCTUATION,1GIVE,0GTWO,00FOUR DOT MARK,00DOTTED CROSS"),
    (0x205D, "00TRICOLON,00VERTICAL FOUR DOTS,00MEDIUM MATHEMATICAL SPACE,00WORD JOINER"),
    (0x2061, "00FUNCTION APPLICATION,00INVISIBLE TIMES,A0SEPARATOR,A0PLUS"),
    (0x2066, "00LEFT-TO-RIGHT ISOLATE,09RIGHT-TO-LEF,08FIRST STRONG,08POP DIRECTIONAL"),
    (0x206A, "00INHIBIT SYMMETRIC SWAPPING,0JACTIVATE,04INHIBIT ARABIC FORM SHA,0KACTIVATE"),
    (0x206E, "00NATIONAL DIGIT SHAPES,1GOMI,00SUPERSCRIPT ZERO,C0LATIN SMALL LETTER I"),
    (0x2074, "C0FOUR,D0IVE,C0SIX,D0EVEN,C0EIGHT,C0NINE,C0PLUS SIGN,C0MINUS,C0EQUALS SIGN"),
    (0x207D, "C0LEFT PARENTHESIS,CDRIGH,C0LATIN SMALL LETTER N,20BSCRIPT ZERO,A0ONE,A0TWO,B0HREE"),
    (0x2084, "A0FOUR,B0IVE,A0SIX,B0EVEN,A0EIGHT,A0NINE,A0PLUS SIGN,A0MINUS,A0EQUALS SIGN"),
    (0x208D, "A0LEFT PARENTHESIS,ADRIGH"),
    (0x2090, "00LATIN SUBSCRIPT SMALL LETTER A,T0E,T0O,T0X,T0SCHWA,T0H,T0K,T0L,T0M,T0N,T0P,T0S"),
    (0x209C, "T0T"),
    (0x20A0, "00EURO-CURRENCY SIGN,05COLON,15RUZEIRO,05FRENCH FRANC,05LIRA,05MILL,05NAIRA,06PESET"),
    (0x20A8, "05RUPEE,05WON,05NEW SHEQEL,05DONG,05EURO,05KIP,05TUGRIK,05DRACHMA,05GERMAN PENNY"),
    (0x20B1, "05PESO,05GUARANI,05AUSTRAL,05HRYVNIA,05CEDI,05LIVRE TOURNOIS,05SPESMILO,05TENGE"),
    (0x20B9, "06INDIAN RUPE,05TURKISH LIRA,05NORDIC MARK,05MANAT,05RUBLE,05LARI,05BITCOIN,05SOM"),
    (0x20D0, "00COMBINING LEFT HARPOON ABOVE,AFRIGH,A0LONG VERTICAL LINE OVERLAY,AMSHORT"),
    (0x20D4, "A0ANTICLOCKWISE ARROW ABOVE,AL,ACLEFT,ADRIGH,C0NG OVERLAY,ADCLOCKWISE,AMANTI"),
    (0x20DB, "A0THREE DOTS ABOVE,ABFOUR,A1ENCLOSING CIRCL,K1SQUAR,K0DIAMOND,K0CIRCLE BACKSLASH"),
    (0x20E1, "A0LEFT RIGHT ARROW ABOVE,A0ENCLOSING SCREEN,K0KEYCAP,K0UPWARD POINTING TRIANGLE"),
    (0x20E5, "A0REVERSE SOLIDUS OVERLAY,A8DOUBLE VERTICAL STROKE,A0ANNUITY SYMBOL"),
    (0x20E8, "A0TRIPLE UNDERDOT,A0WIDE BRIDGE ABOVE,A0LEFTWARDS ARROW OVERLAY"),
    (0x20EB, "B8ONG DOUBLE SOLIDUS,A0RIGHTWARDS HARPOON WITH BARB DOWNWARDS,AYLEF,E0 ARROW BELOW"),
    (0x20EF, "ADRIGH,A0ASTERISK ABOVE"),
    (0x2100, "00ACCOUNT OF,10DDRESSED TO THE SUBJECT,00DOUBLE-STRUCK CAPITAL C,10EGREE CELSIUS"),
    (0x2104, "00CENTRE LINE SYMBOL,10ARE OF,20DA UNA,00EULER CONSTANT,00SCRUPLE"),
    (0x2109, "00DEGREE FAHRENHEIT,00SCRIPT SMALL G,70CAPITAL H,0ABLACK-LETTER,0ADOUBLE-STRUCK"),
    (0x210E, "00PLANCK CONSTANT,F0 OVER TWO PI,01SCRIPT CAPITAL ,0ABLACK-LETTER"),
    (0x2112, "00SCRIPT CAPITAL L,73SMAL,01L B BAR SYMBO,00DOUBLE-STRUCK CAPITAL N,01NUMERO SIG"),
    (0x2117, "00SOUND RECORDING COPYRIGHT,10CRIPT CAPITAL P,0ADOUBLE-STRUCK,M0Q"),
    (0x211B, "00SCRIPT CAPITAL R,0ABLACK-LETTER,0ADOUBLE-STRUCK,00PRESCRIPTION TAKE,01RESPONS"),
    (0x2120, "00SERVICE MARK,00TELEPHONE SIGN,15RADE MARK,00VERSICLE,00DOUBLE-STRUCK CAPITAL Z"),
    (0x2125, "00OUNCE SIGN,15HM,08INVERTED ,00BLACK-LETTER CAPITAL Z"),
    (0x2129, "00TURNED GREEK SMALL LETTER IOTA,00KELVIN SIGN,05ANGSTROM,00SCRIPT CAPITAL B"),
    (0x212D, "00BLACK-LETTER CAPITAL C,00ESTIMATED SYMBOL,00SCRIPT SMALL E,73CAPITA,F0F,0ATURNED"),
    (0x2133, "00SCRIPT CAPITAL M,70SMALL O,00ALEF SYMBOL,07BET,07GIMEL,07DALET"),
    (0x2139, "00INFORMATION SOURCE,00ROTATED CAPITAL Q,00FACSIMILE SIGN,00DOUBLE-STRUCK SMALL PI"),
    (0x213D, "K0GAMMA,E7CAPITA,M0PI,E0N-ARY SUMMATION,00TURNED SANS-SERIF CAPITAL G,Q0L,0NREVERS"),
    (0x2144, "00TURNED SANS-SERIF CAPITAL Y,00DOUBLE-STRUCK ITALIC CAPITAL D,L3SMAL,R0E,R0I,R0J"),
    (0x214A, "00PROPERTY LINE,00TURNED AMPERSAND,00PER SIGN,00AKTIESELSKAB,00TURNED SMALL F"),
    (0x214F, "00SYMBOL FOR SAMARITAN SOURCE,00VULGAR FRACTION ONE SEVENTH,K3NI,K3TE,L0HIRD"),
    (0x2154, "G0TWO THIRDS,G0ONE FIFTH,G0TWO FIFTHS,H7HREE,G7FOUR,G0ONE SIXTH,G0FIVE SIXTHS"),
    (0x215B, "G0ONE EIGHTH,G0THREE EIGHTHS,G9FIV,G8SEVEN,00FRACTION NUMERATOR ONE,04ROMAN NUMERAL"),
    (0x2161, "E0TWO,F0HREE,E0FOUR,F0IVE,E0SIX,F0EVEN,E0EIGHT,E0NINE,E0TEN,E2ELEV,E0TWELVE,E0FIFTY"),
    (0x216D, "E0ONE HUNDRED,E9FIV,E1ONE THOUSAN,00SMALL ROMAN NUMERAL ONE,K0TWO,L0HREE,K0FOUR"),
    (0x2174, "L0IVE,K0SIX,L0EVEN,K0EIGHT,K0NINE,K0TEN,K2ELEV,K0TWELVE,K0FIFTY,K0ONE HUNDRED,K9FIV"),
    (0x217F, "K1ONE THOUSAN,01ROMAN NUMERAL ONE THOUSAND C ,E1FIVE THOUSAN,E9TEN"),
    (0x2183, "E1REVERSED ONE HUNDRE,00LATIN SMALL LETTER REVERSED C,00ROMAN NUMERAL SIX LATE FORM"),
    (0x2186, "E5FIFTY EARLY,K0THOUSAND,E9ONE HUNDRED,00VULGAR FRACTION ZERO THIRDS"),
    (0x218A, "00TURNED DIGIT TWO,E0HREE"),
    (0x2190, "00LEFTWARDS ARROW,0BUP,0BRIGHT,0BDOWN,06LEFT RIGHT,06UP DOWN,06NORTH WEST,68EA"),
    (0x2198, "0DSOU,68WE,00LEFTWARDS ARROW WITH STROKE,0ORIGH,00LEFTWARDS WAVE ARROW,0HRIGH"),
    (0x219E, "06LEFTWARDS TWO HEADED,0MUP,0MRIGHT,0MDOWN,00LEFTWARDS ARROW WITH TAIL,0MRIGH"),
    (0x21A4, "00LEFTWARDS ARROW FROM BAR,0KUP,0KRIGHT,0KDOWN,00UP DOWN ARROW WITH BASE"),
    (0x21A9, "00LEFTWARDS ARROW WITH HOOK,0MRIGH,00LEFTWARDS ARROW WITH LOOP,0MRIGH"),
    (0x21AD, "00LEFT RIGHT WAVE ARROW,B0ARROW WITH STROKE,00DOWNWARDS ZIGZAG ARROW"),
    (0x21B0, "00UPWARDS ARROW WITH TIP LEFTWARDS,N6RIGH,06DOWNWARDS ARROW WITH TIP LEF,P6RIGH"),
    (0x21B4, "05RIGHTWARDS ARROW WITH CORNER DOWN,05DOWNWARDS ARROW WITH CORNER LEFT"),
    (0x21B6, "00ANTICLOCKWISE TOP SEMICIRCLE ARROW,0U,00NORTH WEST ARROW TO LONG BAR"),
    (0x21B9, "04LEFTWARDS ARROW TO BAR OVER RIGHTWARDS ARROW TO,00ANTICLOCKWISE OPEN CIRCLE ARROW"),
    (0x21BB, "0R,00LEFTWARDS HARPOON WITH BARB UPWARDS,S5DOWN,05UPWARDS HARPOON WITH BARB RIGHT"),
    (0x21BF, "Q6LEF,05RIGHTWARDS HARPOON WITH BARB UP,T5DOWN,05DOWNWARDS HARPOON WITH BARB RIGHT"),
    (0x21C3, "S6LEF,00RIGHTWARDS ARROW OVER LEFTWARDS ARROW,0BUPWARDS ARROW LEFTWARDS OF DOWN"),
    (0x21C6, "0BLEFTWARDS ARROW OVER RIGHT,A0PAIRED ARROWS,0JUP,0JRIGHT,0JDOWN"),
    (0x21CB, "00LEFTWARDS HARPOON OVER RIGHTWARDS HARPOON,0ERIGHTWARDS HARPOON OVER LEF"),
    (0x21CD, "00LEFTWARDS DOUBLE ARROW WITH STROKE,4P RIGHT,0PRIGHTWARDS,00LEFTWARDS DOUBLE ARROW"),
    (0x21D1, "0IUP,0IRIGHT,0IDOWN,0DLEFT RIGHT,0DUP DOWN,0DNORTH WEST,6FEA,0KSOU,6FWE"),
    (0x21DA, "08LEFTWARDS TRIP,0JRIGH,08LEFTWARDS SQUIGG,0LRIGH"),
    (0x21DE, "00UPWARDS ARROW WITH DOUBLE STROKE,0UDOWN,00LEFTWARDS DASHED ARROW,0IUP,0IRIGHT"),
    (0x21E3, "0IDOWN,00LEFTWARDS ARROW TO BAR,0JRIGH,00LEFTWARDS WHITE ARROW,0HUP,0HRIGHT,0HDOWN"),
    (0x21EA, "00UPWARDS WHITE ARROW FROM BAR,K0ON PEDESTAL,V0 WITH HORIZONTAL BAR,Z6H VERTIC"),
    (0x21EE, "E0DOUBLE ARROW,Q0 ON PEDESTAL,01RIGHTWARDS WHITE ARROW FROM WAL"),
    (0x21F1, "00NORTH WEST ARROW TO CORNER,0ISOUTH EA,00UP DOWN WHITE ARROW"),
    (0x21F4, "00RIGHT ARROW WITH SMALL CIRCLE,00DOWNWARDS ARROW LEFTWARDS OF UPWARDS ARROW"),
    (0x21F6, "00THREE RIGHTWARDS ARROWS,00LEFTWARDS ARROW WITH VERTICAL STROKE,0XRIGH"),
    (0x21F9, "0RLEFT RIGHT,4GWARDS ARROW WITH DOUBLE,0ZRIGHTWARD,0YLEFT RIGHT"),
    (0x21FD, "40WARDS OPEN-HEADED ARROW,0ORIGH,0ILEFT RIGHT,00FOR ALL,00COMPLEMENT"),
    (0x2202, "00PARTIAL DIFFERENTIAL,00THERE EXISTS,60DOES NOT EXIST,01EMPTY SE,01INCREMEN"),
    (0x2207, "00NABLA,00ELEMENT OF,0ANOT AN ,0BSMALL,00CONTAINS AS MEMBER,0ADOES NOT CONTAIN"),
    (0x220D, "0ASMALL CONTAINS,00END OF PROOF,00N-ARY PRODUCT,67CO,60SUMMATION,01MINUS SIG"),
    (0x2213, "57-OR-PL,00DOT PLUS,10IVISION SLASH,00SET MINUS,00ASTERISK OPERATOR,09RING,09BULLET"),
    (0x221A, "00SQUARE ROOT,06CUB,05FOURTH,00PROPORTIONAL TO,00INFINITY,00RIGHT ANGLE,05"),
    (0x2221, "05MEASURED ,06SPHERICAL,00DIVIDES,10OES NOT DIVIDE,00PARALLEL TO,0BNOT "),
    (0x2227, "00LOGICAL AND,80OR,00INTERSECTION,03UN,00INTEGRAL,08DOUBLE ,0BTRIP,09CONTOUR"),
    (0x222F, "09SURFACE,0AVOLUM,0ACLOCKWIS,A9CONTOUR,0QANTI,00THEREFORE,01BECAUS,00RATIO"),
    (0x2237, "00PROPORTION,00DOT MINUS,01EXCES,00GEOMETRIC PROPORTION,00HOMOTHETIC"),
    (0x223C, "00TILDE OPERATOR,00REVERSED TILDE,00INVERTED LAZY S,00SINE WAVE,00WREATH PRODUCT"),
    (0x2241, "00NOT TILDE,06MINUS,00ASYMPTOTICALLY EQUAL TO,0NNOT ,0BAPPROXIMATE,EBBUT NOT ACTUAL"),
    (0x2247, "0INEITHER APPROXIMATELY NOR,09ALMOST,0FNOT ,09ALMOST EQUAL OR,00TRIPLE TILDE"),
    (0x224C, "00ALL EQUAL TO,03EQUIVALENT,0DGEOMETRICALLY ,00DIFFERENCE BETWEEN"),
    (0x2250, "00APPROACHES THE LIMIT,00GEOMETRICALLY EQUAL TO"),
    (0x2252, "00APPROXIMATELY EQUAL TO OR THE IMAGE OF,00IMAGE OF OR APPROXIMATELY EQUAL TO"),
    (0x2254, "00COLON EQUALS,00EQUALS COLON,00RING IN EQUAL TO,58,03CORRESPONDS,00ESTIMATES"),
    (0x225A, "10QUIANGULAR TO,00STAR EQUALS,00DELTA EQUAL TO,00EQUAL TO BY DEFINITION"),
    (0x225E, "00MEASURED BY,00QUESTIONED EQUAL TO,09NOT,05IDENTIC,0CNOT ,03STRICTLY EQUIVALENT"),
    (0x2264, "03LESS-THAN OR EQUAL,0HGREATER,0ALESS-THAN OVE,0JGREATER,09LESS-THAN BUT NOT"),
    (0x2269, "0MGREATER,00MUCH LESS-THAN,55GREATER,01BETWEE,00NOT EQUIVALENT TO,40LESS-THAN"),
    (0x226F, "45GREATER,10EITHER LESS-THAN NOR EQUAL TO,8IGREATER,03LESS-THAN OR EQUIVALENT"),
    (0x2273, "0MGREATER,0GNEITHER LESS-THAN N,8NGREATER,00LESS-THAN OR GREATER-THAN"),
    (0x2277, "05GREATER-THAN OR LESS,05NEITHER LESS-THAN NOR GREATER,85GREATER-THAN NOR LESS"),
    (0x227A, "00PRECEDES,01SUCCEED,00PRECEDES OR EQUAL TO,0DSUCCEED,03PRECEDES OR EQUIVALENT"),
    (0x227F, "0ISUCCEED,00DOES NOT PRECEDE,90SUCCEED,00SUBSET OF,26PER,06NOT A SUB,86PER"),
    (0x2286, "00SUBSET OF OR EQUAL TO,2IPER,0BNEITHER A SUBSET OF N,CJPER,09SUBSET OF WITH NOT"),
    (0x228B, "2OPER,00MULTISET,80 MULTIPLICATION,93UN,00SQUARE IMAGE OF,73ORIGINAL"),
    (0x2291, "70IMAGE OF OR EQUAL TO,7FORIGINAL,70CAP,81U,00CIRCLED PLUS,82MIN,81TIME"),
    (0x2298, "80DIVISION SLASH,90OT OPERATOR,89RING,89ASTERISK,80EQUALS,80DASH,00SQUARED PLUS"),
    (0x229F, "82MIN,81TIME,80DOT OPERATOR,00RIGHT TACK,06LEF,05DOWN,05UP,00ASSERTION,00MODELS"),
    (0x22A8, "00TRUE,00FORCES,00TRIPLE VERTICAL BAR RIGHT TURNSTILE,0GDOUBLE VERTICAL BAR DOUBLE"),
    (0x22AC, "21ES NOT PROV,01NOT TRU,01DOES NOT FORC"),
    (0x22AF, "01NEGATED DOUBLE VERTICAL BAR DOUBLE RIGHT TURNSTIL,00PRECEDES UNDER RELATION"),
    (0x22B1, "0GSUCCEED,00NORMAL SUBGROUP OF,00CONTAINS AS NORMAL SUBGROUP"),
    (0x22B4, "00NORMAL SUBGROUP OF OR EQUAL TO,0CCONTAINS AS NORMAL SUBGROUP,00ORIGINAL OF"),
    (0x22B7, "03IMAGE,00MULTIMAP,00HERMITIAN CONJUGATE MATRIX,00INTERCALATE,00XOR,00NAND,10OR"),
    (0x22BE, "00RIGHT ANGLE WITH ARC,60TRIANGLE,00N-ARY LOGICAL AND,E0OR,60INTERSECTION,63UN"),
    (0x22C4, "00DIAMOND OPERATOR,19OT,09STAR,00DIVISION TIMES,00BOWTIE"),
    (0x22C9, "00LEFT NORMAL FACTOR SEMIDIRECT PRODUCT,0YRIGH,0JLEFT,0KRIGH,10EVERSED TILDE EQUALS"),
    (0x22CE, "00CURLY LOGICAL OR,E0AND,00DOUBLE SUBSET,93PER,70INTERSECTION,73UN,00PITCHFORK"),
    (0x22D5, "00EQUAL AND PARALLEL TO,00LESS-THAN WITH DOT,0EGREATER,00VERY MUCH LESS-THAN"),
    (0x22D9, "A5GREATER,0DLESS-THAN EQUAL TO OR,05GREATER-THAN EQUAL TO OR LESS,0L,C5GREATER"),
    (0x22DE, "C0PRECEDES,C1SUCCEED,00DOES NOT PRECEDE OR EQUAL,99SUCCEED"),
    (0x22E2, "00NOT SQUARE IMAGE OF OR EQUAL TO,BFORIGINAL,09SQUARE IMAGE OF OR NOT,7JORIGINAL"),
    (0x22E6, "03LESS-THAN BUT NOT EQUIVALENT,0RGREATER,0MPRECEDES,0NSUCCEED"),
    (0x22EA, "00NOT NORMAL SUBGROUP OF,00DOES NOT CONTAIN AS NORMAL SUBGROUP"),
    (0x22EC, "00NOT NORMAL SUBGROUP OF OR EQUAL TO,00DOES NOT CONTAIN AS NORMAL SUBGROUP OR EQUAL"),
    (0x22EE, "00VERTICAL ELLIPSIS,0BMIDLINE HORIZONT,0BUP RIGHT DIAGON,0ODOWN"),
    (0x22F2, "00ELEMENT OF WITH LONG HORIZONTAL STROKE,GIVERTICAL BAR AT END OF"),
    (0x22F4, "0ZSMALL ELEMENT OF WITH VERTI,01ELEMENT OF WITH DOT ABOV,G0OVERBAR,0NSMALL "),
    (0x22F8, "05ELEMENT OF WITH UND,G0TWO HORIZONTAL STROKES"),
    (0x22FA, "00CONTAINS WITH LONG HORIZONTAL STROKE,EIVERTICAL BAR AT END OF"),
    (0x22FC, "0ZSMALL CONTAINS WITH VERTI,00CONTAINS WITH OVERBAR,0LSMALL "),
    (0x22FF, "00Z NOTATION BAG MEMBERSHIP,00DIAMETER SIGN,00ELECTRIC ARROW,00HOUSE,00UP ARROWHEAD"),
    (0x2304, "0ADOWN,00PROJECTIVE,16ERSP,01WAVY LIN,00LEFT CEILING,09RIGH,00LEFT FLOOR,07RIGH"),
    (0x230C, "00BOTTOM RIGHT CROP,76LEF,06TOP RIGH,46LEF,00REVERSED NOT SIGN,00SQUARE LOZENGE"),
    (0x2312, "00ARC,00SEGMENT,20CTOR,01TELEPHONE RECORDE,01POSITION INDICATO,00VIEWDATA SQUARE"),
    (0x2318, "00PLACE OF INTEREST SIGN,06TURNED NO,00WATCH,00HOURGLASS,00TOP LEFT CORNER,48RIGH"),
    (0x231E, "08BOTTOM LEF,78RIGH,00TOP HALF INTEGRAL,0EBOTTOM,00FROWN,00SMILE"),
    (0x2324, "00UP ARROWHEAD BETWEEN TWO HORIZONTAL BARS,00OPTION KEY,00ERASE TO THE RIGHT"),
    (0x2327, "00X IN A RECTANGLE BOX,00KEYBOARD,00LEFT-POINTING ANGLE BRACKET,0ORIGH"),
    (0x232B, "01ERASE TO THE LEF,00BENZENE RING,00CYLINDRICITY,00ALL AROUND-PROFILE,00SYMMETRY"),
    (0x2330, "00TOTAL RUNOUT,00DIMENSION ORIGIN,00CONICAL TAPER,00SLOPE,01COUNTERBOR,70SINK"),
    (0x2336, "00APL FUNCTIONAL SYMBOL I-BEAM,M0SQUISH QUAD,M0QUAD EQUAL,R0DIVIDE,T0AMOND,R0JOT"),
    (0x233C, "R0CIRCLE,M2CIRCLE STI,T0JOT,M0SLASH BAR,M9BACK,M0QUAD SLASH,R5BACK,R0LESS-THAN"),
    (0x2344, "R5GREATER,M0LEFTWARDS VANE,MBRIGH,M0QUAD LEFTWARDS ARROW,RCRIGH,M0CIRCLE BACKSLASH"),
    (0x234A, "M0DOWN TACK UNDERBAR,N0ELTA STILE,M0QUAD DOWN CARET,S0ELTA,M0DOWN TACK JOT"),
    (0x234F, "M0UPWARDS VANE,M0QUAD UPWARDS ARROW,M0UP TACK OVERBAR,M0DEL STILE,M0QUAD UP CARET"),
    (0x2354, "R0DEL,M0UP TACK JOT,M0DOWNWARDS VANE,M0QUAD DOWNWARDS ARROW,O0OTE UNDERBAR,M9DELTA"),
    (0x235A, "N9IAMOND,M9JOT,M9CIRCLE,M0UP SHOE JOT,M0QUOTE QUAD,M0CIRCLE STAR,M0QUAD COLON"),
    (0x2361, "M0UP TACK DIAERESIS,MADEL,MASTAR,MAJOT,MACIRCLE,M0DOWN SHOE STILE,MBLEFT"),
    (0x2368, "M0TILDE DIAERESIS,MAGREATER-THAN,M0COMMA BAR,M0DEL TILDE,M4Z,M4STILE T"),
    (0x236E, "N0EMICOLON UNDERBAR,M0QUAD NOT EQUAL,R0QUESTION,M0DOWN CARET TILDE,MCUP,M0IOTA"),
    (0x2374, "M0RHO,M0OMEGA,M0ALPHA UNDERBAR,M9EPSILON,M9IOTA,MAOMEG,M0ALPHA,00NOT CHECK MARK"),
    (0x237C, "00RIGHT ANGLE WITH DOWNWARDS ZIGZAG ARROW,00SHOULDERED OPEN BOX,00BELL SYMBOL"),
    (0x237F, "00VERTICAL LINE WITH MIDDLE DOT,00INSERTION SYMBOL,07CONTINUOUS UNDERLINE,0RDIS"),
    (0x2383, "07EMPHASIS,07COMPOSITION,00WHITE SQUARE WITH CENTRE VERTICAL LINE,00ENTER SYMBOL"),
    (0x2387, "07ALTERNATIVE KEY,07HELM,00CIRCLED HORIZONTAL BAR WITH NOTCH,80TRIANGLE DOWN"),
    (0x238B, "00BROKEN CIRCLE WITH NORTHWEST ARROW,00UNDO SYMBOL,07MONOSTABLE,07HYSTERESIS"),
    (0x238F, "07OPEN-CIRCUIT-OUTPUT H-TYPE,KCL,07PASSIVE-PULL-DOWN-OUTPUT,DEUP"),
    (0x2393, "00DIRECT CURRENT SYMBOL FORM TWO,00SOFTWARE-FUNCTION SYMBOL"),
    (0x2395, "00APL FUNCTIONAL SYMBOL QUAD,00DECIMAL SEPARATOR KEY SYMBOL,00PREVIOUS PAGE,05NEXT"),
    (0x2399, "00PRINT SCREEN SYMBOL,0ECLEAR,00LEFT PARENTHESIS UPPER HOOK,H0EXTENSION"),
    (0x239D, "H0LOWER HOOK,07RIGHT PARENTHESIS UPP,I0EXTENSION,I0LOWER HOOK"),
    (0x23A1, "00LEFT SQUARE BRACKET UPPER CORNER,K0EXTENSION,K0LOWER CORNER"),
    (0x23A4, "09RIGHT SQUARE BRACKET UPP,L0EXTENSION,L0LOWER CORNER"),
    (0x23A7, "00LEFT CURLY BRACKET UPPER HOOK,J0MIDDLE PIECE,J0LOWER HOOK"),
    (0x23AA, "00CURLY BRACKET EXTENSION,00RIGHT CURLY BRACKET UPPER HOOK,K0MIDDLE PIECE"),
    (0x23AD, "K0LOWER HOOK,00INTEGRAL EXTENSION,0AHORIZONTAL LINE"),
    (0x23B0, "03UPPER LEFT OR LOWER RIGHT CURLY BRACKET SECT,6NRIGHT OR LOWER LEF,00SUMMATION TOP"),
    (0x23B3, "A0BOTTOM,00TOP SQUARE BRACKET,0FBOTTOM,LF OVER TOP,00RADICAL SYMBOL BOTTOM"),
    (0x23B8, "00LEFT VERTICAL BOX LINE,0JRIGH,00HORIZONTAL SCAN LINE-1,L03,L07,L09"),
    (0x23BE, "00DENTISTRY SYMBOL LIGHT VERTICAL AND TOP RIGHT,Z6 BOTTOM,W0WITH CIRCLE"),
    (0x23C1, "NEDOWN AND HORIZONT,NRUP,N2VERTICAL WITH TRIANG,NGDOWN AND HORIZONT,NTUP"),
    (0x23C6, "N1VERTICAL AND WAV,N5DOWN AND HORIZONTAL WITH,NPUP,N0DOWN AND HORIZONTAL,NFUP"),
    (0x23CB, "N0VERTICAL AND TOP LEFT,Z5 BOTTOM,01SQUARE FOO,00RETURN SYMBOL,07EJECT"),
    (0x23D0, "00VERTICAL LINE EXTENSION,00METRICAL BREVE,90LONG OVER SHORT,90SHORT OVER LONG"),
    (0x23D4, "90LONG OVER TWO SHORTS,90TWO SHORTS OVER LONG,K0JOINED,A0RISEME,A4ETRA,95PENT"),
    (0x23DA, "00EARTH GROUND,00FUSE,00TOP PARENTHESIS,0CBOTTOM,00TOP CURLY BRACKET,0EBOTTOM"),
    (0x23E0, "08TOP TORTOISE SHELL,0NBOTTOM,00WHITE TRAPEZIUM,00BENZENE RING WITH CIRCLE"),
    (0x23E4, "00STRAIGHTNESS,05FLA,00AC CURRENT,00ELECTRICAL INTERSECTION"),
    (0x23E8, "00DECIMAL EXPONENT SYMBOL,00BLACK RIGHT-POINTING DOUBLE TRIANGLE,6QLEF,6PUP,6PDOWN"),
    (0x23ED, "60RIGHT-POINTING DOUBLE TRIANGLE WITH VERTICAL BAR,6ZLEFT-POINTIN"),
    (0x23EF, "6DRIGHT-POINTING TRIANGLE WITH DOUBLE,00ALARM CLOCK,00STOPWATCH,00TIMER CLOCK"),
    (0x23F3, "00HOURGLASS WITH FLOWING SAND,00BLACK MEDIUM LEFT-POINTING TRIANGLE,DJRIGH,DIUP"),
    (0x23F7, "DIDOWN,00DOUBLE VERTICAL BAR,00BLACK SQUARE FOR STOP,60CIRCLE FOR RECORD"),
    (0x23FB, "00POWER SYMBOL,67ON-OFF,87,67SLEEP,07OBSERVER EYE,01SYMBOL FOR NUL"),
    (0x2401, "B0START OF HEADING,K0TEXT,B8END,J0RANSMISSION,D0QUIRY,B0ACKNOWLEDGE,B0BELL"),
    (0x2408, "C0ACKSPACE,B0HORIZONTAL TABULATION,B0LINE FEED,B0VERTICAL TABULATION,B0FORM FEED"),
    (0x240D, "B0CARRIAGE RETURN,B0SHIFT OUT,H0IN,B0DATA LINK ESCAPE,C1EVICE CONTROL ON,Q0TWO"),
    (0x2413, "R0HREE,Q0FOUR,B0NEGATIVE ACKNOWLEDGE,B1SYNCHRONOUS IDL,B0END OF TRANSMISSION BLOCK"),
    (0x2418, "B0CANCEL,B0END OF MEDIUM,B0SUBSTITUTE,B1ESCAP,B0FILE SEPARATOR,BAGROUP,BARECORD"),
    (0x241F, "BAUNIT,B0SPACE,B1DELET,00BLANK SYMBOL,00OPEN BOX,00SYMBOL FOR NEWLINE"),
    (0x2425, "B0DELETE FORM TWO,BBSUBSTITU"),
    (0x2440, "00OCR HOOK,40CHAIR,40FORK,45INVERTED,40BELT BUCKLE,51OW TI"),
    (0x2446, "50RANCH BANK IDENTIFICATION,40AMOUNT OF CHECK,40DASH,40CUSTOMER ACCOUNT NUMBER"),
    (0x244A, "40DOUBLE BACKSLASH"),
    (0x2460, "00CIRCLED DIGIT ONE,E0TWO,F0HREE,E0FOUR,F0IVE,E0SIX,F0EVEN,E0EIGHT,E0NINE"),
    (0x2469, "80NUMBER TEN,F2ELEV,F0TWELVE,G0HIRTEEN,F5FOU,G4IF,F4SIX,G4EVEN,F4EIGH,F4NINE"),
    (0x2473, "F0TWENTY,00PARENTHESIZED DIGIT ONE,K0TWO,L0HREE,K0FOUR,L0IVE,K0SIX,L0EVEN,K0EIGHT"),
    (0x247C, "K0NINE,E0NUMBER TEN,L2ELEV,L0TWELVE,M0HIRTEEN,L5FOU,M4IF,L4SIX,M4EVEN,L4EIGH,L4NINE"),
    (0x2487, "L0TWENTY,00DIGIT ONE FULL STOP,6ATWO,7AHREE,6AFOUR,7AIVE,6ASIX,7AEVEN,6AEIGHT"),
    (0x2490, "6ANINE,0ANUMBER TEN,7CELEV,7ATWELVE,8AHIRTEEN,7FFOU,8EIF,7ESIX,8EEVEN,7EEIGH,7ENINE"),
    (0x249B, "7ATWENTY,00PARENTHESIZED LATIN SMALL LETTER A,X0B,X0C,X0D,X0E,X0F,X0G,X0H,X0I,X0J"),
    (0x24A6, "X0K,X0L,X0M,X0N,X0O,X0P,X0Q,X0R,X0S,X0T,X0U,X0V,X0W,X0X,X0Y,X0Z"),
    (0x24B6, "00CIRCLED LATIN CAPITAL LETTER A,T0B,T0C,T0D,T0E,T0F,T0G,T0H,T0I,T0J,T0K,T0L,T0M"),
    (0x24C3, "T0N,T0O,T0P,T0Q,T0R,T0S,T0T,T0U,T0V,T0W,T0X,T0Y,T0Z,E0SMALL LETTER A,R0B,R0C,R0D"),
    (0x24D4, "R0E,R0F,R0G,R0H,R0I,R0J,R0K,R0L,R0M,R0N,R0O,R0P,R0Q,R0R,R0S,R0T,R0U,R0V,R0W,R0X,R0Y"),
    (0x24E9, "R0Z,80DIGIT ZERO,00NEGATIVE CIRCLED NUMBER ELEVEN,O0TWELVE,P0HIRTEEN,O5FOU,P4IF"),
    (0x24F0, "O4SIX,P4EVEN,O4EIGH,O4NINE,O0TWENTY,00DOUBLE CIRCLED DIGIT ONE,L0TWO,M0HREE,L0FOUR"),
    (0x24F9, "M0IVE,L0SIX,M0EVEN,L0EIGHT,L0NINE,F0NUMBER TEN,00NEGATIVE CIRCLED DIGIT ZERO"),
    (0x2500, "00BOX DRAWINGS LIGHT HORIZONTAL,DBHEAVY,D2LIGHT VERTIC,D9HEAVY"),
    (0x2504, "D2LIGHT TRIPLE DASH HORIZONT,DNHEAVY,D2LIGHT TRIPLE DASH VERTIC,DLHEAVY"),
    (0x2508, "D2LIGHT QUADRUPLE DASH HORIZONT,DQHEAVY,D2LIGHT QUADRUPLE DASH VERTIC,DOHEAVY"),
    (0x250C, "D0LIGHT DOWN AND RIGHT,D0DOWN LIGHT AND RIGHT HEAVY,I0HEAVY AND RIGHT LIGHT"),
    (0x250F, "D4HEAVY DOWN AND R,D1LIGHT DOWN AND LEF,D0DOWN LIGHT AND LEFT HEAVY"),
    (0x2512, "I0HEAVY AND LEFT LIGHT,D1HEAVY DOWN AND LEF,D1LIGHT UP AND RIGH"),
    (0x2515, "D0UP LIGHT AND RIGHT HEAVY,G0HEAVY AND RIGHT LIGHT,D4HEAVY UP AND R"),
    (0x2518, "D1LIGHT UP AND LEF,D0UP LIGHT AND LEFT HEAVY,G0HEAVY AND LEFT LIGHT"),
    (0x251B, "D1HEAVY UP AND LEF,D1LIGHT VERTICAL AND RIGH,D0VERTICAL LIGHT AND RIGHT HEAVY"),
    (0x251E, "D0UP HEAVY AND RIGHT DOWN LIGHT,D6DOWN HEAVY AND RIGHT UP"),
    (0x2520, "D6VERTICAL HEAVY AND RIGHT,D0DOWN LIGHT AND RIGHT UP HEAVY"),
    (0x2522, "D6UP LIGHT AND RIGHT DOWN,D0HEAVY VERTICAL AND RIGHT,D1LIGHT VERTICAL AND LEF"),
    (0x2525, "D0VERTICAL LIGHT AND LEFT HEAVY,D0UP HEAVY AND LEFT DOWN LIGHT"),
    (0x2527, "D6DOWN HEAVY AND LEFT UP,D6VERTICAL HEAVY AND LEFT,D0DOWN LIGHT AND LEFT UP HEAVY"),
    (0x252A, "D6UP LIGHT AND LEFT DOWN,D0HEAVY VERTICAL AND LEFT,D0LIGHT DOWN AND HORIZONTAL"),
    (0x252D, "E0EFT HEAVY AND RIGHT DOWN LIGHT,DCRIGHT HEAVY AND LEF"),
    (0x252F, "D0DOWN LIGHT AND HORIZONTAL HEAVY,I0HEAVY AND HORIZONTAL LIGHT"),
    (0x2531, "D0RIGHT LIGHT AND LEFT DOWN HEAVY,DCLEFT LIGHT AND RIGH,D0HEAVY DOWN AND HORIZONTAL"),
    (0x2534, "DFLIGHT UP,E0EFT HEAVY AND RIGHT UP LIGHT,DARIGHT HEAVY AND LEF"),
    (0x2537, "D0UP LIGHT AND HORIZONTAL HEAVY,G0HEAVY AND HORIZONTAL LIGHT"),
    (0x2539, "D0RIGHT LIGHT AND LEFT UP HEAVY,DALEFT LIGHT AND RIGH,D0HEAVY UP AND HORIZONTAL"),
    (0x253C, "DFLIGHT VERTICAL,E0EFT HEAVY AND RIGHT VERTICAL LIGHT,DGRIGHT HEAVY AND LEF"),
    (0x253F, "D0VERTICAL LIGHT AND HORIZONTAL HEAVY,D0UP HEAVY AND DOWN HORIZONTAL LIGHT"),
    (0x2541, "DHDOWN HEAVY AND UP,DHVERTICAL HEAVY AND,D6LEFT UP HEAVY AND RIGHT DOWN"),
    (0x2544, "DCRIGHT UP HEAVY AND LEF,D6LEFT DOWN HEAVY AND RIGHT UP,DARIGHT DOWN HEAVY AND LEF"),
    (0x2547, "D0DOWN LIGHT AND UP HORIZONTAL HEAVY,DHUP LIGHT AND DOWN"),
    (0x2549, "D8RIGHT LIGHT AND LEFT VERTIC,DGLEFT LIGHT AND RIGH,D0HEAVY VERTICAL AND HORIZONTAL"),
    (0x254C, "DBLIGHT DOUBLE DASH,DNHEAVY,D2LIGHT DOUBLE DASH VERTIC,DLHEAVY,D2DOUBLE HORIZONT"),
    (0x2551, "K2VERTIC,F0WN SINGLE AND RIGHT DOUBLE,I2DOUBLE AND RIGHT SING,F0UBLE DOWN AND RIGHT"),
    (0x2555, "F0WN SINGLE AND LEFT DOUBLE,I2DOUBLE AND LEFT SING,F0UBLE DOWN AND LEFT"),
    (0x2558, "D0UP SINGLE AND RIGHT DOUBLE,G2DOUBLE AND RIGHT SING,D0DOUBLE UP AND RIGHT"),
    (0x255B, "D0UP SINGLE AND LEFT DOUBLE,G2DOUBLE AND LEFT SING,D0DOUBLE UP AND LEFT"),
    (0x255E, "D0VERTICAL SINGLE AND RIGHT DOUBLE,M2DOUBLE AND RIGHT SING"),
    (0x2560, "D0DOUBLE VERTICAL AND RIGHT,D0VERTICAL SINGLE AND LEFT DOUBLE"),
    (0x2562, "M2DOUBLE AND LEFT SING,D0DOUBLE VERTICAL AND LEFT,F0WN SINGLE AND HORIZONTAL DOUBLE"),
    (0x2565, "I2DOUBLE AND HORIZONTAL SING,F0UBLE DOWN AND HORIZONTAL"),
    (0x2567, "D0UP SINGLE AND HORIZONTAL DOUBLE,G2DOUBLE AND HORIZONTAL SING"),
    (0x2569, "D0DOUBLE UP AND HORIZONTAL,D0VERTICAL SINGLE AND HORIZONTAL DOUBLE"),
    (0x256B, "M2DOUBLE AND HORIZONTAL SING,D0DOUBLE VERTICAL AND HORIZONTAL"),
    (0x256D, "D0LIGHT ARC DOWN AND RIGHT,W1LEF,N9UP,U1RIGH,J1DIAGONAL UPPER RIGHT TO LOWER LEF"),
    (0x2572, "Y1LEFT TO LOWER RIGH,S0CROSS,J0LEFT,J0UP,J0RIGHT,J0DOWN,D0HEAVY LEFT,J0UP,J0RIGHT"),
    (0x257B, "J0DOWN,D0LIGHT LEFT AND HEAVY RIGHT,J0UP AND HEAVY DOWN"),
    (0x257E, "D0HEAVY LEFT AND LIGHT RIGHT,J0UP AND LIGHT DOWN,00UPPER HALF BLOCK"),
    (0x2581, "06LOWER ONE EIGHTH,A6QUARTER,66THREE EIGHTHS,66HALF,66FIVE EIGHTHS,67THREE QUARTER"),
    (0x2587, "67SEVEN EIGHTH,06FULL,06LEFT SEVEN EIGHTHS,57THREE QUARTER,57FIVE EIGHTH,56HALF"),
    (0x258D, "56THREE EIGHTHS,56ONE QUARTER,96EIGHTH,06RIGHT HALF,00LIGHT SHADE,06MEDIUM,06DARK"),
    (0x2594, "00UPPER ONE EIGHTH BLOCK,0HRIGHT,00QUADRANT LOWER LEFT,F1RIGH,91UPPER LEF"),
    (0x2599, "J1 AND LOWER LEFT AND LOWER RIGH,U5,O1UPPER RIGHT AND LOWER LEF,Z1 AND LOWER RIGH"),
    (0x259D, "F5,K1 AND LOWER LEF,Z1 AND LOWER RIGH,00BLACK SQUARE,07WHITE"),
    (0x25A2, "C0 WITH ROUNDED CORNERS,D0CONTAINING BLACK SMALL SQUARE"),
    (0x25A4, "00SQUARE WITH HORIZONTAL FILL,C7VERTIC,C5ORTHOGONAL CROSSHATCH"),
    (0x25A7, "C5UPPER LEFT TO LOWER RIGHT,I6RIGHT TO LOWER LEF,C5DIAGONAL CROSSHATCH"),
    (0x25AA, "00BLACK SMALL SQUARE,0DWHITE,01BLACK RECTANGL,0AWHITE,0ABLACK VERTICAL,0JWHITE"),
    (0x25B0, "00BLACK PARALLELOGRAM,0EWHITE,00BLACK UP-POINTING TRIANGLE,0LWHITE"),
    (0x25B4, "09BLACK UP-POINTING SMALL,0RWHITE,09BLACK RIGHT-POINTING,0OWHITE"),
    (0x25B8, "09BLACK RIGHT-POINTING SMALL,0UWHITE,00BLACK RIGHT-POINTING POINTER,0NWHITE"),
    (0x25BC, "00BLACK DOWN-POINTING TRIANGLE,0NWHITE,09BLACK DOWN-POINTING SMALL,0TWHITE"),
    (0x25C0, "09BLACK LEFT-POINTING,0NWHITE,09BLACK LEFT-POINTING SMALL,0TWHITE"),
    (0x25C4, "00BLACK LEFT-POINTING POINTER,0MWHITE,00BLACK DIAMOND,08WHITE"),
    (0x25C8, "D8 CONTAINING BLACK SMALL,00FISHEYE,01LOZENG,01WHITE CIRCL,07DOTTED"),
    (0x25CD, "00CIRCLE WITH VERTICAL FILL,00BULLSEYE,11LACK CIRCL,00CIRCLE WITH LEFT HALF BLACK"),
    (0x25D1, "CCRIGH,CBLOWER,CDUPP,I6RIGHT QUADRANT,CGALL BUT UPPER LEF,00LEFT HALF BLACK CIRCLE"),
    (0x25D7, "0JRIGH,00INVERSE BULLET,80WHITE CIRCLE,0KUPPER HALF ,0SLOW"),
    (0x25DC, "00UPPER LEFT QUADRANT CIRCULAR ARC,6NRIGH,0ULOW,6NLEF,00UPPER HALF CIRCLE,0ELOW"),
    (0x25E2, "02BLACK LOWER RIGHT TRIANG,CALEF,6GUPP,CARIGH,00WHITE BULLET"),
    (0x25E7, "00SQUARE WITH LEFT HALF BLACK,CCRIGH,CBUPPER LEFT DIAGONAL,CLLOWER RIGH"),
    (0x25EB, "00WHITE SQUARE WITH VERTICAL BISECTING LINE,60UP-POINTING TRIANGLE WITH DOT"),
    (0x25ED, "00UP-POINTING TRIANGLE WITH LEFT HALF BLACK,QCRIGH,00LARGE CIRCLE"),
    (0x25F0, "00WHITE SQUARE WITH UPPER LEFT QUADRANT,IGLOW,OARIGH,IHUPP,6ACIRCLE WITH UPPER LEF"),
    (0x25F5, "IGLOW,OARIGH,IHUPP,00UPPER LEFT TRIANGLE,6ARIGH,0ALOWER LEF,01WHITE MEDIUM SQUAR"),
    (0x25FC, "0EBLACK,07WHITE MEDIUM SMALL,0KBLACK,01LOWER RIGHT TRIANGL,00BLACK SUN WITH RAYS"),
    (0x2601, "00CLOUD,00UMBRELLA,00SNOWMAN,00COMET,00BLACK STAR,05WHITE,00LIGHTNING"),
    (0x2608, "00THUNDERSTORM,00SUN,00ASCENDING NODE,0DDE,00CONJUNCTION,04OPPOSI,00BLACK TELEPHONE"),
    (0x260F, "0AWHITE,00BALLOT BOX,A0 WITH CHECK,G0X,00SALTIRE,00UMBRELLA WITH RAIN DROPS"),
    (0x2615, "00HOT BEVERAGE,01WHITE SHOGI PIEC,0CBLACK,00SHAMROCK"),
    (0x2619, "00REVERSED ROTATED FLORAL HEART BULLET,00BLACK LEFT POINTING INDEX,6GRIGH"),
    (0x261C, "0GWHITE LEF,6FUP,6FRIGHT,6FDOWN,00SKULL AND CROSSBONES,00CAUTION SIGN,05RADIOACTIVE"),
    (0x2623, "05BIOHAZARD,00CADUCEUS,00ANKH,00ORTHODOX CROSS,00CHI RHO,10ROSS OF LORRAINE"),
    (0x2629, "90JERUSALEM,00STAR AND CRESCENT,00FARSI SYMBOL,00ADI SHAKTI,00HAMMER AND SICKLE"),
    (0x262E, "00PEACE SYMBOL,00YIN YANG,00TRIGRAM FOR HEAVEN,C0LAKE,C1FIR,C0THUNDER,C0WIND,D0ATER"),
    (0x2636, "C0MOUNTAIN,C0EARTH,00WHEEL OF DHARMA,20ITE FROWNING FACE,68SMIL,0DBLACK"),
    (0x263C, "00WHITE SUN WITH RAYS,00FIRST QUARTER MOON,0FLA,00MERCURY,00FEMALE SIGN,00EARTH"),
    (0x2642, "00MALE SIGN,00JUPITER,00SATURN,00URANUS,00NEPTUNE,00PLUTO,00ARIES,01TAURU,00GEMINI"),
    (0x264B, "00CANCER,00LEO,01VIRG,00LIBRA,00SCORPIUS,13AGITTAR,00CAPRICORN,00AQUARIUS,01PISCE"),
    (0x2654, "00WHITE CHESS KING,C0QUEEN,C0ROOK,C0BISHOP,C0KNIGHT,C0PAWN,00BLACK CHESS KING"),
    (0x265B, "C0QUEEN,C0ROOK,C0BISHOP,C0KNIGHT,C0PAWN,60SPADE SUIT,05WHITE HEART,65DIAMOND"),
    (0x2663, "05BLACK CLUB,05WHITE SPADE,05BLACK HEART,65DIAMOND,05WHITE CLUB,00HOT SPRINGS"),
    (0x2669, "00QUARTER NOTE,05EIGHTH,00BEAMED EIGHTH NOTES,78SIXTEEN,00MUSIC FLAT SIGN,65NATURAL"),
    (0x266F, "65SHARP,00WEST SYRIAC CROSS,0FEA,00UNIVERSAL RECYCLING SYMBOL"),
    (0x2673, "00RECYCLING SYMBOL FOR TYPE-1 PLASTICS,Q92,Q93,Q94,Q95,Q96,Q97,L1GENERIC MATERIAL"),
    (0x267B, "00BLACK UNIVERSAL RECYCLING SYMBOL,07RECYCLED PAPER,0LPARTIALLY-"),
    (0x267E, "10ERMANENT PAPER SIGN,00WHEELCHAIR SYMBOL,00DIE FACE-1,902,903,904,905,906"),
    (0x2686, "00WHITE CIRCLE WITH DOT RIGHT,I0TWO DOTS,00BLACK CIRCLE WITH WHITE DOT RIGHT"),
    (0x2689, "I0TWO WHITE DOTS,00MONOGRAM FOR YANG,E0IN,00DIGRAM FOR GREATER YANG,B0LESSER YIN"),
    (0x268E, "J0ANG,B0GREATER YIN,00WHITE FLAG,05BLACK,00HAMMER AND PICK,00ANCHOR"),
    (0x2694, "00CROSSED SWORDS,01STAFF OF AESCULAPIU,11CALE,00ALEMBIC,00FLOWER,01GEA"),
    (0x269A, "00STAFF OF HERMES,00ATOM SYMBOL,00FLEUR-DE-LIS,00OUTLINED WHITE STAR"),
    (0x269E, "00THREE LINES CONVERGING RIGHT,N1LEF,00WARNING SIGN,05HIGH VOLTAGE,06DOUBLED FEMAL"),
    (0x26A3, "89,0BINTERLOCKED FEMALE AN,09MALE AND FE,56WITH STROK,H6AND MALE AND FEMAL"),
    (0x26A8, "06VERTICAL MALE WITH STROK,0OHORIZONT,00MEDIUM WHITE CIRCLE,77BLACK,77SMALL WHITE"),
    (0x26AD, "10ARRIAGE SYMBOL,08DIVORC,07UNMARRIED PARTNERSHIP,00COFFIN,01FUNERAL UR,00NEUTER"),
    (0x26B3, "00CERES,01PALLA,00JUNO,00VESTA,00CHIRON,00BLACK MOON LILITH,00SEXTILE,27MI"),
    (0x26BB, "00QUINCUNX,00SESQUIQUADRATE,10OCCER BALL,04BASE,00SQUARED KEY,00WHITE DRAUGHTS MAN"),
    (0x26C1, "F0KING,00BLACK DRAUGHTS MAN,F0KING,00SNOWMAN WITHOUT SNOW,10UN BEHIND CLOUD,00RAIN"),
    (0x26C7, "01BLACK SNOWMA,01THUNDER CLOUD AND RAI,10URNED WHITE SHOGI PIECE,7CBLACK"),
    (0x26CB, "01WHITE DIAMOND IN SQUAR,00CROSSING LANES,00DISABLED CAR,00OPHIUCHUS,00PICK"),
    (0x26D0, "00CAR SLIDING,00HELMET WITH WHITE CROSS,01CIRCLED CROSSING LANE,11HAIN,00NO ENTRY"),
    (0x26D5, "00ALTERNATE ONE-WAY LEFT WAY TRAFFIC,0LBLACK TWO,0PWHITE,00BLACK LEFT LANE MERGE"),
    (0x26D9, "0GWHITE,00DRIVE SLOW SIGN,00HEAVY WHITE DOWN-POINTING TRIANGLE,00LEFT CLOSED ENTRY"),
    (0x26DD, "00SQUARED SALTIRE,02FALLING DIAGONAL IN WHITE CIRCLE IN BLACK SQUA,00BLACK TRUCK"),
    (0x26E0, "00RESTRICTED LEFT ENTRY-1,M02,00ASTRONOMICAL SYMBOL FOR URANUS"),
    (0x26E3, "00HEAVY CIRCLE WITH STROKE AND TWO DOTS ABOVE,00PENTAGRAM"),
    (0x26E5, "09RIGHT-HANDED INTERLACED ,0TLEF,0CINVERT,00BLACK CROSS ON SHIELD,00SHINTO SHRINE"),
    (0x26EA, "00CHURCH,10ASTLE,01HISTORIC SIT,00GEAR WITHOUT HUB,90 HANDLES"),
    (0x26EF, "00MAP SYMBOL FOR LIGHTHOUSE,10OUNTAIN,00UMBRELLA ON GROUND,00FOUNTAIN,10LAG IN HOLE"),
    (0x26F4, "10ERRY,00SAILBOAT,10QUARE FOUR CORNERS,10KIER,00ICE SKATE,00PERSON WITH BALL,00TENT"),
    (0x26FB, "00JAPANESE BANK SYMBOL,07HEADSTONE GRAVEYARD,00FUEL PUMP,00CUP ON BLACK SQUARE"),
    (0x26FF, "01WHITE FLAG WITH HORIZONTAL MIDDLE BLACK STRIP,00BLACK SAFETY SCISSORS"),
    (0x2701, "09UPPER BLADE,09BLACK,09LOWER BLADE,0AWHIT,60HEAVY CHECK MARK"),
    (0x2706, "00TELEPHONE LOCATION SIGN,10APE DRIVE,01AIRPLAN,01ENVELOP,00RAISED FIST,70HAND"),
    (0x270C, "05VICTORY,05WRITING,00LOWER RIGHT PENCIL,06,06UPPER RIGHT ,00WHITE NIB,04BLACK"),
    (0x2713, "00CHECK MARK,0AHEAVY ,00MULTIPLICATION X,0GHEAVY ,02BALLOT,08HEAVY "),
    (0x2719, "00OUTLINED GREEK CROSS,0CHEAVY,06OPEN CENTRE,0HHEAVY ,06LATIN,0BSHADOWED WHITE "),
    (0x271F, "0COUTLINED,06MALTESE,00STAR OF DAVID,00FOUR TEARDROP-SPOKED ASTERISK,5GBALLOON"),
    (0x2724, "0SHEAVY ,0GFOUR CLUB,00BLACK FOUR POINTED STAR,0IWHITE,00SPARKLES"),
    (0x2729, "10TRESS OUTLINED WHITE STAR,0DCIRCL,05OPEN CENTRE BLACK,05BLACK CENTRE WHITE"),
    (0x272D, "05OUTLINED BLACK,0JHEAVY ,05PINWHEEL,05SHADOWED WHITE,00HEAVY ASTERISK"),
    (0x2732, "09OPEN CENTRE,09EIGHT SPOKED,60POINTED BLACK STAR,E5PINWHEEL,05SIX POINTED BLACK"),
    (0x2737, "0BEIGHT POINTED RECTILINEAR,0ZHEAVY E,0BTWELVE POINTED,00SIXTEEN POINTED ASTERISK"),
    (0x273B, "0BTEARDROP-SPOK,0OOPEN CENTRE ,0PHEAVY,00SIX PETALLED BLACK AND WHITE FLORETTE"),
    (0x273F, "09BLACK,09WHITE,09EIGHT PETALLED OUTLINED BLACK"),
    (0x2742, "00CIRCLED OPEN CENTRE EIGHT POINTED STAR,00HEAVY TEARDROP-SPOKED PINWHEEL ASTERISK"),
    (0x2744, "00SNOWFLAKE,09TIGHT TRIFOLIATE ,0AHEAVY CHEVRON,01SPARKL,07HEAVY "),
    (0x2749, "00BALLOON-SPOKED ASTERISK,09EIGHT TEARDROP-SPOKED PROPELLER,0ZHEAVY EIGHT"),
    (0x274C, "01CROSS MAR,00SHADOWED WHITE CIRCLE,00NEGATIVE SQUARED CROSS MARK"),
    (0x274F, "00LOWER RIGHT DROP-SHADOWED WHITE SQUARE,0ZUPP,0LLOWER RIGHT ,0UUPP"),
    (0x2753, "00BLACK QUESTION MARK ORNAMENT,0NWHITE,6IEXCLAMA,00BLACK DIAMOND MINUS WHITE X"),
    (0x2757, "00HEAVY EXCLAMATION MARK SYMBOL,00LIGHT VERTICAL BAR,0DMEDIUM,0DHEAVY"),
    (0x275B, "60SINGLE TURNED COMMA QUOTATION MARK ORNAMENT,DT,6UDOUBLE TURNED,DT,6WLOW SING"),
    (0x2760, "AWDOUB,09CURVED STEM PARAGRAPH SIGN,09HEAVY EXCLAMATION MARK,6QHEART,61BLACK HEAR"),
    (0x2765, "01ROTATED HEAVY BLACK HEART BULLE,01FLORAL HEAR,01ROTATED FLORAL HEART BULLE"),
    (0x2768, "01MEDIUM LEFT PARENTHESIS ORNAMEN,7MRIGH,7MFLATTENED LEF,HMRIGH"),
    (0x276C, "79LEFT-POINTING ANGLE BRACKET,7XRIGH,09HEAVY LEFT-POINTING ANGLE QUOTATION MARK"),
    (0x276F, "6ZRIGHT-POI,69LEFT-POINTING ANGLE BRACKET,6XRIGH,0HLIGHT LEFT TORTOISE SHELL,6XRIGH"),
    (0x2774, "0HMEDIUM LEFT CURLY,7ORIGH,00DINGBAT NEGATIVE CIRCLED DIGIT ONE,V0TWO,W0HREE,V0FOUR"),
    (0x277A, "W0IVE,V0SIX,W0EVEN,V0EIGHT,V0NINE,P0NUMBER TEN,80CIRCLED SANS-SERIF DIGIT ONE,X0TWO"),
    (0x2782, "Y0HREE,X0FOUR,Y0IVE,X0SIX,Y0EVEN,X0EIGHT,X0NINE,R0NUMBER TEN"),
    (0x278A, "80NEGATIVE CIRCLED SANS-SERIF DIGIT ONE,Z0 DIGIT TWO,Z0 DIGIT THREE,Z0 DIGIT FOUR"),
    (0x278E, "Z0 DIGIT FIVE,Z0 DIGIT SIX,Z0 DIGIT SEVEN,Z0 DIGIT EIGHT,Z0 DIGIT NINE"),
    (0x2793, "Z0 NUMBER TEN,00HEAVY WIDE-HEADED RIGHTWARDS ARROW,60PLUS SIGN,67MIN,65DIVISION"),
    (0x2798, "60SOUTH EAST ARROW,66RIGHTWARDS,66NORTH EAST,06DRAFTING POINT RIGHTWARDS"),
    (0x279C, "0HHEAVY ROUND-TIPPED,0JTRIANGLE-HEAD,0WHEAVY ,0XDASHED,0ZHEAVY DASH,0HBLACK"),
    (0x27A2, "00THREE-D TOP-LIGHTED RIGHTWARDS ARROWHEAD,8TBOTTOM,0LBLACK"),
    (0x27A5, "00HEAVY BLACK CURVED DOWNWARDS AND RIGHTWARDS ARROW,JQUP,0HSQUAT BLACK"),
    (0x27A8, "0NHEAVY CONCAVE-POINTED,0HRIGHT-SHADED WHITE,0VLEF,0PBACK-TILTED SHADOW,0ZFRONT-TIL"),
    (0x27AD, "0VHEAVY LOWER RIGHT-,6ZUPPER RI,0ZNOTCHED LOWER RI,00CURLY LOOP"),
    (0x27B1, "00NOTCHED UPPER RIGHT-SHADOWED WHITE RIGHTWARDS ARROW,0NCIRCLED HEAVY"),
    (0x27B3, "0HWHITE-FEATHERED,06BLACK-FEATHERED SOUTH EAST,G6RIGHTWARDS,G6NORTH EAST"),
    (0x27B7, "0DHEAVY BLACK-FEATHERED SOU,M6RIGHTWARDS,M6NORTH EAST,06TEARDROP-BARBED RIGHTWARDS"),
    (0x27BB, "0JHEAVY TEARDROP-SHANK,0JWEDGE-TAIL,0THEAVY ,0JOPEN-OUTLIN,00DOUBLE CURLY LOOP"),
    (0x27C0, "00THREE DIMENSIONAL ANGLE,05WHITE TRIANGLE CONTAINING SMALL WHITE TRI"),
    (0x27C2, "00PERPENDICULAR,00OPEN SUBSET,73PER,00LEFT S-SHAPED BAG DELIMITER,0ORIGH"),
    (0x27C7, "00OR WITH DOT INSIDE,00REVERSE SOLIDUS PRECEDING SUBSET"),
    (0x27C9, "00SUPERSET PRECEDING SOLIDUS,00VERTICAL BAR WITH HORIZONTAL STROKE"),
    (0x27CB, "00MATHEMATICAL RISING DIAGONAL,00LONG DIVISION,00MATHEMATICAL FALLING DIAGONAL"),
    (0x27CE, "00SQUARED LOGICAL AND,G0OR,00WHITE DIAMOND WITH CENTRED DOT,04AND WITH"),
    (0x27D2, "00ELEMENT OF OPENING UPWARDS,00LOWER RIGHT CORNER WITH DOT,0HUPPER LEF"),
    (0x27D5, "00LEFT OUTER JOIN,0CRIGH,0BFULL,00LARGE UP TACK,65DOWN"),
    (0x27DA, "10EFT AND RIGHT DOUBLE TURNSTILE,F0TACK,50MULTIMAP,10ONG RIGHT TACK,56LEF"),
    (0x27DF, "00UP TACK WITH CIRCLE ABOVE,01LOZENGE DIVIDED BY HORIZONTAL RUL"),
    (0x27E1, "00WHITE CONCAVE-SIDED DIAMOND,R0 WITH LEFTWARDS TICK,XBRIGH,6BSQUARE WITH LEF"),
    (0x27E5, "IBRIGH,00MATHEMATICAL LEFT WHITE SQUARE BRACKET,DMRIGH,D9LEFT ANGL,DFRIGH"),
    (0x27EA, "DELEFT DOUBLE,DMRIGH,D8LEFT WHITE TORTOISE SHELL,DURIGH"),
    (0x27EE, "D0LEFT FLATTENED PARENTHESIS,DNRIGH,00UPWARDS QUADRUPLE ARROW,0LDOWN"),
    (0x27F2, "08ANTICLOCKWISE GAPPED CIRC,0T,00RIGHT ARROW WITH CIRCLED PLUS"),
    (0x27F5, "00LONG LEFTWARDS ARROW,5CRIGH,56LEFT RIGHT,96WARDS DOUBLE,5JRIGH,5DLEFT RIGHT"),
    (0x27FB, "90WARDS ARROW FROM BAR,5LRIGH,5FLEFTWARDS DOUBLE,5SRIGH,G0SQUIGGLE ARROW"),
    (0x2800, "00BRAILLE PATTERN BLANK,G0DOTS-1,L02,L11,L03,L11,L12,L21,L04,L11,L12,L21,L13,L21"),
    (0x280E, "L22,L31,L05,L11,L12,L21,L13,L21,L22,L31,L14,L21,L22,L31,L23,L31,L32,L41,L06,L11,L12"),
    (0x2823, "L21,L13,L21,L22,L31,L14,L21,L22,L31,L23,L31,L32,L41,L15,L21,L22,L31,L23,L31,L32,L41"),
    (0x2838, "L24,L31,L32,L41,L33,L41,L42,L51,L07,L11,L12,L21,L13,L21,L22,L31,L14,L21,L22,L31,L23"),
    (0x284D, "L31,L32,L41,L15,L21,L22,L31,L23,L31,L32,L41,L24,L31,L32,L41,L33,L41,L42,L51,L16,L21"),
    (0x2862, "L22,L31,L23,L31,L32,L41,L24,L31,L32,L41,L33,L41,L42,L51,L25,L31,L32,L41,L33,L41,L42"),
    (0x2877, "L51,L34,L41,L42,L51,L43,L51,L52,L61,L08,L11,L12,L21,L13,L21,L22,L31,L14,L21,L22,L31"),
    (0x288C, "L23,L31,L32,L41,L15,L21,L22,L31,L23,L31,L32,L41,L24,L31,L32,L41,L33,L41,L42,L51,L16"),
    (0x28A1, "L21,L22,L31,L23,L31,L32,L41,L24,L31,L32,L41,L33,L41,L42,L51,L25,L31,L32,L41,L33,L41"),
    (0x28B6, "L42,L51,L34,L41,L42,L51,L43,L51,L52,L61,L17,L21,L22,L31,L23,L31,L32,L41,L24,L31,L32"),
    (0x28CB, "L41,L33,L41,L42,L51,L25,L31,L32,L41,L33,L41,L42,L51,L34,L41,L42,L51,L43,L51,L52,L61"),
    (0x28E0, "L26,L31,L32,L41,L33,L41,L42,L51,L34,L41,L42,L51,L43,L51,L52,L61,L35,L41,L42,L51,L43"),
    (0x28F5, "L51,L52,L61,L44,L51,L52,L61,L53,L61,L62,L71"),
    (0x2900, "00RIGHTWARDS TWO-HEADED ARROW WITH VERTICAL STROKE,XGDOUBLE"),
    (0x2902, "0GLEFTWARDS DOUBLE ARROW WITH,0ZRIGHTWARD,0YLEFT RIGHT"),
    (0x2905, "00RIGHTWARDS TWO-HEADED ARROW FROM BAR,0FLEFTWARDS DOUBLE,0SRIGH"),
    (0x2908, "00DOWNWARDS ARROW WITH HORIZONTAL STROKE,0YUP,80TRIPLE ARROW,0IDOWN"),
    (0x290C, "06LEFTWARDS DOUBLE DASH,0ORIGH,0DLEFTWARDS TRIP,0ORIGH,CIWO-HEADED"),
    (0x2911, "B0ARROW WITH DOTTED STEM,00UPWARDS ARROW TO BAR,0IDOWN"),
    (0x2914, "00RIGHTWARDS ARROW WITH TAIL WITH VERTICAL STROKE,WGDOUBLE"),
    (0x2916, "B0TWO-HEADED ARROW WITH TAIL,Z0IL WITH VERTICAL STROKE,ZGIL WITH DOUBLE"),
    (0x2919, "00LEFTWARDS ARROW-TAIL,0HRIGH,0BLEFTWARDS DOUBLE,0ORIGH"),
    (0x291D, "00LEFTWARDS ARROW TO BLACK DIAMOND,0TRIGH,0HLEFTWARDS ARROW FROM BAR,0ZRIGHTWA"),
    (0x2921, "00NORTH WEST AND SOUTH EAST ARROW,68EAST AND SOUTH WE,60WEST ARROW WITH HOOK,6IEA"),
    (0x2925, "0NSOU,6IWE,00NORTH WEST ARROW AND NORTH EAST ARROW,6DEAST ARROW AND SOU"),
    (0x2929, "08SOUTH EAST ARROW AND SOUTH WE,6DWEST ARROW AND NOR"),
    (0x292B, "00RISING DIAGONAL CROSSING FALLING DIAGONAL,0CFALLING DIAGONAL CROSSING RIS"),
    (0x292D, "00SOUTH EAST ARROW CROSSING NORTH EAST ARROW,0DNORTH EAST ARROW CROSSING SOU"),
    (0x292F, "0DFALLING DIAGONAL CROSSING NOR,0DRISING DIAGONAL CROSSING SOU"),
    (0x2931, "08NORTH EAST ARROW CROSSING NORTH WE,68WEST ARROW CROSSING NORTH EA"),
    (0x2933, "00WAVE ARROW POINTING DIRECTLY RIGHT"),
    (0x2934, "00ARROW POINTING RIGHTWARDS THEN CURVING UPWARDS,Z5ING DOWN"),
    (0x2936, "F5DOWNWARDS THEN CURVING LEFT,Z6NG RIGH,00RIGHT-SIDE ARC CLOCKWISE ARROW"),
    (0x2939, "0FLEFT-SIDE ARC ANTI,0OTOP,0OBOTTOM,00TOP ARC CLOCKWISE ARROW WITH MINUS"),
    (0x293D, "82ANTICLOCKWISE ARROW WITH PL,00LOWER RIGHT SEMICIRCULAR CLOCKWISE ARROW"),
    (0x293F, "6FLEFT SEMICIRCULAR ANTI,07ANTICLOCKWISE CLOSED CIRCL,0T"),
    (0x2942, "06RIGHTWARDS ARROW ABOVE SHORT LEFTWARDS,0CLEFTWARDS ARROW ABOVE SHORT RIGH"),
    (0x2944, "0CSHORT RIGHTWARDS ARROW ABOVE LEF,02RIGHTWARDS ARROW WITH PLUS BEL,0SLEF"),
    (0x2947, "00RIGHTWARDS ARROW THROUGH X,00LEFT RIGHT ARROW THROUGH SMALL CIRCLE"),
    (0x2949, "0DUPWARDS TWO-HEADED ARROW FROM,00LEFT BARB UP RIGHT BARB DOWN HARPOON"),
    (0x294B, "A8DOWN RIGHT BARB UP,08UP BARB RIGHT DOWN BARB LEFT,89LEFT DOWN BARB RIGH"),
    (0x294E, "08LEFT BARB UP RIGHT BARB UP,08UP BARB RIGHT DOWN BARB RIGHT"),
    (0x2950, "08LEFT BARB DOWN RIGHT BARB DOWN,08UP BARB LEFT DOWN BARB LEFT"),
    (0x2952, "00LEFTWARDS HARPOON WITH BARB UP TO BAR,0YRIGH,07UPWARDS HARPOON WITH BARB RIGHT"),
    (0x2955, "0ZDOWNW,07LEFTWARDS HARPOON WITH BARB DOWN,0ZRIGHT,07UPWARDS HARPOON WITH BARB LEFT"),
    (0x2959, "0ZDOWN,04LEFTWARDS HARPOON WITH BARB UP FROM,0ZRIGHT"),
    (0x295C, "09UPWARDS HARPOON WITH BARB RIGHT,0ZDOWNWAR,09LEFTWARDS HARPOON WITH BARB DOWN"),
    (0x295F, "0ZRIGHTWA,09UPWARDS HARPOON WITH BARB LEFT,0ZDOWNWA"),
    (0x2962, "00LEFTWARDS HARPOON WITH BARB UP ABOVE LEFTWARDS HARPOON WITH BARB DOWN"),
    (0x2963, "00UPWARDS HARPOON WITH BARB LEFT BESIDE UPWARDS HARPOON WITH BARB RIGHT"),
    (0x2964, "00RIGHTWARDS HARPOON WITH BARB UP ABOVE RIGHTWARDS HARPOON WITH BARB DOWN"),
    (0x2965, "00DOWNWARDS HARPOON WITH BARB LEFT BESIDE DOWNWARDS HARPOON WITH BARB RIGHT"),
    (0x2966, "00LEFTWARDS HARPOON WITH BARB UP ABOVE RIGHTWARDS HARPOON WITH BARB UP"),
    (0x2967, "S0DOWN ABOVE RIGHTWARDS HARPOON WITH BARB DOWN"),
    (0x2968, "00RIGHTWARDS HARPOON WITH BARB UP ABOVE LEFTWARDS HARPOON WITH BARB UP"),
    (0x2969, "T0DOWN ABOVE LEFTWARDS HARPOON WITH BARB DOWN"),
    (0x296A, "00LEFTWARDS HARPOON WITH BARB UP ABOVE LONG DASH,SADOWN BELOW"),
    (0x296C, "0ARIGHTWARDS HARPOON WITH BARB UP ABOVE,TADOWN BELOW"),
    (0x296E, "00UPWARDS HARPOON WITH BARB LEFT BESIDE DOWNWARDS HARPOON WITH BARB RIGHT"),
    (0x296F, "0TDOWNWARDS HARPOON WITH BARB LEFT BESIDE UP,00RIGHT DOUBLE ARROW WITH ROUNDED HEAD"),
    (0x2971, "00EQUALS SIGN ABOVE RIGHTWARDS ARROW,0NTILDE OPERATOR"),
    (0x2973, "00LEFTWARDS ARROW ABOVE TILDE OPERATOR,0XRIGH,N0ALMOST EQUAL TO"),
    (0x2976, "00LESS-THAN ABOVE LEFTWARDS ARROW,20FTWARDS ARROW THROUGH LESS-THAN"),
    (0x2978, "00GREATER-THAN ABOVE RIGHTWARDS ARROW,0NSUBSET,00LEFTWARDS ARROW THROUGH SUBSET"),
    (0x297B, "00SUPERSET ABOVE LEFTWARDS ARROW,00LEFT FISH TAIL,0BRIGH,0AUP,0ADOWN"),
    (0x2980, "00TRIPLE VERTICAL BAR DELIMITER,00Z NOTATION SPOT,B0TYPE COLON"),
    (0x2983, "00LEFT WHITE CURLY BRACKET,0LRIGH,00LEFT WHITE PARENTHESIS,0JRIGH"),
    (0x2987, "00Z NOTATION LEFT IMAGE BRACKET,BFRIGH,B8LEFT BINDING,BHRIGH"),
    (0x298B, "00LEFT SQUARE BRACKET WITH UNDERBAR,0URIGH"),
    (0x298D, "01LEFT SQUARE BRACKET WITH TICK IN TOP CORNE"),
    (0x298E, "07RIGHT SQUARE BRACKET WITH TICK IN BOTTOM,0ZLEFT SQUARE"),
    (0x2990, "07RIGHT SQUARE BRACKET WITH TICK IN TOP,00LEFT ANGLE BRACKET WITH DOT,0ORIGH"),
    (0x2993, "01LEFT ARC LESS-THAN BRACKE,0DRIGHT ARC GREATER,0QDOUBLE LEF,7DRIGHT ARC LESS"),
    (0x2997, "08LEFT BLACK TORTOISE SHELL,0URIGH,00DOTTED FENCE,01VERTICAL ZIGZAG LIN"),
    (0x299B, "00MEASURED ANGLE OPENING LEFT,00RIGHT ANGLE VARIANT WITH SQUARE"),
    (0x299D, "00MEASURED RIGHT ANGLE WITH DOT,00ANGLE WITH S INSIDE,11CUTE ANGL"),
    (0x29A0, "00SPHERICAL ANGLE OPENING LEFT,O0UP,00TURNED ANGLE,08REVERS,00ANGLE WITH UNDERBAR"),
    (0x29A5, "0JREVERSED ,00OBLIQUE ANGLE OPENING UP,M0DOWN"),
    (0x29A8, "00MEASURED ANGLE WITH OPEN ARM ENDING IN ARROW POINTING UP AND RIGHT"),
    (0x29A9, "Z1 IN ARROW POINTING UP AND LEF,Z1 IN ARROW POINTING DOWN AND RIGH"),
    (0x29AB, "Z1 IN ARROW POINTING DOWN AND LEF,Z0 IN ARROW POINTING RIGHT AND UP"),
    (0x29AD, "Z8 IN ARROW POINTING LEF,Z0 IN ARROW POINTING RIGHT AND DOWN"),
    (0x29AF, "ZA IN ARROW POINTING LEF,00REVERSED EMPTY SET,00EMPTY SET WITH OVERBAR"),
    (0x29B2, "F0SMALL CIRCLE ABOVE,F6RIGHT ARROW,FDLEF,00CIRCLE WITH HORIZONTAL BAR,66D VERTIC"),
    (0x29B7, "80PARALLEL,80REVERSE SOLIDUS,80PERPENDICULAR"),
    (0x29BA, "62 DIVIDED BY HORIZONTAL BAR AND TOP HALF DIVIDED BY VERTICAL B"),
    (0x29BB, "70WITH SUPERIMPOSED X,60D ANTICLOCKWISE-ROTATED DIVISION SIGN"),
    (0x29BD, "00UP ARROW THROUGH CIRCLE,00CIRCLED WHITE BULLET,86,80LESS-THAN,85GREATER"),
    (0x29C2, "60 WITH SMALL CIRCLE TO THE RIGHT,CDTWO HORIZONTAL STROKES"),
    (0x29C4, "00SQUARED RISING DIAGONAL SLASH,8IFALL,80ASTERISK,80SMALL CIRCLE,91QUAR"),
    (0x29C9, "00TWO JOINED SQUARES,10RIANGLE WITH DOT ABOVE,E0UNDERBAR,00S IN TRIANGLE"),
    (0x29CD, "00TRIANGLE WITH SERIFS AT BOTTOM,00RIGHT TRIANGLE ABOVE LEFT TRIANGLE"),
    (0x29CF, "00LEFT TRIANGLE BESIDE VERTICAL BAR,00VERTICAL BAR BESIDE RIGHT TRIANGLE"),
    (0x29D1, "00BOWTIE WITH LEFT HALF BLACK,CCRIGH,10LACK BOWTIE,00TIMES WITH LEFT HALF BLACK"),
    (0x29D5, "BCRIGH,00WHITE HOURGLASS,0ABLACK,00LEFT WIGGLY FENCE,0ERIGH,0DLEFT DOUBLE,0LRIGH"),
    (0x29DC, "00INCOMPLETE INFINITY,09TIE OVER,00INFINITY NEGATED WITH VERTICAL BAR"),
    (0x29DF, "00DOUBLE-ENDED MULTIMAP,00SQUARE WITH CONTOURED OUTLINE,00INCREASES AS"),
    (0x29E2, "00SHUFFLE PRODUCT,00EQUALS SIGN AND SLANTED PARALLEL,W0 WITH TILDE ABOVE"),
    (0x29E5, "00IDENTICAL TO AND SLANTED PARALLEL,00GLEICH STARK,00THERMODYNAMIC"),
    (0x29E8, "00DOWN-POINTING TRIANGLE WITH LEFT HALF BLACK,SCRIGH"),
    (0x29EA, "00BLACK DIAMOND WITH DOWN ARROW,60LOZENGE,00WHITE CIRCLE WITH DOWN ARROW,0NBLACK"),
    (0x29EE, "00ERROR-BARRED WHITE SQUARE,D7BLACK,D0WHITE DIAMOND,D8BLACK,D0WHITE CIRCLE,D7BLACK"),
    (0x29F4, "00RULE-DELAYED,10EVERSE SOLIDUS OPERATOR,01SOLIDUS WITH OVERBA"),
    (0x29F7, "00REVERSE SOLIDUS WITH HORIZONTAL STROKE,00BIG SOLIDUS,48REVERSE,02DOUBLE PL,07TRIP"),
    (0x29FC, "00LEFT-POINTING CURVED ANGLE BRACKET,0VRIGH,00TINY,03M,00N-ARY CIRCLED DOT OPERATOR"),
    (0x2A01, "E9PLUS,EATIME,60UNION OPERATOR WITH DOT,Q0PLUS,60SQUARE INTERSECTION OPERATOR,DCUN"),
    (0x2A07, "09TWO LOGICAL AND,C9OR,09N-ARY TIMES,00MODULO TWO SUM,00SUMMATION WITH INTEGRAL"),
    (0x2A0C, "00QUADRUPLE INTEGRAL OPERATOR,00FINITE PART INTEGRAL,00INTEGRAL WITH DOUBLE STROKE"),
    (0x2A0F, "90AVERAGE WITH SLASH,00CIRCULATION FUNCTION,04ANTICLOCKWISE INTEGRA"),
    (0x2A12, "00LINE INTEGRATION WITH RECTANGULAR PATH AROUND POLE,MLSEMICIRC,H5NOT INCLUDING THE"),
    (0x2A15, "00INTEGRAL AROUND A POINT OPERATOR,09QUATERNION INTEGRAL"),
    (0x2A17, "00INTEGRAL WITH LEFTWARDS ARROW WITH HOOK,E0TIMES SIGN,E1INTERSECTIO,E3UN,E0OVERBAR"),
    (0x2A1C, "E5UND,00JOIN,00LARGE LEFT TRIANGLE OPERATOR,00Z NOTATION SCHEMA COMPOSITION"),
    (0x2A20, "I0PIPING,J0ROJECTION,00PLUS SIGN WITH SMALL CIRCLE ABOVE,F6CIRCUMFLEX ACCENT"),
    (0x2A24, "F6TILDE,F0DOT BELOW,F6TILDE,F0SUBSCRIPT TWO,F0BLACK TRIANGLE"),
    (0x2A29, "01MINUS SIGN WITH COMMA ABOV,G0DOT BELOW,G0FALLING DOTS,G8RIS"),
    (0x2A2D, "00PLUS SIGN IN LEFT HALF CIRCLE,DDRIGH,00VECTOR OR CROSS PRODUCT"),
    (0x2A30, "00MULTIPLICATION SIGN WITH DOT ABOVE,P0UNDERBAR"),
    (0x2A32, "00SEMIDIRECT PRODUCT WITH BOTTOM CLOSED,10MASH PRODUCT"),
    (0x2A34, "00MULTIPLICATION SIGN IN LEFT HALF CIRCLE,NDRIGH"),
    (0x2A36, "00CIRCLED MULTIPLICATION SIGN WITH CIRCUMFLEX ACCENT"),
    (0x2A37, "00MULTIPLICATION SIGN IN DOUBLE CIRCLE,00CIRCLED DIVISION SIGN"),
    (0x2A39, "00PLUS SIGN IN TRIANGLE,0JMIN,1HULTIPLICATION,00INTERIOR PRODUCT,0GRIGHTHAND "),
    (0x2A3E, "00Z NOTATION RELATIONAL COMPOSITION,00AMALGAMATION OR COPRODUCT"),
    (0x2A40, "01INTERSECTION WITH DO,00UNION WITH MINUS SIGN,B0OVERBAR,0GINTERSECT,I0LOGICAL AND"),
    (0x2A45, "00UNION WITH LOGICAL OR,60ABOVE INTERSECTION,03INTERSECTION ABOVE UN"),
    (0x2A48, "03UNION ABOVE BAR ABOVE INTERSECT,03INTERSECTION ABOVE BAR ABOVE UN"),
    (0x2A4A, "06UNION BESIDE AND JOINED WITH,03INTERSECTION BESIDE AND JOINED WITH INTERSECT"),
    (0x2A4C, "00CLOSED UNION WITH SERIFS,7FINTERSECT,00DOUBLE SQUARE INTERSECTION,E3UN"),
    (0x2A50, "00CLOSED UNION WITH SERIFS AND SMASH PRODUCT,00LOGICAL AND WITH DOT ABOVE,8FOR"),
    (0x2A53, "00DOUBLE LOGICAL AND,F0OR,00TWO INTERSECTING LOGICAL AND,P0OR,03SLOPING LARGE,E0AND"),
    (0x2A59, "04LOGICAL OR OVERLAPPING LOGICAL,80AND WITH MIDDLE STEM,8HOR"),
    (0x2A5C, "80AND WITH HORIZONTAL DASH,8LOR,80AND WITH DOUBLE OVERBAR,H5UND,H9DOUBLE"),
    (0x2A61, "09SMALL VEE WITH,05LOGICAL OR WITH DOUBLE OV,N5UND"),
    (0x2A64, "00Z NOTATION DOMAIN ANTIRESTRICTION,BGRANGE,00EQUALS SIGN WITH DOT BELOW"),
    (0x2A67, "00IDENTICAL WITH DOT ABOVE,01TRIPLE HORIZONTAL BAR WITH DOUBLE VERTICAL STROK"),
    (0x2A69, "RITRIP,11ILDE OPERATOR WITH DOT ABOV,K0RISING DOTS,00SIMILAR MINUS SIMILAR"),
    (0x2A6D, "00CONGRUENT WITH DOT ABOVE,00EQUALS WITH ASTERISK"),
    (0x2A6F, "00ALMOST EQUAL TO WITH CIRCUMFLEX ACCENT,10PPROXIMATELY EQUAL OR EQUAL TO"),
    (0x2A71, "00EQUALS SIGN ABOVE PLUS SIGN,06PLUS SIGN ABOVE EQUAL"),
    (0x2A73, "00EQUALS SIGN ABOVE TILDE OPERATOR,00DOUBLE COLON EQUAL"),
    (0x2A75, "00TWO CONSECUTIVE EQUALS SIGNS,1PHREE"),
    (0x2A77, "00EQUALS SIGN WITH TWO DOTS ABOVE AND TWO DOTS BELOW,30IVALENT WITH FOUR DOTS ABOVE"),
    (0x2A79, "01LESS-THAN WITH CIRCLE INSID,0OGREATER,01LESS-THAN WITH QUESTION MARK ABOV"),
    (0x2A7C, "0UGREATER,00LESS-THAN OR SLANTED EQUAL TO,0PGREATER"),
    (0x2A7F, "00LESS-THAN OR SLANTED EQUAL TO WITH DOT INSIDE,0ZGREATER-THAN "),
    (0x2A81, "01LESS-THAN OR SLANTED EQUAL TO WITH DOT ABOV,0ZGREATER-THAN"),
    (0x2A83, "00LESS-THAN OR SLANTED EQUAL TO WITH DOT ABOVE RIGHT"),
    (0x2A84, "01GREATER-THAN OR SLANTED EQUAL TO WITH DOT ABOVE LEF,00LESS-THAN OR APPROXIMATE"),
    (0x2A86, "0KGREATER,00LESS-THAN AND SINGLE-LINE NOT EQUAL TO,0YGREATER"),
    (0x2A89, "00LESS-THAN AND NOT APPROXIMATE,0PGREATER"),
    (0x2A8B, "00LESS-THAN ABOVE DOUBLE-LINE EQUAL ABOVE GREATER-THAN"),
    (0x2A8C, "05GREATER-THAN ABOVE DOUBLE-LINE EQUAL ABOVE LESS"),
    (0x2A8D, "00LESS-THAN ABOVE SIMILAR OR EQUAL,0SGREATER"),
    (0x2A8F, "00LESS-THAN ABOVE SIMILAR ABOVE GREATER-THAN"),
    (0x2A90, "05GREATER-THAN ABOVE SIMILAR ABOVE LESS"),
    (0x2A91, "00LESS-THAN ABOVE GREATER-THAN ABOVE DOUBLE-LINE EQUAL,0TGREATER-THAN ABOVE LESS"),
    (0x2A93, "06LESS-THAN ABOVE SLANTED EQUAL ABOVE GREATER-THAN ABOVE SLANTED"),
    (0x2A94, "0PGREATER-THAN ABOVE SLANTED EQUAL ABOVE LESS,00SLANTED EQUAL TO OR LESS-THAN"),
    (0x2A96, "K5GREATER,K0LESS-THAN WITH DOT INSIDE,KLGREATER,00DOUBLE-LINE EQUAL TO OR LESS-THAN"),
    (0x2A9A, "O5GREATER,C5SLANTED EQUAL TO OR LESS,W5GREATER,05SIMILAR OR LESS,B5GREATER"),
    (0x2A9F, "81ABOVE LESS-THAN ABOVE EQUALS SIG,ENGREATER,01DOUBLE NESTED LESS-THA,E5GREATER"),
    (0x2AA3, "E0LESS-THAN WITH UNDERBAR,00GREATER-THAN OVERLAPPING LESS-THAN,DABESIDE"),
    (0x2AA6, "00LESS-THAN CLOSED BY CURVE,0LGREATER"),
    (0x2AA8, "00LESS-THAN CLOSED BY CURVE ABOVE SLANTED EQUAL,0ZGREATER-THAN ,00SMALLER THAN"),
    (0x2AAB, "07LARG,00SMALLER THAN OR EQUAL TO,0JLARG,00EQUALS SIGN WITH BUMPY ABOVE"),
    (0x2AAF, "00PRECEDES ABOVE SINGLE-LINE EQUALS SIGN,0VSUCCEED"),
    (0x2AB1, "00PRECEDES ABOVE SINGLE-LINE NOT EQUAL TO,0WSUCCEED,00PRECEDES ABOVE EQUALS SIGN"),
    (0x2AB4, "0JSUCCEED,00PRECEDES ABOVE NOT EQUAL TO,0KSUCCEED,0APRECEDES ABOVE ALMOS,0NSUCCEED"),
    (0x2AB9, "0GPRECEDES ABOVE NOT,0RSUCCEED,00DOUBLE PRECEDES,71SUCCEED,00SUBSET WITH DOT,2CPER"),
    (0x2ABF, "20BSET WITH PLUS SIGN BELOW,2OPER,2BBSET WITH MULTIPLICATION,2YPER"),
    (0x2AC3, "20BSET OF OR EQUAL TO WITH DOT ABOVE,2XPER,20BSET OF ABOVE EQUALS SIGN,2OPER"),
    (0x2AC7, "20BSET OF ABOVE TILDE OPERATOR,2RPER,20BSET OF ABOVE ALMOST EQUAL TO,2SPER"),
    (0x2ACB, "2ABSET OF ABOVE NO,2PPER,10QUARE LEFT OPEN BOX OPERATOR,7JRIGH,00CLOSED SUBSET"),
    (0x2AD0, "93PER,90BSET OR EQUAL TO,9FPER,00SUBSET ABOVE SUPERSET,23PERSET ABOVE SUB,2GB"),
    (0x2AD6, "23PERSET ABOVE SUPER,93BESIDE SUB,G7AND JOINED BY DASH WITH"),
    (0x2AD9, "00ELEMENT OF OPENING DOWNWARDS,00PITCHFORK WITH TEE TOP,00TRANSVERSAL INTERSECTION"),
    (0x2ADC, "00FORKING,07NON,00SHORT LEFT TACK,65DOWN,65UP,00PERPENDICULAR WITH S"),
    (0x2AE2, "00VERTICAL BAR TRIPLE RIGHT TURNSTILE,0BDOUBLE VERTICAL BAR LEF"),
    (0x2AE4, "0FVERTICAL BAR DOUBLE,0YDOUBLE ,00LONG DASH FROM LEFT MEMBER OF DOUBLE VERTICAL"),
    (0x2AE7, "00SHORT DOWN TACK WITH OVERBAR,65UP TACK WITH UND,E0ABOVE SHORT DOWN TACK,0ADOUBLE"),
    (0x2AEB, "75UP,70STROKE NOT SIGN,0MREVERSED ,00DOES NOT DIVIDE WITH REVERSED NEGATION SLASH"),
    (0x2AEF, "00VERTICAL LINE WITH CIRCLE ABOVE,Q0BELOW,0IDOWN TACK"),
    (0x2AF2, "00PARALLEL WITH HORIZONTAL STROKE,E0TILDE OPERATOR"),
    (0x2AF4, "00TRIPLE VERTICAL BAR BINARY RELATION,K0WITH HORIZONTAL STROKE,70COLON OPERATOR"),
    (0x2AF7, "70NESTED LESS-THAN,E5GREATER,00DOUBLE-LINE SLANTED LESS-THAN OR EQUAL TO,KHGREATER"),
    (0x2AFB, "00TRIPLE SOLIDUS BINARY RELATION,00LARGE TRIPLE VERTICAL BAR OPERATOR"),
    (0x2AFD, "09DOUBLE SOLIDUS,01WHITE VERTICAL BA,0IN-ARY ,10ORTH EAST WHITE ARROW,6EWE"),
    (0x2B02, "0ESOUTH EA,6EWE,0DLEFT RIGH,46WARDS BLACK,0HUP,0HDOWN,0CNORTH EAST,6EWE,0ESOUTH EA"),
    (0x2B0B, "6EWE,0DLEFT RIGH,0CUP DOWN,00RIGHTWARDS ARROW WITH TIP DOWNWARDS,Q5UP"),
    (0x2B10, "05LEFTWARDS ARROW WITH TIP DOWN,P5UP,00SQUARE WITH TOP HALF BLACK,CBBOTTOM"),
    (0x2B14, "CBUPPER RIGHT DIAGONAL,CLLOWER LEF,0BDIAMOND WITH LEFT,DCRIGH,DBTOP,DBBOTTOM"),
    (0x2B1A, "10OTTED SQUARE,07BLACK LARGE,0DWHITE,07BLACK VERY SMALL,0IWHITE,00BLACK PENTAGON"),
    (0x2B20, "09WHITE,64HEX,08BLACK,0DHORIZONTAL ,00BLACK LARGE CIRCLE,60MEDIUM DIAMOND,0FWHITE"),
    (0x2B27, "00BLACK MEDIUM LOZENGE,0FWHITE,00BLACK SMALL DIAMOND,C0LOZENGE,0EWHITE"),
    (0x2B2C, "01BLACK HORIZONTAL ELLIPS,0JWHITE,0ABLACK VERTIC,0HWHITE"),
    (0x2B30, "01LEFT ARROW WITH SMALL CIRCL,00THREE LEFTWARDS ARROWS"),
    (0x2B32, "01LEFT ARROW WITH CIRCLED PLU,10ONG LEFTWARDS SQUIGGLE ARROW"),
    (0x2B34, "10EFTWARDS TWO-HEADED ARROW WITH VERTICAL STROKE,WGDOUBLE,R0FROM BAR"),
    (0x2B37, "L0TRIPLE DASH ARROW,A0ARROW WITH DOTTED STEM,L0TAIL WITH VERTICAL STROKE,VGDOUBLE"),
    (0x2B3B, "A0TWO-HEADED ARROW WITH TAIL,Z0L WITH VERTICAL STROKE,ZGL WITH DOUBLE"),
    (0x2B3E, "A0ARROW THROUGH X,00WAVE ARROW POINTING DIRECTLY LEFT"),
    (0x2B40, "00EQUALS SIGN ABOVE LEFTWARDS ARROW,0MREVERSE TILDE OPERATOR"),
    (0x2B42, "00LEFTWARDS ARROW ABOVE REVERSE ALMOST EQUAL TO"),
    (0x2B43, "00RIGHTWARDS ARROW THROUGH GREATER-THAN,P0SUPERSET,00LEFTWARDS QUADRUPLE ARROW"),
    (0x2B46, "0MRIGH,16EVERSE TILDE OPERATOR ABOVE RIGHTWARDS"),
    (0x2B48, "10IGHTWARDS ARROW ABOVE REVERSE ALMOST EQUAL TO"),
    (0x2B49, "00TILDE OPERATOR ABOVE LEFTWARDS ARROW,00LEFTWARDS ARROW ABOVE ALMOST EQUAL TO"),
    (0x2B4B, "M0REVERSE TILDE OPERATOR,0ZRIGHTWARDS,00DOWNWARDS TRIANGLE-HEADED ZIGZAG ARROW"),
    (0x2B4E, "06SHORT SLANTED NORTH,68BACKSLANTED SOU,00WHITE MEDIUM STAR,05BLACK SMALL,0BWHITE"),
    (0x2B53, "00BLACK RIGHT-POINTING PENTAGON,0OWHITE,00HEAVY LARGE CIRCLE,61OVAL WITH OVAL INSID"),
    (0x2B57, "67CIRCLE WITH CIRCLE,C0,C1D SALTIR,00SLANTED NORTH ARROW WITH HOOKED HEAD"),
    (0x2B5B, "00BACKSLANTED SOUTH ARROW WITH HOOKED TAIL,05SLANTED NORTH ARROW WITH HORIZONTAL"),
    (0x2B5D, "0TBACKSLANTED SOU,10ENT ARROW POINTING DOWNWARDS THEN NORTH EAST,0ZSHORT BENT ARROW"),
    (0x2B60, "00LEFTWARDS TRIANGLE-HEADED ARROW,0RUP,0RRIGHT,0RDOWN,0MLEFT RIGHT,0MUP DOWN"),
    (0x2B66, "0MNORTH WEST,6OEA,0TSOU,6OWE,08LEFTWARDS TRIANGLE-HEADED DASH,0YUP,0YRIGHT,0YDOWN"),
    (0x2B6E, "06CLOCKWISE TRIANGLE-HEADED OPEN CIRCLE,0ZANTICLOCKWIS"),
    (0x2B70, "00LEFTWARDS TRIANGLE-HEADED ARROW TO BAR,0YUP,0YRIGHT,0YDOWN")
  ]

/-- Names from U+2B76 on, below U+A8CE. -/
def namesFrom2B76 : List (Nat × String) :=
  [
    (0x2B76, "00NORTH WEST TRIANGLE-HEADED ARROW TO BAR,6VEA,0ZSOUT,6VWE"),
    (0x2B7A, "00LEFTWARDS TRIANGLE-HEADED ARROW WITH DOUBLE HORIZONTAL STROKE"),
    (0x2B7B, "0ZUPWARDS TRIANGLE-HEADED ,0ZRIGHTWARDS TRIANGLE-HEADED "),
    (0x2B7D, "0ZDOWNWARDS TRIANGLE-HEADED ,00HORIZONTAL TAB KEY,0AVERTIC"),
    (0x2B80, "00LEFTWARDS TRIANGLE-HEADED ARROW OVER RIGHTWARDS TRIANGLE-HEADED ARROW"),
    (0x2B81, "0RUPWARDS TRIANGLE-HEADED ARROW LEFTWARDS OF DOWN"),
    (0x2B82, "0RRIGHTWARDS TRIANGLE-HEADED ARROW OVER LEFT"),
    (0x2B83, "0RDOWNWARDS TRIANGLE-HEADED ARROW LEFTWARDS OF UP"),
    (0x2B84, "00LEFTWARDS TRIANGLE-HEADED PAIRED ARROWS,0ZUP,0ZRIGHT,0ZDOWN"),
    (0x2B88, "00LEFTWARDS BLACK CIRCLED WHITE ARROW,0VUP,0VRIGHT,0VDOWN"),
    (0x2B8C, "06ANTICLOCKWISE TRIANGLE-HEADED RIGHT U-SHAPED,UFBOTTOM,UFLEFT,UFTOP,00RETURN LEFT"),
    (0x2B91, "71RIGH,01NEWLINE LEF,81RIGH,00FOUR CORNER ARROWS CIRCLING ANTICLOCKWISE"),
    (0x2B95, "00RIGHTWARDS BLACK ARROW"),
    (0x2B97, "00SYMBOL FOR TYPE A ELECTRONICS"),
    (0x2B98, "00THREE-D TOP-LIGHTED LEFTWARDS EQUILATERAL ARROWHEAD,8RRIGHT-LIGHTED UP"),
    (0x2B9A, "8RTOP-LIGHTED RIGHT,8RLEFT-LIGHTED DOWN,0RBLACK LEFT,6RUP,6RRIGHT,6RDOWN"),
    (0x2BA0, "00DOWNWARDS TRIANGLE-HEADED ARROW WITH LONG TIP LEFTWARDS,Z6H LONG TIP RIGH"),
    (0x2BA2, "06UPWARDS TRIANGLE-HEADED ARROW WITH LONG TIP LEF,Z6LONG TIP RIGH"),
    (0x2BA4, "05LEFTWARDS TRIANGLE-HEADED ARROW WITH LONG TIP UP,0ZRIGHTWARDS TRIANGLE"),
    (0x2BA6, "05LEFTWARDS TRIANGLE-HEADED ARROW WITH LONG TIP DOWN,0ZRIGHTWARDS TRIANGLE-H"),
    (0x2BA8, "00BLACK CURVED DOWNWARDS AND LEFTWARDS ARROW,RCRIGH,DCUPWARDS AND LEF,PCRIGH"),
    (0x2BAC, "DBLEFTWARDS AND UP,DORIGH,DBLEFTWARDS AND DOWN,DQRIGH,00RIBBON ARROW DOWN LEFT"),
    (0x2BB1, "I1RIGH,D1UP LEF,G1RIGH,D0LEFT UP,D4RIGH,D0LEFT DOWN,D6RIGH"),
    (0x2BB8, "00UPWARDS WHITE ARROW FROM BAR WITH HORIZONTAL BAR,20 ARROWHEAD IN A RECTANGLE BOX"),
    (0x2BBA, "00OVERLAPPING WHITE SQUARES,I8AND BLACK,CD,00BALLOT BOX WITH LIGHT X,02CIRCLED"),
    (0x2BBF, "83BOL,00BLACK SQUARE CENTRED,68DIAMOND,00TURNED BLACK PENTAGON"),
    (0x2BC3, "05HORIZONTAL BLACK OC,0D,60MEDIUM UP-POINTING TRIANGLE CENTRED,DQDOWN,DQLEFT,DRRIGH"),
    (0x2BC9, "00NEPTUNE FORM TWO,00TOP HALF BLACK CIRCLE,0IBOTTOM,00LIGHT FOUR POINTED BLACK CUSP"),
    (0x2BCD, "0TROTATED ,05WHITE FOUR POINTED,0NROTATED ,00SQUARE POSITION INDICATOR"),
    (0x2BD1, "00UNCERTAINTY SIGN,00GROUP MARK,00PLUTO FORM TWO,C0HREE,B0FOUR,C0IVE,00TRANSPLUTO"),
    (0x2BD8, "00PROSERPINA,01ASTRAE,02HYGI,00PHOLUS,02NESS,00WHITE MOON SELENA"),
    (0x2BDE, "00BLACK DIAMOND ON CROSS,00TRUE LIGHT MOON ARTA,00CUPIDO,00HADES,01ZEU,01KRONO"),
    (0x2BE4, "00APOLLON,10DMETOS,01VULCANU,00POSEIDON,00LEFT HALF BLACK STAR,0HRIGH"),
    (0x2BEA, "00STAR WITH LEFT HALF BLACK,ACRIGH"),
    (0x2BEC, "00LEFTWARDS TWO-HEADED ARROW WITH TRIANGLE ARROWHEADS,0ZUPWARDS TWO-HE"),
    (0x2BEE, "0ZRIGHTWARDS TWO-HE,0ZDOWNWARDS TWO-HE,00ERIS FORM ONE,A0TWO,00SEDNA"),
    (0x2BF3, "00RUSSIAN ASTROLOGICAL SYMBOL VIGINTILE,S3NOV,S3QUINT,S3BINOV,S0SENTAGON"),
    (0x2BF8, "S0TREDECILE,00EQUALS SIGN WITH INFINITY BELOW,00UNITED SYMBOL,0ASEPARA,09DOUBL"),
    (0x2BFD, "09PASS,00REVERSED RIGHT ANGLE,00HELLSCHREIBER PAUSE SYMBOL"),
    (0x2C00, "00GLAGOLITIC CAPITAL LETTER AZU,Q0BUKY,Q0VEDE,Q0GLAGOLI,Q0DOBRO,Q0YESTU,Q0ZHIVETE"),
    (0x2C07, "Q0DZELO,Q0ZEMLJA,Q0IZHE,R5NITIAL,R0,Q1DJERV,Q0KAKO,Q0LJUDIJE,Q1MYSLIT,Q0NASHI,Q0ONU"),
    (0x2C12, "Q0POKOJI,Q1RITS,Q0SLOVO,Q1TVRID,Q0UKU,Q1FRIT,Q1HER,Q1OT,Q0PE,Q0SHTA,Q0TSI,Q1CHRIV"),
    (0x2C1E, "Q0SHA,Q0YERU,T0I,R1AT,Q0SPIDERY HA,Q0YU,Q0SMALL YUS,Z0 WITH TAIL,Q0YO"),
    (0x2C27, "Q0IOTATED SMALL YUS,Q4BIG,Q8IOTATED,Q0FITA,Q1IZHITS,Q0SHTAPIC,Q0TROKUTASTI A"),
    (0x2C2E, "Q0LATINATE MYSLITE,Q0CAUDATE CHRIVI,B0SMALL LETTER AZU,O0BUKY,O0VEDE,O0GLAGOLI"),
    (0x2C34, "O0DOBRO,O0YESTU,O0ZHIVETE,O0DZELO,O0ZEMLJA,O0IZHE,P5NITIAL,P0,O1DJERV,O0KAKO"),
    (0x2C3E, "O0LJUDIJE,O1MYSLIT,O0NASHI,O0ONU,O0POKOJI,O1RITS,O0SLOVO,O1TVRID,O0UKU,O1FRIT,O1HER"),
    (0x2C49, "O1OT,O0PE,O0SHTA,O0TSI,O1CHRIV,O0SHA,O0YERU,R0I,P1AT,O0SPIDERY HA,O0YU,O0SMALL YUS"),
    (0x2C55, "X0 WITH TAIL,O0YO,O0IOTATED SMALL YUS,O4BIG,O8IOTATED,O0FITA,O1IZHITS,O0SHTAPIC"),
    (0x2C5D, "O0TROKUTASTI A,O0LATINATE MYSLITE,O0CAUDATE CHRIVI"),
    (0x2C60, "00LATIN CAPITAL LETTER L WITH DOUBLE BAR,6QSMAL"),
    (0x2C62, "60CAPITAL LETTER L WITH MIDDLE TILDE,L1P WITH STROK,L0R WITH TAIL"),
    (0x2C65, "60SMALL LETTER A WITH STROKE,J7T WITH DIAGONAL,60CAPITAL LETTER H WITH DESCENDER"),
    (0x2C68, "6PSMAL,6FCAPITAL LETTER K,6PSMAL,6FCAPITAL LETTER Z,6PSMAL,60CAPITAL LETTER ALPHA"),
    (0x2C6E, "L0M WITH HOOK,L0TURNED A,T1LPH,60SMALL LETTER V WITH RIGHT HOOK"),
    (0x2C72, "65CAPITAL LETTER W WITH,6KSMAL,J0V WITH CURL,60CAPITAL LETTER HALF H,6FSMAL"),
    (0x2C77, "J0TAILLESS PHI,J0E WITH NOTCH,J0TURNED R WITH TAIL,J0O WITH LOW RING INSIDE"),
    (0x2C7B, "61LETTER SMALL CAPITAL TURNED ,60SUBSCRIPT SMALL LETTER J"),
    (0x2C7D, "00MODIFIER LETTER CAPITAL V,00LATIN CAPITAL LETTER S WITH SWASH TAIL,LGZ"),
    (0x2C80, "00COPTIC CAPITAL LETTER ALFA,7DSMAL,71CAPITAL LETTER VID,7DSMAL"),
    (0x2C84, "71CAPITAL LETTER GAMM,7ESMAL,71CAPITAL LETTER DALD,7ESMAL,70CAPITAL LETTER EIE"),
    (0x2C89, "7CSMAL,70CAPITAL LETTER SOU,7CSMAL,70CAPITAL LETTER ZATA,7DSMAL"),
    (0x2C8E, "70CAPITAL LETTER HATE,7DSMAL,71CAPITAL LETTER THETH,7FSMAL,70CAPITAL LETTER IAUDA"),
    (0x2C93, "7ESMAL,71CAPITAL LETTER KAP,7DSMAL,71CAPITAL LETTER LAUL,7ESMAL,70CAPITAL LETTER MI"),
    (0x2C99, "7BSMAL,71CAPITAL LETTER N,7BSMAL,71CAPITAL LETTER KS,7CSMAL,70CAPITAL LETTER O"),
    (0x2C9F, "7ASMAL,70CAPITAL LETTER PI,7BSMAL,70CAPITAL LETTER RO,7BSMAL,70CAPITAL LETTER SIMA"),
    (0x2CA5, "7DSMAL,70CAPITAL LETTER TAU,7CSMAL,70CAPITAL LETTER UA,7BSMAL,70CAPITAL LETTER FI"),
    (0x2CAB, "7BSMAL,71CAPITAL LETTER KH,7CSMAL,71CAPITAL LETTER PS,7CSMAL,70CAPITAL LETTER OOU"),
    (0x2CB1, "7CSMAL,70CAPITAL LETTER DIALECT-P ALEF,7NSMAL,70CAPITAL LETTER OLD COPTIC AIN"),
    (0x2CB5, "7NSMAL,70CAPITAL LETTER CRYPTOGRAMMIC EIE,7QSMAL,70CAPITAL LETTER DIALECT-P KAPA"),
    (0x2CB9, "7NSMAL,70CAPITAL LETTER DIALECT-P NI,7LSMAL,73CAPITAL LETTER CRYPTOGRAMMIC,7PSMAL"),
    (0x2CBE, "70CAPITAL LETTER OLD COPTIC OOU,7NSMAL,70CAPITAL LETTER SAMPI,7ESMAL"),
    (0x2CC2, "71CAPITAL LETTER CROSSED SHE,7LSMAL,75CAPITAL LETTER OLD COPTIC,7OSMAL"),
    (0x2CC6, "70CAPITAL LETTER OLD COPTIC ESH,7NSMAL,70CAPITAL LETTER AKHMIMIC KHEI,7MSMAL"),
    (0x2CCA, "71CAPITAL LETTER DIALECT-P HOR,7NSMAL,75CAPITAL LETTER OLD COPTIC,7OSMAL"),
    (0x2CCE, "70CAPITAL LETTER OLD COPTIC HA,7MSMAL,73CAPITAL LETTER L-SHAPED,7KSMAL"),
    (0x2CD2, "70CAPITAL LETTER OLD COPTIC HEI,7NSMAL,70CAPITAL LETTER OLD COPTIC HAT,7NSMAL"),
    (0x2CD6, "70CAPITAL LETTER OLD COPTIC GANGIA,7QSMAL,71CAPITAL LETTER OLD COPTIC DJ,7NSMAL"),
    (0x2CDA, "71CAPITAL LETTER OLD COPTIC SHIM,7PSMAL,76CAPITAL LETTER OLD NUBIAN,7PSMAL"),
    (0x2CDE, "70CAPITAL LETTER OLD NUBIAN NGI,7NSMAL,71CAPITAL LETTER OLD NUBIAN NY,7NSMAL"),
    (0x2CE2, "70CAPITAL LETTER OLD NUBIAN WAU,7NSMAL,80YMBOL KAI,E0MI RO,E4P,E0STAUROS,E0TAU RO"),
    (0x2CE9, "E3KHI,E0SHIMA SIMA,70CAPITAL LETTER CRYPTOGRAMMIC SHEI,7RSMAL"),
    (0x2CED, "70CAPITAL LETTER CRYPTOGRAMMIC GANGIA,7TSMAL,70COMBINING NI ABOVE,H0SPIRITUS ASPER"),
    (0x2CF1, "Q0LENIS,80APITAL LETTER BOHAIRIC KHEI,7MSMAL"),
    (0x2CF9, "70OLD NUBIAN FULL STOP,I0DIRECT QUESTION MARK,IKIN,I0VERSE DIVIDER"),
    (0x2CFD, "70FRACTION ONE HALF,80ULL STOP,70MORPHOLOGICAL DIVIDER,00GEORGIAN SMALL LETTER AN"),
    (0x2D01, "M2B,M2G,M1DO,M1E,M1VI,M1ZE,M1TA,M1I,M1KA,M0LAS,M0MAN,M0NAR,M0ON,M0PAR,M2ZH,M0RAE"),
    (0x2D11, "M0SAN,M0TAR,M0UN,M0PHAR,M3K,M0GHAN,M0QAR,M0SHIN,M3C,N1A,M0JIL,M2C,N0HAR,M0XAN,M2JH"),
    (0x2D20, "M0HAE,N1,N1I,M1W,M0HAR,N0OE"),
    (0x2D27, "M0YN"),
    (0x2D2D, "M1AE"),
    (0x2D30, "00TIFINAGH LETTER YA,I0B,J0H,I0G,J0HH,G0BERBER ACADEMY YAJ,G3,I0D,J0H,J0D,K0H,H0EY"),
    (0x2D3C, "H0AF,I0K,G4TUAREG,G0YAKHH,I1,G4BERBER ACADEMY,G4TUAREG,G1YAH,I0A,I0KH,G5TUAREG"),
    (0x2D47, "G0YAQ,G4TUAREG,G0YI,H0AZH,G6AHAGGA,G5TUAREG,G0YAL,I0M,I0N,G1TUAREG YAG,P0NG,G0YAP"),
    (0x2D53, "H0U,H0AR,J1,I0GH,G5TUAREG,G5AYER,G0YAS,J1,J0H,I0T,J0H,I1C,I0TT,I0V,I0W,I0Y,I0Z"),
    (0x2D64, "G4TAWELLEMET,G1YAZ,H0E,H0O"),
    (0x2D6F, "90MODIFIER LETTER LABIALIZATION MARK,95SEPARATOR"),
    (0x2D7F, "90CONSONANT JOINER,00ETHIOPIC SYLLABLE LOA,I2M,I2R,I2S,J2H,I2B,I2T,I2C,I2N,J2Y"),
    (0x2D8A, "I2GLOTTAL ,I2Z,I2D,J3,I2J,I2TH,I3C,I3P,J2,I1GGW,L0I,L0EE,M0"),
    (0x2DA0, "I0SSA,K0U,K0I,K0AA,K0EE,L0,K0O"),
    (0x2DA8, "I0CCA,K0U,K0I,K0AA,K0EE,L0,K0O"),
    (0x2DB0, "I0ZZA,K0U,K0I,K0AA,K0EE,L0,K0O"),
    (0x2DB8, "I0CCHA,L0U,L0I,L0AA,L0EE,M0,L0O"),
    (0x2DC0, "I0QYA,K0U,K0I,K0AA,K0EE,L0,K0O"),
    (0x2DC8, "I0KYA,K0U,K0I,K0AA,K0EE,L0,K0O"),
    (0x2DD0, "I0XYA,K0U,K0I,K0AA,K0EE,L0,K0O"),
    (0x2DD8, "I0GYA,K0U,K0I,K0AA,K0EE,L0,K0O"),
    (0x2DE0, "00COMBINING CYRILLIC LETTER BE,Q1V,Q1GH,Q1D,Q1ZH,R1,Q0KA,Q0EL,R0M,R0N,Q0O,Q0PE,Q0ER"),
    (0x2DED, "R0S,Q0TE,Q0HA,Q0TSE,Q1CH,Q0SHA,S2C,Q1FIT,Q0ES-TE,Q0A,Q0IE,Q0DJERV,Q0MONOGRAPH UK"),
    (0x2DFA, "Q0YAT,R0U,Q0IOTIFIED A,Q0LITTLE YUS,Q4BIG,Q8IOTIFIED"),
    (0x2E00, "00RIGHT ANGLE SUBSTITUTION MARKER,CKDOTTED,00LEFT SUBSTITUTION BRACKET,0MRIGH"),
    (0x2E04, "0LLEFT DOTTED,0TRIGH,10AISED INTERPOLATION MARKER,7NDOTT,0BDOTTED TRANSPOSI"),
    (0x2E09, "00LEFT TRANSPOSITION BRACKET,0NRIGH,10AISED SQUARE,00LEFT RAISED OMISSION BRACKET"),
    (0x2E0D, "0PRIGH,00EDITORIAL CORONIS,01PARAGRAPHO,0BFORKED ,0IREVERSED ,00HYPODIASTOLE"),
    (0x2E13, "00DOTTED OBELOS,20WNWARDS ANCORA,0CUP,00DOTTED RIGHT-POINTING ANGLE"),
    (0x2E17, "20UBLE OBLIQUE HYPHEN,00INVERTED INTERROBANG,00PALM BRANCH,00HYPHEN WITH DIAERESIS"),
    (0x2E1B, "00TILDE WITH RING ABOVE,00LEFT LOW PARAPHRASE BRACKET,0ORIGH,00TILDE WITH DOT ABOVE"),
    (0x2E1F, "F0BELOW,00LEFT VERTICAL BAR WITH QUILL,0PRIGH,00TOP LEFT HALF BRACKET,4ERIGH"),
    (0x2E24, "0EBOTTOM LEF,7ERIGH,08LEFT SIDEWAYS U,0KRIGH,00LEFT DOUBLE PARENTHESIS,0KRIGH"),
    (0x2E2A, "00TWO DOTS OVER ONE DOT PUNCTUATION,0CONE DOT OVER TWO DOTS,0CSQUARED FOUR DOT"),
    (0x2E2D, "00FIVE DOT MARK,05REVERSED QUESTION,00VERTICAL TILDE,00RING POINT"),
    (0x2E31, "01WORD SEPARATOR MIDDLE DO,00TURNED COMMA,00RAISED DOT,70COMMA,00TURNED SEMICOLON"),
    (0x2E36, "00DAGGER WITH LEFT GUARD,C7RIGH,00TURNED DAGGER,10OP HALF SECTION SIGN,10WO-EM DASH"),
    (0x2E3B, "18HREE,00STENOGRAPHIC FULL STOP,00VERTICAL SIX DOTS,00WIGGLY VERTICAL LINE"),
    (0x2E3F, "00CAPITULUM,00DOUBLE HYPHEN,00REVERSED COMMA,00DOUBLE LOW-REVERSED-9 QUOTATION MARK"),
    (0x2E43, "10ASH WITH LEFT UPTURN,10OUBLE SUSPENSION MARK,00INVERTED LOW KAVYKA"),
    (0x2E46, "J0 WITH KAVYKA ABOVE,00LOW KAVYKA,A0 WITH DOT,00DOUBLE STACKED COMMA,20TTED SOLIDUS"),
    (0x2E4B, "00TRIPLE DAGGER,00MEDIEVAL COMMA,00PARAGRAPHUS MARK,17UNCTUS ELEVAT"),
    (0x2E4F, "00CORNISH VERSE DIVIDER,11ROSS PATTY WITH RIGHT CROSSBA,HALEF"),
    (0x2E52, "00TIRONIAN SIGN CAPITAL ET,00MEDIEVAL EXCLAMATION MARK,99QUES"),
    (0x2E55, "00LEFT SQUARE BRACKET WITH STROKE,0SRIGH,07LEFT SQUARE BRACKET WITH DOUBLE,0ZRIGH"),
    (0x2E59, "00TOP HALF LEFT PARENTHESIS,9DRIGH,0DBOTTOM HALF LEF,CDRIGH,00OBLIQUE HYPHEN"),
    (0x2E80, "00CJK RADICAL REPEAT,C0CLIFF,C0SECOND ONE,J0TWO,K0HREE,C0PERSON,C0BOX,C0TABLE"),
    (0x2E88, "C1KNIFE ON,I0TWO,C0DIVINATION,C0SEAL,D0MALL ONE,I0TWO,C0LAME ONE,H0TWO,I0HREE"),
    (0x2E91, "H0FOUR,C0SNAKE,C0THREAD,C0SNOUT ONE,I0TWO,C0HEART ONE,I0TWO,D0AND,C0RAP"),
    (0x2E9B, "C0CHOKE,C0SUN,C1MOO,C0DEATH,C0MOTHER,C0CIVILIAN,C0WATER ONE,I0TWO,C0FIRE,C1PAW ON"),
    (0x2EA5, "G0TWO,C0SIMPLIFIED HALF TREE TRUNK,C0COW,C0DOG,C0JADE,C0BOLT OF CLOTH,C0EYE"),
    (0x2EAC, "C1SPIRIT ON,J0TWO,C1BAMBO,C0SILK,C5C-SIMPLIFIED,C0NET ONE,G0TWO,H0HREE,G0FOUR"),
    (0x2EB5, "C0MESH,C0SHEEP,C0RAM,C0EWE,C0OLD,C0BRUSH ONE,I0TWO,C0MEAT,D0ORTAR,C0GRASS ONE,I0TWO"),
    (0x2EC0, "J0HREE,C0TIGER,C0CLOTHES,C0WEST ONE,H0TWO,C0C-SIMPLIFIED SEE,C0SIMPLIFIED HORN,C4"),
    (0x2EC8, "C0C-SIMPLIFIED SPEECH,Q0HELL,C0FOOT,C1C-SIMPLIFIED CAR,C0SIMPLIFIED WALK,C0WALK ONE"),
    (0x2ECE, "H0TWO,C0CITY,D0-SIMPLIFIED GOLD,C0LONG ONE,H0TWO,C0C-SIMPLIFIED LONG,P0GATE"),
    (0x2ED5, "C1MOUND ON,I0TWO,C0RAIN,C0BLUE,C0C-SIMPLIFIED TANNED LEATHER,P0LEAF,P0WIND,P0FLY"),
    (0x2EDD, "C0EAT ONE,G0TWO,H0HREE,C0C-SIMPLIFIED EAT,C0HEAD,C0C-SIMPLIFIED HORSE,C1BON,C0GHOST"),
    (0x2EE5, "C0C-SIMPLIFIED FISH,P0BIRD,P0SALT,C1SIMPLIFIED WHEA,N0YELLOW,C0C-SIMPLIFIED FROG"),
    (0x2EEB, "C0J-SIMPLIFIED EVEN,CGC,C0J-SIMPLIFIED TOOTH,CHC,C0J-SIMPLIFIED DRAGON,CIC,C0TURTLE"),
    (0x2EF2, "C7J-SIMPLIFIED,CIC"),
    (0x2F00, "01KANGXI RADICAL ON,F2LI,F0DOT,F0SLASH,G0ECOND,F0HOOK,F0TWO,F0LID,F0MAN,F0LEGS"),
    (0x2F0A, "F0ENTER,G0IGHT,F0DOWN BOX,F0COVER,F0ICE,F1TABL,F0OPEN BOX,F0KNIFE,F0POWER,F0WRAP"),
    (0x2F14, "F0SPOON,F0RIGHT OPEN BOX,F0HIDING ENCLOSURE,F0TEN,F1DIVINATIO,F0SEAL,F0CLIFF"),
    (0x2F1B, "F0PRIVATE,F0AGAIN,F0MOUTH,F0ENCLOSURE,G0ARTH,F0SCHOLAR,F0GO,H0 SLOWLY,F0EVENING"),
    (0x2F24, "F1BI,F0WOMAN,F0CHILD,F0ROOF,F0INCH,F0SMALL,F0LAME,F1CORPS,F0SPROUT,F0MOUNTAIN"),
    (0x2F2E, "F0RIVER,F0WORK,F0ONESELF,F0TURBAN,F0DRY,F0SHORT THREAD,F0DOTTED CLIFF,F0LONG STRIDE"),
    (0x2F36, "F0TWO HANDS,F0SHOOT,F0BOW,F0SNOUT,F0BRISTLE,F0STEP,F0HEART,G0ALBERD,F0DOOR,F0HAND"),
    (0x2F40, "F0BRANCH,F0RAP,F0SCRIPT,F0DIPPER,F0AXE,F1SQUAR,F0NOT,F0SUN,G0AY,F0MOON,F0TREE"),
    (0x2F4B, "F0LACK,F0STOP,F0DEATH,F0WEAPON,F0DO NOT,F0COMPARE,F0FUR,F0CLAN,F0STEAM,F0WATER"),
    (0x2F55, "F0FIRE,F0CLAW,F0FATHER,F0DOUBLE X,F0HALF TREE TRUNK,F0SLICE,F0FANG,F0COW,F0DOG"),
    (0x2F5E, "F0PROFOUND,F0JADE,F0MELON,F0TILE,F0SWEET,F0LIFE,F1US,F0FIELD,F0BOLT OF CLOTH"),
    (0x2F67, "F0SICKNESS,F0DOTTED TENT,F0WHITE,F0SKIN,F0DISH,F0EYE,F0SPEAR,F0ARROW,F0STONE"),
    (0x2F70, "G0PIRIT,F0TRACK,F0GRAIN,F0CAVE,F0STAND,F0BAMBOO,F0RICE,F0SILK,F0JAR,F0NET,F0SHEEP"),
    (0x2F7B, "F0FEATHER,F0OLD,F1AN,F0PLOW,F0EAR,F0BRUSH,F0MEAT,G0INISTER,F0SELF,F0ARRIVE,F0MORTAR"),
    (0x2F86, "F0TONGUE,F1OPPOS,F0BOAT,F0STOPPING,F0COLOR,F0GRASS,F0TIGER,F0INSECT,F0BLOOD"),
    (0x2F8F, "F0WALK ENCLOSURE,F0CLOTHES,F0WEST,F0SEE,F0HORN,F0SPEECH,F0VALLEY,F0BEAN,F0PIG"),
    (0x2F98, "F0BADGER,F0SHELL,F0RED,G0UN,F0FOOT,F0BODY,F0CART,F0BITTER,F0MORNING,F0WALK,F0CITY"),
    (0x2FA3, "F0WINE,F0DISTINGUISH,F0VILLAGE,F0GOLD,F0LONG,F0GATE,F0MOUND,F0SLAVE"),
    (0x2FAB, "G0HORT TAILED BIRD,F0RAIN,F0BLUE,F0WRONG,F0FACE,F0LEATHER,F8TANNED,F0LEEK,F0SOUND"),
    (0x2FB4, "F0LEAF,F0WIND,F0FLY,F0EAT,F0HEAD,F0FRAGRANT,F0HORSE,F1BON,F0TALL,F0HAIR,F0FIGHT"),
    (0x2FBF, "F0SACRIFICIAL WINE,F0CAULDRON,F0GHOST,F0FISH,F0BIRD,F0SALT,F0DEER,F0WHEAT,F0HEMP"),
    (0x2FC8, "F0YELLOW,F0MILLET,F0BLACK,F0EMBROIDERY,F0FROG,F0TRIPOD,F0DRUM,F0RAT,F0NOSE,F0EVEN"),
    (0x2FD2, "F0TOOTH,F0DRAGON,F0TURTLE,F1FLUT"),
    (0x2FF0, "00IDEOGRAPHIC DESCRIPTION CHARACTER LEFT TO RIGHT,Y0ABOVE TO BELOW"),
    (0x2FF2, "Y0LEFT TO MIDDLE AND RIGHT,Y0ABOVE TO MIDDLE AND BELOW,Y0FULL SURROUND"),
    (0x2FF5, "Y0SURROUND FROM ABOVE,Z0URROUND FROM BELOW,Z0URROUND FROM LEFT,Z5URROUND FROM UPPER"),
    (0x2FF9, "Z1URROUND FROM UPPER RIGH,Z1URROUND FROM LOWER LEF,Y0OVERLAID"),
    (0x3000, "C0SPACE,C0COMMA,C0FULL STOP,00DITTO MARK,00JAPANESE INDUSTRIAL STANDARD SYMBOL"),
    (0x3005, "00IDEOGRAPHIC ITERATION MARK,C5CLOSING,C0NUMBER ZERO,00LEFT ANGLE BRACKET,0FRIGH"),
    (0x300A, "0ELEFT DOUBLE,0MRIGH,08LEFT CORNER,0GRIGH,0FLEFT WHITE,0MRIGH"),
    (0x3010, "09LEFT BLACK LENTICULA,0QRIGH,00POSTAL MARK,05GETA,00LEFT TORTOISE SHELL BRACKET"),
    (0x3015, "0ORIGH,08LEFT WHITE LENTICULAR,0QRIGH,08LEFT WHITE TORTOISE SHELL,0URIGH"),
    (0x301A, "08LEFT WHITE SQUARE,0MRIGH,00WAVE DASH,00REVERSED DOUBLE PRIME QUOTATION MARK,0R"),
    (0x301F, "0RLOW ,00POSTAL MARK FACE,01HANGZHOU NUMERAL ON,H0TWO,I0HREE,H0FOUR,I0IVE,H0SIX"),
    (0x3027, "I0EVEN,H0EIGHT,H0NINE,00IDEOGRAPHIC LEVEL TONE MARK,CARISING,CDDEPART,CDENTER"),
    (0x302E, "0AHANGUL SINGLE DOT,7GDOUB,00WAVY DASH,00VERTICAL KANA REPEAT MARK"),
    (0x3032, "L5WITH VOICED SOUND,L0MARK UPPER HALF,LGWITH VOICED SOUND,L7MARK LOW"),
    (0x3036, "00CIRCLED POSTAL MARK,00IDEOGRAPHIC TELEGRAPH LINE FEED SEPARATOR SYMBOL"),
    (0x3038, "00HANGZHOU NUMERAL TEN,I0WENTY,I2HIR,00VERTICAL IDEOGRAPHIC ITERATION MARK,05MASU"),
    (0x303D, "05PART ALTERNATION,00IDEOGRAPHIC VARIATION INDICATOR,C0HALF FILL SPACE"),
    (0x3041, "00HIRAGANA LETTER SMALL A,G1,G0SMALL I,G1,G0SMALL U,G1,G0SMALL E,G1,G0SMALL O,G1"),
    (0x304B, "G0KA,G1G,G0KI,G1G,G0KU,G1G,G0KE,G1G,G0KO,G1G,G0SA,G1Z,G0SI,G1Z,G0SU,G1Z,G0SE,G1Z"),
    (0x305D, "G0SO,G1Z,G0TA,G1D,G0TI,G1D,G0SMALL TU,G2,G1D,G0TE,G1D,G0TO,G1D,G0NA,H0I,H0U,H0E,H0O"),
    (0x306F, "G0HA,G1B,G1P,G0HI,G1B,G1P,G0HU,G1B,G1P,G0HE,G1B,G1P,G0HO,G1B,G1P,G0MA,H0I,H0U,H0E"),
    (0x3082, "H0O,G0SMALL YA,G2,G0SMALL YU,G2,G0SMALL YO,G2,G0RA,H0I,H0U,H0E,H0O,G0SMALL WA,G2"),
    (0x3090, "H0I,H0E,H0O,G0N,G0VU,G0SMALL KA,N0E"),
    (0x3099, "00COMBINING KATAKANA-HIRAGANA VOICED SOUND MARK,SHSEMI-,0HKATAKANA-HIRAGANA "),
    (0x309C, "IHSEMI-,05HIRAGANA ITERATION,9FVOICED,90DIGRAPH YORI"),
    (0x30A0, "00KATAKANA-HIRAGANA DOUBLE HYPHEN,80 LETTER SMALL A,G1,G0SMALL I,G1,G0SMALL U,G1"),
    (0x30A7, "G0SMALL E,G1,G0SMALL O,G1,G0KA,G1G,G0KI,G1G,G0KU,G1G,G0KE,G1G,G0KO,G1G,G0SA,G1Z"),
    (0x30B7, "G0SI,G1Z,G0SU,G1Z,G0SE,G1Z,G0SO,G1Z,G0TA,G1D,G0TI,G1D,G0SMALL TU,G2,G1D,G0TE,G1D"),
    (0x30C8, "G0TO,G1D,G0NA,H0I,H0U,H0E,H0O,G0HA,G1B,G1P,G0HI,G1B,G1P,G0HU,G1B,G1P,G0HE,G1B,G1P"),
    (0x30DB, "G0HO,G1B,G1P,G0MA,H0I,H0U,H0E,H0O,G0SMALL YA,G2,G0SMALL YU,G2,G0SMALL YO,G2,G0RA"),
    (0x30EA, "H0I,H0U,H0E,H0O,G0SMALL WA,G2,H0I,H0E,H0O,G0N,G0VU,G0SMALL KA,N0E,G0VA,H0I,H0E,H0O"),
    (0x30FB, "90MIDDLE DOT,80-HIRAGANA PROLONGED SOUND MARK,85 ITERATION,9FVOICED,90DIGRAPH KOTO"),
    (0x3105, "00BOPOMOFO LETTER B,G0P,G0M,G0F,G0D,G0T,G0N,G0L,G0G,G0K,G0H,G0J,G0Q,G0X,G0ZH,G1C"),
    (0x3115, "G1S,G0R,G0Z,G0C,G0S,G0A,G0O,G0E,H0H,G0AI,G1E,G0AU,G1O,G0AN,G1E,G0ANG,G2E,H0R,G0I"),
    (0x3128, "G0U,G1I,G0V,G0NG,G0GN,G0IH,G0O WITH DOT ABOVE,G0NN"),
    (0x3131, "00HANGUL LETTER KIYEOK,E6SSANG,E0KIYEOK-SIOS,E0NIEUN,J0-CIEUC,K0HIEUH,E0TIKEUT"),
    (0x3138, "E6SSANG,E0RIEUL,J0-KIYEOK,K0MIEUM,K0PIEUP,K0SIOS,K0THIEUTH,K1PHIEUP,K1HIEU,E0MIEUM"),
    (0x3142, "E0PIEUP,E5SSANG,E0PIEUP-SIOS,E4,F4SANG,E0IEUNG,E0CIEUC,E5SSANG,E0CHIEUCH,E1KHIEUK"),
    (0x314C, "E1THIEUT,E1PHIEUP,E1HIEU,E0A,F0E,E0YA,G0E,E0EO,F0,E0YEO,G0,E0O,E0WA,G0E,E1O,E0YO"),
    (0x315C, "E0U,E0WEO,G0,F0I,E0YU,E1E,E0YI,E1,70FILLER,70LETTER SSANGNIEUN,E0NIEUN-TIKEUT"),
    (0x3167, "K0SIOS,K4PAN,E4RIEUL-KIYEOK-,K0TIKEUT,K0PIEUP-SIOS,L4AN,K0YEORINHIEUH,E0MIEUM-PIEUP"),
    (0x316F, "K0SIOS,K4PAN,E0KAPYEOUNMIEUM,E0PIEUP-KIYEOK,K0TIKEUT,K0SIOS-KIYEOK,P0TIKEUT,K0CIEUC"),
    (0x3177, "K0THIEUTH,E0KAPYEOUNPIEUP,M5SSANG,E0SIOS-KIYEOK,J0NIEUN,J0TIKEUT,J0PIEUP,J0CIEUC"),
    (0x317F, "E0PANSIOS,E0SSANGIEUNG,E5YES,M0-SIOS,N4PAN,E0KAPYEOUNPHIEUPH,E1SSANGHIEU,E5YEORIN"),
    (0x3187, "F0O-YA,J0E,H0I,F0U-YEO,J0,H0I,E0ARAEA,J0E"),
    (0x3190, "00IDEOGRAPHIC ANNOTATION LINKING MARK,N5REVERSE,N6ON,N5TWO,O5HREE,N5FOUR,N5TOP"),
    (0x3197, "N5MIDDLE,N5BOTTOM,N5FIRST,N5SECOND,N6THIR,N5FOURTH,N5HEAVEN,N5EARTH,N5MAN"),
    (0x31A0, "00BOPOMOFO LETTER BU,G0ZI,G1J,G0GU,G0EE,H0NN,G0OO,H0NN,G0IR,G0ANN,G2I,G2U,G0IM"),
    (0x31AD, "G0NGG,G0AINN,H2U,H0M,G1O,H0NG,G0INNN,90FINAL LETTER P,M0T,M0K,M0H,91LETTER G,G1L"),
    (0x31BA, "G0ZY,90FINAL LETTER G,90LETTER GW,G1K,G0OE,G0AH,00CJK STROKE T,B0WG,B1X,B2B,B0SW"),
    (0x31C5, "B0HZZ,D0G,C0P,C0ZWG,B3S,B0HZT,D0ZP,C0PWG,C0ZW,D0ZZ,B0N,B0H,B0S,B0P,B1S,B0D,B0HZ,C0G"),
    (0x31D7, "B0SZ,C1W,C0T,C0G,B0PD,C0Z,B0TN,B0SZZ,C0WG,B2HX,C1ZZZ,B1P,B0Q"),
    (0x31F0, "00KATAKANA LETTER SMALL KU,M0SI,N0U,M0TO,M0NU,M0HA,N0I,N0U,N0E,N0O,M0MU,M0RA,N0I"),
    (0x31FD, "N0U,N0E,N0O,00PARENTHESIZED HANGUL KIYEOK,L0NIEUN,L0TIKEUT,L0RIEUL,L0MIEUM,L0PIEUP"),
    (0x3206, "L0SIOS,L0IEUNG,L0CIEUC,M0HIEUCH,L1KHIEUK,L1THIEUT,L1PHIEUP,L1HIEU,L0KIYEOK A"),
    (0x320F, "L2NIEUN,L2TIKEUT,L2RIEUL,L2MIEUM,L2PIEUP,L2SIOS,L2IEUNG,L2CIEUC,M2HIEUCH,L3KHIEUK"),
    (0x3219, "L3THIEUT,L3PHIEUP,L3HIEU,L0CIEUC U,E0KOREAN CHARACTER OJEON,W0 HU"),
    (0x3220, "E0IDEOGRAPH ONE,O0TWO,P0HREE,O0FOUR,P0IVE,O0SIX,P0EVEN,O0EIGHT,O0NINE,O0TEN,O1MOO"),
    (0x322B, "O0FIRE,O0WATER,P0OOD,O0METAL,O0EARTH,O0SUN,P0TOCK,O0HAVE,O0SOCIETY,O0NAME,O0SPECIAL"),
    (0x3236, "O4FINAN,O0CONGRATULATION,O0LABOR,O0REPRESENT,O0CALL,O0STUDY,P0UPERVISE,O3ENTERPR"),
    (0x323E, "O1RESOURC,O2ALLIAN,O0FESTIVAL,O0REST,O0SELF,O0REACH,00CIRCLED IDEOGRAPH QUESTION"),
    (0x3245, "I1KINDERGARTE,I0SCHOOL,I0KOTO,80NUMBER TEN ON BLACK SQUARE,GGWENTY,GIHIR,FJFO,GIIF"),
    (0x324D, "FISIX,GIEVEN,FIEIGH,00PARTNERSHIP SIGN,00CIRCLED NUMBER TWENTY ONE,M0TWO,N0HREE"),
    (0x3254, "M0FOUR,N0IVE,M0SIX,N0EVEN,M0EIGHT,M0NINE,G0HIRTY,L0 ONE,M0TWO,N0HREE,M0FOUR,N0IVE"),
    (0x3260, "80HANGUL KIYEOK,F0NIEUN,F0TIKEUT,F0RIEUL,F0MIEUM,F0PIEUP,F0SIOS,F0IEUNG,F0CIEUC"),
    (0x3269, "G0HIEUCH,F1KHIEUK,F1THIEUT,F1PHIEUP,F1HIEU,F0KIYEOK A,F2NIEUN,F2TIKEUT,F2RIEUL"),
    (0x3272, "F2MIEUM,F2PIEUP,F2SIOS,F2IEUNG,F2CIEUC,G2HIEUCH,F3KHIEUK,F3THIEUT,F3PHIEUP,F3HIEU"),
    (0x327C, "80KOREAN CHARACTER CHAMKO,P0JUEUI,80HANGUL IEUNG U,00KOREAN STANDARD SYMBOL"),
    (0x3280, "00CIRCLED IDEOGRAPH ONE,I0TWO,J0HREE,I0FOUR,J0IVE,I0SIX,J0EVEN,I0EIGHT,I0NINE,I0TEN"),
    (0x328A, "I1MOO,I0FIRE,I0WATER,J0OOD,I0METAL,I0EARTH,I0SUN,J0TOCK,I0HAVE,I0SOCIETY,I0NAME"),
    (0x3295, "I0SPECIAL,I4FINAN,I0CONGRATULATION,I0LABOR,I0SECRET,I0MALE,I4FE,I2SUITAB"),
    (0x329D, "I0EXCELLENT,I2PRI,I0ATTENTION,I0ITEM,I0REST,I0COPY,K0RRECT,I0HIGH,I0CENTRE,I0LOW"),
    (0x32A7, "J0EFT,I1RIGH,I0MEDICINE,I0RELIGION,I0STUDY,J0UPERVISE,I3ENTERPR,I1RESOURC,I2ALLIAN"),
    (0x32B0, "I0NIGHT,80NUMBER THIRTY SIX,N0EVEN,M0EIGHT,M0NINE,F0FORTY,K0 ONE,L0TWO,M0HREE"),
    (0x32B9, "L0FOUR,M0IVE,L0SIX,M0EVEN,L0EIGHT,L0NINE,G0IFTY"),
    (0x32C0, "01IDEOGRAPHIC TELEGRAPH SYMBOL FOR JANUAR,X4FEBR,X0MARCH,X0APRIL,X0MAY,X0JUNE,Z0LY"),
    (0x32C7, "X0AUGUST,X0SEPTEMBER,X3OCTO,X3NOVEM,X5DEC,00SQUARE HG,71ER,80V"),
    (0x32CF, "00LIMITED LIABILITY SIGN,00CIRCLED KATAKANA A,H0I,H0U,H0E,H0O,H0KA,I0I,I0U,I0E,I0O"),
    (0x32DA, "H0SA,I0I,I0U,I0E,I0O,H0TA,I0I,I0U,I0E,I0O,H0NA,I0I,I0U,I0E,I0O,H0HA,I0I,I0U,I0E,I0O"),
    (0x32EE, "H0MA,I0I,I0U,I0E,I0O,H0YA,I0U,I0O,H0RA,I0I,I0U,I0E,I0O,H0WA,I0I,I0E,I0O"),
    (0x32FF, "00SQUARE ERA NAME REIWA,70APAATO,80RUHUA,81NPE,80ARU,71INING,90TI,70UON,70ESUKUUDO"),
    (0x3308, "80EKAA,70ONSU,81OM,70KAIRI,90RATTO,A0ORII,70GARON,90NMA,81IG,90NII,72KYUR,70GIRUDAA"),
    (0x3314, "70KIRO,B0GURAMU,B1MEETOR,B0WATTO,70GURAMU,D0TON,70KURUZEIRO,A0OONE,80EESU,80ORUNA"),
    (0x331E, "90OPO,70SAIKURU,91NTIIM,81IRING,80ENTI,B0O,70DAASU,80ESI,80ORU,70TON,70NANO,81OTT"),
    (0x332A, "70HAITU,70PAASENTO,A0TU,71BAARER,72PIASUTO,92KU,A0O,70BIRU,70HUARADDO,91IIT"),
    (0x3334, "70BUSSYERU,70HURAN,80EKUTAARU,70PESO,90NIHI,70HERUTU,71PENS,90EZI,70BEETA,70POINTO"),
    (0x333E, "72BORU,70HON,70PONDO,70HOORU,A0N,70MAIKURO,A0RU,90HHA,90RUKU,90NSYON,82IKUR,90RI"),
    (0x334A, "B0BAARU,80EGA,B0TON,90ETORU,70YAADO,A0RU,80UAN,70RITTORU,90RA,80UPII,90UBURU,81EM"),
    (0x3356, "90NTOGEN,70WATTO,01IDEOGRAPHIC TELEGRAPH SYMBOL FOR HOUR ZER,Z0UR ONE,Z0UR TWO"),
    (0x335B, "Z0UR THREE,Z0UR FOUR,Z0UR FIVE,Z0UR SIX,Z0UR SEVEN,Z0UR EIGHT,Z0UR NINE,Z0UR TEN"),
    (0x3363, "Z2UR ELEV,Z0UR TWELVE,Z0UR THIRTEEN,Z5UR FOU,Z4UR FIF,Z4UR SIX,Z4UR SEVEN,Z4UR EIGH"),
    (0x336B, "Z4UR NINE,Z0UR TWENTY,Z0UR TWENTY-ONE,Z0UR TWENTY-TWO,Z0UR TWENTY-THREE"),
    (0x3370, "Z0UR TWENTY-FOUR,00SQUARE HPA,71D,70AU,70BAR,70OV,70PC,70DM,90 SQUARED,A2CUB,70IU"),
    (0x337B, "70ERA NAME HEISEI,G0SYOUWA,G0TAISYOU,G0MEIZI,70CORPORATION,70PA AMPS,70NA,71MU ,81"),
    (0x3384, "71K,80B,71M,71G,70CAL,73K,70PF,71N,71MU ,A0G,81,71K,70HZ,72K,72M,72G,72T,70MU L,81"),
    (0x3397, "71D,71K,70FM,71N,71MU ,81,71C,71K,70MM SQUARED,79C,79,79K,72MM CUB,77C,77,77K"),
    (0x33A7, "70M OVER S,F0 SQUARED,70PA,72K,72M,72G,70RAD,A0 OVER S,H0 SQUARED,70PS,71N,71MU ,81"),
    (0x33B4, "70PV,71N,71MU ,81,71K,70MV MEGA,70PW,71N,71MU ,81,71K,70MW MEGA,70K OHM,74M,71A"),
    (0x33C3, "70BQ,70CC,80D,80 OVER KG,80O,70DB,70GY,70HA,80P,70IN,70KK,80M CAPITAL,80T,70LM,80N"),
    (0x33D2, "80OG,80X,70MB SMALL,81I,81O,70PH,80M,82,80R,71S,80V,70WB,70V OVER M,77A"),
    (0x33E0, "00IDEOGRAPHIC TELEGRAPH SYMBOL FOR DAY ONE,Z0Y TWO,Z0Y THREE,Z0Y FOUR,Z0Y FIVE"),
    (0x33E5, "Z0Y SIX,Z0Y SEVEN,Z0Y EIGHT,Z0Y NINE,Z0Y TEN,Z2Y ELEV,Z0Y TWELVE,Z0Y THIRTEEN"),
    (0x33ED, "Z5Y FOU,Z4Y FIF,Z4Y SIX,Z4Y SEVEN,Z4Y EIGH,Z4Y NINE,Z0Y TWENTY,Z0Y TWENTY-ONE"),
    (0x33F5, "Z0Y TWENTY-TWO,Z0Y TWENTY-THREE,Z0Y TWENTY-FOUR,Z0Y TWENTY-FIVE,Z0Y TWENTY-SIX"),
    (0x33FA, "Z0Y TWENTY-SEVEN,Z0Y TWENTY-EIGHT,Z0Y TWENTY-NINE,Z0Y THIRTY,Z0Y THIRTY-ONE"),
    (0x33FF, "00SQUARE GAL"),
    (0x4DC0, "00HEXAGRAM FOR THE CREATIVE HEAVEN,H0RECEPTIVE EARTH,D0DIFFICULTY AT THE BEGINNING"),
    (0x4DC3, "D0YOUTHFUL FOLLY,D0WAITING,D0CONFLICT,D0THE ARMY,D0HOLDING TOGETHER,D0SMALL TAMING"),
    (0x4DC9, "D3TREAD,D0PEACE,D0STANDSTILL,D0FELLOWSHIP,D0GREAT POSSESSION,D0MODESTY,D0ENTHUSIASM"),
    (0x4DD0, "D0FOLLOWING,D0WORK ON THE DECAYED,D0APPROACH,D0CONTEMPLATION,D0BITING THROUGH"),
    (0x4DD5, "D0GRACE,D0SPLITTING APART,D0RETURN,D0INNOCENCE,D0GREAT TAMING,D0MOUTH CORNERS"),
    (0x4DDB, "D0GREAT PREPONDERANCE,D0THE ABYSMAL WATER,H0CLINGING FIRE,D1INFLUENC,D0DURATION"),
    (0x4DE0, "D0RETREAT,D0GREAT POWER,D0PROGRESS,D0DARKENING OF THE LIGHT,D0THE FAMILY"),
    (0x4DE5, "D0OPPOSITION,E4BSTRUC,D0DELIVERANCE,F1CREAS,D6IN,D0BREAKTHROUGH,D0COMING TO MEET"),
    (0x4DEC, "D0GATHERING TOGETHER,D0PUSHING UPWARD,D0OPPRESSION,D0THE WELL,D0REVOLUTION"),
    (0x4DF1, "D2THE CAULDR,H0AROUSING THUNDER,H0KEEPING STILL MOUNTAIN,D0DEVELOPMENT"),
    (0x4DF5, "D0THE MARRYING MAIDEN,D0ABUNDANCE,D0THE WANDERER,H0GENTLE WIND,H0JOYOUS LAKE"),
    (0x4DFA, "D0DISPERSION,D3LIMITAT,D0INNER TRUTH,D0SMALL PREPONDERANCE,D0AFTER COMPLETION"),
    (0x4DFF, "DBBEFORE"),
    (0xA000, "00YI SYLLABLE IT,D0X,D0,D0P,D0ET,E0X,E0,E0P,C0AT,D0X,D0,D0P,C0UOX,E0,E0P,C0OT,D0X"),
    (0xA011, "D0,D0P,C0EX,D0,C0WU,C0BIT,E0X,E0,E0P,E0ET,F0X,F0,F0P,D0AT,E0X,E0,E0P,D0UOX,F0,F0P"),
    (0xA025, "D0OT,E0X,E0,E0P,D0EX,E0,E0P,D0UT,E0X,E0,E0P,E0RX,F0,D0YT,E0X,E0,E0P,E0RX,F0,C0PIT"),
    (0xA039, "E0X,E0,E0P,E0EX,F0,F0P,D0AT,E0X,E0,E0P,D0UOX,F0,F0P,D0OT,E0X,E0,E0P,D0UT,E0X,E0,E0P"),
    (0xA04E, "E0RX,F0,D0YT,E0X,E0,E0P,E0RX,F0,C0BBIT,F0X,F0,F0P,F0ET,G0X,G0,G0P,E0AT,F0X,F0,F0P"),
    (0xA062, "E0UOX,G0,G0P,E0OT,F0X,F0,F0P,E0EX,F0,F0P,E0UT,F0X,F0,F0P,F0RX,G0,E0YT,F0X,F0,F0P"),
    (0xA076, "C0NBIT,F0X,F0,F0P,F0EX,G0,G0P,E0AT,F0X,F0,F0P,E0OT,F0X,F0,F0P,E0UT,F0X,F0,F0P,F0RX"),
    (0xA08A, "G0,E0YT,F0X,F0,F0P,F0RX,G0,C0HMIT,F0X,F0,F0P,F0EX,G0,G0P,E0AT,F0X,F0,F0P,E0UOX,G0"),
    (0xA09E, "G0P,E0OT,F0X,F0,F0P,E0UT,F0X,F0,F0P,F0RX,G0,E0YX,F0,F0P,F0RX,G0,C0MIT,E0X,E0,E0P"),
    (0xA0B2, "E0EX,F0,F0P,D0AT,E0X,E0,E0P,D0UOT,F0X,F0,F0P,D0OT,E0X,E0,E0P,D0EX,E0,D0UT,E0X,E0"),
    (0xA0C6, "E0P,E0RX,F0,D0YT,E0X,E0,E0P,C0FIT,E0X,E0,E0P,D0AT,E0X,E0,E0P,D0OX,E0,E0P,D0UT,E0X"),
    (0xA0DA, "E0,E0P,E0RX,F0,D0YT,E0X,E0,E0P,C0VIT,E0X,E0,E0P,E0ET,F0X,F0,F0P,D0AT,E0X,E0,E0P"),
    (0xA0EE, "D0OT,E0X,E0,E0P,D0EX,E0P,D0UT,E0X,E0,E0P,E0RX,F0,D0YT,E0X,E0,E0P,E0RX,F0,C0DIT,E0X"),
    (0xA102, "E0,E0P,E0EX,F0,F0P,D0AT,E0X,E0,E0P,D0UOX,F0,D0OT,E0X,E0,E0P,D0EX,E0,E0P,D0UT,E0X,E0"),
    (0xA117, "E0P,E0RX,F0,C0TIT,E0X,E0,E0P,E0EX,F0,F0P,D0AT,E0X,E0,E0P,D0UOT,F0X,F0,F0P,D0OT,E0X"),
    (0xA12B, "E0,E0P,D0EX,E0,E0P,D0UT,E0X,E0,E0P,E0RX,F0,C0DDIT,F0X,F0,F0P,F0EX,G0,G0P,E0AT,F0X"),
    (0xA13F, "F0,F0P,E0UOX,G0,G0P,E0OT,F0X,F0,F0P,E0EX,F0,F0P,E0UT,F0X,F0,F0P,F0RX,G0,C0NDIT,F0X"),
    (0xA153, "F0,F0P,F0EX,G0,E0AT,F0X,F0,F0P,E0OT,F0X,F0,F0P,E0EX,F0,F0P,E0UT,F0X,F0,F0P,F0RX,G0"),
    (0xA168, "C0HNIT,F0X,F0,F0P,F0ET,G0X,G0,G0P,E0AT,F0X,F0,F0P,E0UOX,G0,E0OT,F0X,F0P,E0EX,F0,F0P"),
    (0xA17C, "E0UT,C1NI,E0X,E0,E0P,E0EX,F0,F0P,D0AX,E0,E0P,D0UOX,F0,F0P,D0OT,E0X,E0,E0P,D0EX,E0"),
    (0xA190, "E0P,D0UT,E0X,E0,E0P,E0RX,F0,C0HLIT,F0X,F0,F0P,F0EX,G0,G0P,E0AT,F0X,F0,F0P,E0UOX,G0"),
    (0xA1A4, "G0P,E0OX,F0,F0P,E0EX,F0,F0P,E0UT,F0X,F0,F0P,F0RX,G0,E0YT,F0X,F0,F0P,F0RX,G0,C0LIT"),
    (0xA1B8, "E0X,E0,E0P,E0ET,F0X,F0,F0P,D0AT,E0X,E0,E0P,D0UOT,F0X,F0,F0P,D0OT,E0X,E0,E0P,D0EX,E0"),
    (0xA1CD, "E0P,D0UT,E0X,E0,E0P,E0RX,F0,D0YT,E0X,E0,E0P,E0RX,F0,C0GIT,E0X,E0,E0P,E0ET,F0X,F0"),
    (0xA1E1, "F0P,D0AT,E0X,E0,E0P,D0UOT,F0X,F0,F0P,D0OT,E0X,E0,E0P,D0ET,E0X,E0,E0P,D0UT,E0X,E0"),
    (0xA1F5, "E0P,E0RX,F0,C0KIT,E0X,E0,E0P,E0EX,F0,F0P,D0AT,E0X,E0,E0P,D0UOX,F0,F0P,D0OT,E0X,E0"),
    (0xA209, "E0P,D0ET,E0X,E0,E0P,D0UT,E0X,E0,E0P,E0RX,F0,C0GGIT,F0X,F0,F0EX,G0,G0P,E0AT,F0X,F0"),
    (0xA21D, "F0P,E0UOT,G0X,G0,G0P,E0OT,F0X,F0,F0P,E0ET,F0X,F0,F0P,E0UT,F0X,F0,F0P,F0RX,G0"),
    (0xA230, "C0MGIEX,G0,E0AT,F0X,F0,F0P,E0UOX,G0,G0P,E0OT,F0X,F0,F0P,E0EX,F0,F0P,E0UT,F0X,F0,F0P"),
    (0xA244, "F0RX,G0,C0HXIT,F0X,F0,F0P,F0ET,G0X,G0,G0P,E0AT,F0X,F0,F0P,E0UOT,G0X,G0,G0P,E0OT,F0X"),
    (0xA258, "F0,F0P,E0EX,F0,F0P,C0NGIEX,G0,G0P,E0AT,F0X,F0,F0P,E0UOT,G0X,G0,E0OT,F0X,F0,F0P,E0EX"),
    (0xA26C, "F0,F0P,C0HIT,E0EX,F0,D0AT,E0X,E0,E0P,D0UOT,F0X,F0,F0P,D0OT,E0X,E0,E0P,D0EX,E0,E0P"),
    (0xA280, "C0WAT,E0X,E0,E0P,D0UOX,F0,F0P,D0OX,E0,E0P,D0EX,E0,E0P,C0ZIT,E0X,E0,E0P,E0EX,F0,F0P"),
    (0xA294, "D0AT,E0X,E0,E0P,D0UOX,F0,F0P,D0OT,E0X,E0,E0P,D0EX,E0,E0P,D0UT,E0X,E0,E0P,E0RX,F0"),
    (0xA2A8, "D0YT,E0X,E0,E0P,E0RX,F0,C0CIT,E0X,E0,E0P,E0ET,F0X,F0,F0P,D0AT,E0X,E0,E0P,D0UOX,F0"),
    (0xA2BC, "F0P,D0OT,E0X,E0,E0P,D0EX,E0,E0P,D0UT,E0X,E0,E0P,E0RX,F0,D0YT,E0X,E0,E0P,E0RX,F0"),
    (0xA2D0, "C0ZZIT,F0X,F0,F0P,F0ET,G0X,G0,G0P,E0AT,F0X,F0,F0P,E0OX,F0,F0P,E0EX,F0,F0P,E0UX,F0"),
    (0xA2E4, "F0P,F0RX,G0,E0YT,F0X,F0,F0P,F0RX,G0,C0NZIT,F0X,F0,F0P,F0EX,G0,G0P,E0AT,F0X,F0,F0P"),
    (0xA2F8, "E0UOX,G0,E0OX,F0P,E0EX,F0,E0UX,F0,F0P,F0RX,G0,E0YT,F0X,F0,F0P,F0RX,G0,C0SIT,E0X,E0"),
    (0xA30C, "E0P,E0EX,F0,F0P,D0AT,E0X,E0,E0P,D0UOX,F0,F0P,D0OT,E0X,E0,E0P,D0EX,E0,E0P,D0UT,E0X"),
    (0xA320, "E0,E0P,E0RX,F0,D0YT,E0X,E0,E0P,E0RX,F0,D0SIT,F0X,F0,F0P,F0EX,G0,G0P,E0AT,F0X,F0,F0P"),
    (0xA335, "E0OT,F0X,F0,F0P,E0EX,F0,F0P,E0UT,F0X,F0,F0P,E0YT,F0X,F0,F0P,F0RX,G0,C0ZHAT,F0X,F0"),
    (0xA349, "F0P,E0UOX,G0,G0P,E0OT,F0X,F0,F0P,E0ET,F0X,F0,F0P,E0UT,F0X,F0,F0P,F0RX,G0,E0YT,F0X"),
    (0xA35D, "F0,F0P,F0RX,G0,C0CHAT,F0X,F0,F0P,E0UOT,G0X,G0,G0P,E0OT,F0X,F0,F0P,E0ET,F0X,F0,F0P"),
    (0xA371, "E0UX,F0,F0P,F0RX,G0,E0YT,F0X,F0,F0P,F0RX,G0,C0RRAX,F0,E0UOX,G0,E0OT,F0X,F0,F0P,E0ET"),
    (0xA385, "F0X,F0,F0P,E0UT,F0X,F0,F0P,F0RX,G0,E0YT,F0X,F0,F0P,F0RX,G0,C0NRAT,F0X,F0,F0P,E0OX"),
    (0xA399, "F0,F0P,E0ET,F0X,F0,F0P,E0UT,F0X,F0,F0P,F0RX,G0,E0YT,F0X,F0,F0P,F0RX,G0,C0SHAT,F0X"),
    (0xA3AD, "F0,F0P,E0UOX,G0,G0P,E0OT,F0X,F0,F0P,E0ET,F0X,F0,F0P,E0UT,F0X,F0,F0P,F0RX,G0,E0YT"),
    (0xA3C1, "F0X,F0,F0P,F0RX,G0,C0RAT,E0X,E0,E0P,D0UOX,F0,F0P,D0OT,E0X,E0,E0P,D0EX,E0,E0P,D0UT"),
    (0xA3D5, "E0X,E0,E0P,E0RX,F0,D0YT,E0X,E0,E0P,E0RX,F0,C0JIT,E0X,E0,E0P,E0ET,F0X,F0,F0P,D0UOT"),
    (0xA3E9, "F0X,F0,F0P,D0OT,E0X,E0,E0P,D0UT,E0X,E0,E0P,E0RX,F0,D0YT,E0X,E0,E0P,E0RX,F0,C0QIT"),
    (0xA3FD, "E0X,E0,E0P,E0ET,F0X,F0,F0P,D0UOT,F0X,F0,F0P,D0OT,E0X,E0,E0P,D0UT,E0X,E0,E0P,E0RX,F0"),
    (0xA412, "D0YT,E0X,E0,E0P,E0RX,F0,C0JJIT,F0X,F0,F0P,F0ET,G0X,G0,G0P,E0UOX,G0,G0P,E0OT,F0X,F0"),
    (0xA426, "F0P,E0UT,F0X,F0,F0P,F0RX,G0,E0YT,F0X,F0,F0P,C0NJIT,F0X,F0,F0P,F0ET,G0X,G0,G0P,E0UOX"),
    (0xA43A, "G0,E0OT,F0X,F0,F0P,E0UX,F0,F0P,F0RX,G0,E0YT,F0X,F0,F0P,F0RX,G0,D0YIT,F0X,F0,F0P"),
    (0xA44E, "F0ET,G0X,G0,G0P,E0UOX,G0,G0P,E0OT,F0X,F0,F0P,E0UT,F0X,F0,F0P,C0XIT,E0X,E0,E0P,E0ET"),
    (0xA462, "F0X,F0,F0P,D0UOX,F0,D0OT,E0X,E0,E0P,D0YT,E0X,E0,E0P,E0RX,F0,C0YIT,E0X,E0,E0P,E0ET"),
    (0xA476, "F0X,F0,F0P,D0UOT,F0X,F0,F0P,D0OT,E0X,E0,E0P,D0UT,E0X,E0,E0P,E0RX,F0,D0YT,E0X,E0,E0P"),
    (0xA48B, "E0RX,F0"),
    (0xA490, "30RADICAL QOT,B0LI,B0KIT,B0NYIP,B1CY,B0SSI,B0GGOP,C1E,B0MI,B0HXIT,B0LYR,B0BBUT"),
    (0xA49C, "B0MOP,B0YO,B0PUT,B0HXUO,B0TAT,B0GA,B0ZUP,B0CYT,B0DDUR,B2B,B0GGUO,B0NYOP,B0TU,B0OP"),
    (0xA4AA, "B0JJUT,B1ZO,B1PY,B0HMO,B0YIT,B0VUR,B0SHY,B0VEP,B0ZA,B0JO,B0NZUP,B0JJY,B0GOT,B0JJIE"),
    (0xA4B8, "B0WO,B0DU,B0SHUR,B0LIE,B0CY,C0UOP,C1I,B1HXO,B0SHAT,B0ZUR,B0SHOP,B0CHE,B0ZZIET"),
    (0xA4C5, "B0NBIE,B1K"),
    (0xA4D0, "00LISU LETTER BA,C1P,D1H,C1D,C1T,D1H,C1G,C1K,D1H,C1J,C1C,D1H,C1DZ,C1TS,E1H,C1M,C1N"),
    (0xA4E1, "C1L,C1S,C1ZH,D1,C1NG,C1H,C1X,C1HH,C1F,C1W,C1SH,C1Y,C1GH,C1,D0E,C1,D0U,C0I,C0O,C0U"),
    (0xA4F5, "D0E,D0H,C0OE,C0TONE MYA TI,H0NA PO,H0MYA CYA,L0BO,L0NA,L0JEU,50PUNCTUATION COMMA"),
    (0xA4FF, "H0FULL STOP,00VAI SYLLABLE EE,F0N,D0HEE,D2W,G0N,D0PEE,D2BH,E2,D3M,D2KP,D2MGB,D4,D2F"),
    (0xA50D, "D2V,D2T,E2H,D3D,F3,D2L,D2R,D2D,D3N,D2S,E2H,D2Z,E2H,D2C,D2J,D3N,D2Y,D2K,D2NGG,D3,D2M"),
    (0xA522, "D2N,E2Y,D0I,E0N,D0HI,F0N,D0WI,F0N,D0PI,D1BH,E1,D2M,D1KP,D1MGB,D3,D1F,D1V,D1T,E1H"),
    (0xA535, "D2D,F2,D1L,D1R,D1D,D2N,D1S,E1H,D1Z,E1H,D1C,D1J,D2N,D1Y,D1K,D1NGG,D2,D1M,D1N,E1Y,D0A"),
    (0xA54A, "E0N,D2NG,D0HA,F0N,D0WA,F0N,D0PA,D1BH,E1,D2M,D1KP,G0N,D0MGBA,D3,D1F,D1V,D1T,E1H,D2D"),
    (0xA55D, "F2,D1L,D1R,D1D,D2N,D1S,E1H,D1Z,E1H,D1C,D1J,D2N,D1Y,D1K,F0N,D0NGGA,D2,D1M,D1N,E1Y"),
    (0xA571, "D0OO,F0N,D0HOO,D2W,G0N,D0POO,D2BH,E2,D3M,D2KP,D2MGB,D4,D2F,D2V,D2T,E2H,D3D,F3,D2L"),
    (0xA584, "D2R,D2D,D3N,D2S,E2H,D2Z,E2H,D2C,D2J,D3N,D2Y,D2K,D2NGG,D3,D2M,D2N,E2Y,D0U,E0N,D0HU"),
    (0xA598, "F0N,D0WU,F0N,D0PU,D1BH,E1,D2M,D1KP,D1MGB,D3,D1F,D1V,D1T,E1H,D2D,F2,D1L,D1R,D1D,D2N"),
    (0xA5AC, "D1S,E1H,D1Z,E1H,D1C,D1J,D2N,D1Y,D1K,D1NGG,D2,D1M,D1N,E1Y,D0O,E0N,D2NG,D0HO,F0N,D0WO"),
    (0xA5C0, "F0N,D0PO,D1BH,E1,D2M,D1KP,D1MGB,D3,G0N,D0FO,D1V,D1T,E1H,D2D,F2,D1L,D1R,D1D,D2N,D1S"),
    (0xA5D4, "E1H,D1Z,E1H,D1C,D1J,D2N,D1Y,D1K,D1NGG,D2,D1M,D1N,E1Y,D0E,E0N,D2NG,D0HE,F0N,D0WE,F0N"),
    (0xA5E8, "D0PE,D1BH,E1,D2M,D1KP,G0N,D0MGBE,D3,G0N,D0FE,D1V,D1T,E1H,D2D,F2,D1L,D1R,D1D,D2N,D1S"),
    (0xA5FC, "E1H,D1Z,E1H,D1C,D1J,D2N,D1Y,D1K,D1NGG,H0N,D0GE,F0N,D0ME,D1N,E1Y,E0G,D0LENGTHENER"),
    (0xA60D, "40COMMA,40FULL STOP,40QUESTION MARK,40SYLLABLE NDOLE FA,J1K,J0SOO,60MBOL FEENG,B4K"),
    (0xA615, "B2TI,B0NII,B0BANG,B0FAA,B2T,B0DANG,C2OO,B2KU,B2TO,B0DO-O,B0JONG,40DIGIT ZERO,A0ONE"),
    (0xA622, "A0TWO,B0HREE,A0FOUR,B0IVE,A0SIX,B0EVEN,A0EIGHT,A0NINE,40SYLLABLE NDOLE MA,J0DO"),
    (0xA640, "00CYRILLIC CAPITAL LETTER ZEMLYA,9FSMAL,90CAPITAL LETTER DZELO,9ESMAL"),
    (0xA644, "90CAPITAL LETTER REVERSED DZE,9LSMAL,90CAPITAL LETTER IOTA,9DSMAL"),
    (0xA648, "90CAPITAL LETTER DJERV,9ESMAL,90CAPITAL LETTER MONOGRAPH UK,9LSMAL"),
    (0xA64C, "90CAPITAL LETTER BROAD OMEGA,9KSMAL,90CAPITAL LETTER NEUTRAL YER,9KSMAL"),
    (0xA650, "94CAPITAL LETTER YERU WITH BACK,9RSMAL,90CAPITAL LETTER IOTIFIED YAT,9LSMAL"),
    (0xA654, "90CAPITAL LETTER REVERSED YU,9KSMAL,90CAPITAL LETTER IOTIFIED A,9JSMAL"),
    (0xA658, "90CAPITAL LETTER CLOSED LITTLE YUS,9QSMAL,94CAPITAL LETTER BLENDED,9KSMAL"),
    (0xA65C, "94CAPITAL LETTER IOTIFIED CLOSED LITTLE,9ZSMAL,90CAPITAL LETTER YN,9BSMAL"),
    (0xA660, "90CAPITAL LETTER REVERSED TSE,9LSMAL,91CAPITAL LETTER SOFT D,9GSMAL"),
    (0xA664, "90CAPITAL LETTER SOFT EL,9GSMAL,90CAPITAL LETTER SOFT EM,9GSMAL"),
    (0xA668, "90CAPITAL LETTER MONOCULAR O,9KSMAL,99CAPITAL LETTER BI,9KSMAL"),
    (0xA66C, "99CAPITAL LETTER DOUBLE MO,9RSMAL,98LETTER MULTI,10OMBINING CYRILLIC VZMET"),
    (0xA670, "J0TEN MILLIONS SIGN,JEHUNDRED,JFTHOUSAN,00SLAVONIC ASTERISK"),
    (0xA674, "00COMBINING CYRILLIC LETTER UKRAINIAN IE,Q0I,Q1Y,Q0U,Q0HARD SIGN,Q0YERU,Q0SOFT SIGN"),
    (0xA67B, "Q0OMEGA,J1KAVYK,J0PAYEROK,10YRILLIC KAVYKA,90PAYEROK,90CAPITAL LETTER DWE,9CSMAL"),
    (0xA682, "92CAPITAL LETTER DZ,9DSMAL,92CAPITAL LETTER ZH,9DSMAL,91CAPITAL LETTER CCH,9DSMAL"),
    (0xA688, "91CAPITAL LETTER DZZ,9DSMAL,90CAPITAL LETTER TE WITH MIDDLE HOOK,9SSMAL"),
    (0xA68C, "90CAPITAL LETTER TWE,9CSMAL,92CAPITAL LETTER TS,9DSMAL,91CAPITAL LETTER TSS,9DSMAL"),
    (0xA692, "91CAPITAL LETTER TCH,9DSMAL,91CAPITAL LETTER HW,9CSMAL,93CAPITAL LETTER S,9DSMAL"),
    (0xA698, "90CAPITAL LETTER DOUBLE O,9HSMAL,92CAPITAL LETTER CROSSED,9ISMAL"),
    (0xA69C, "00MODIFIER LETTER CYRILLIC HARD SIGN,P5SOFT,00COMBINING CYRILLIC LETTER EF"),
    (0xA69F, "Q0IOTIFIED E,00BAMUM LETTER A,D1K,D0U,D1K,D0EE,D2R,D1TA,D0O,D0NYI,D1,D0LA,D1P,D0RII"),
    (0xA6AD, "F0EE,D2LEE,D4M,D0TAA,D2ND,E0JAEM,D1,D0SUU,D1M,D0SHII,E1,E0HEUX,E3,D0KYEE,E0ET"),
    (0xA6BC, "D0NUAE,F0,E0JUAE,D0YOQ,D0SHU,D0YUQ,E0A,D1NSH,D0KEUX,D3P,D0NJEE,E2T,D1PU,D2W,D1PE"),
    (0xA6CB, "D2F,D0RU,D1L,D0MI,D1N,D0REUX,E0AE,D0KEN,D2NGKWA,F0GA,F1,D0SHO,D0PUAE,D0FU,E0OM,D0WA"),
    (0xA6DB, "D1N,D0LI,D1P,D0LOQ,D0KO,D0MBEN,D2R,D2M,E0A,D0TI,D1K,D0MO,E0BAA,D0TET,D0KPA,D0TEN"),
    (0xA6EB, "D0NTUU,D0SAMBA,D0FAAMAE,D0KOVUU,F0GHOM,60COMBINING MARK KOQNDON,L0TUKWENTIS"),
    (0xA6F2, "60NJAEMLI,60FULL STOP,60COLON,80MMA,60SEMICOLON,60QUESTION MARK"),
    (0xA700, "00MODIFIER LETTER CHINESE TONE YIN PING,U5ANG,U2IN SHA,U6ANG,U0IN QU,U3ANG,U1IN R"),
    (0xA707, "U3ANG,G0EXTRA-HIGH DOTTED TONE BAR,GK,GGMID,GGLOW,GJEXTRA-,M9HIGH DOTTED LEFT-STEM"),
    (0xA70E, "GU,GQMID,GQLOW,GTEXTRA-,MJHIGH,GN,GJMID,GJLOW,GMEXTRA-,G4DOT VERTICAL,K0SLASH"),
    (0xA719, "K0HORIZONTAL BAR,G0LOWER RIGHT CORNER ANGLE,G0RAISED UP ARROW,N6DOWN"),
    (0xA71D, "N0EXCLAMATION MARK,NJINVERT,GQLOW,G0STRESS AND HIGH TONE,R5LOW"),
    (0xA722, "00LATIN CAPITAL LETTER EGYPTOLOGICAL ALEF,6RSMAL,60CAPITAL LETTER EGYPTOLOGICAL AIN"),
    (0xA725, "6QSMAL,60CAPITAL LETTER HENG,6DSMAL,60CAPITAL LETTER TZ,6BSMAL"),
    (0xA72A, "60CAPITAL LETTER TRESILLO,6HSMAL,64CAPITAL LETTER CUATR,6ISMAL"),
    (0xA72E, "60CAPITAL LETTER CUATRILLO WITH COMMA,6TSMAL,60LETTER SMALL CAPITAL F,R0S"),
    (0xA732, "60CAPITAL LETTER AA,6BSMAL,60CAPITAL LETTER AO,6BSMAL,60CAPITAL LETTER AU,6BSMAL"),
    (0xA738, "60CAPITAL LETTER AV,6BSMAL,60CAPITAL LETTER AV WITH HORIZONTAL BAR,6VSMAL"),
    (0xA73C, "60CAPITAL LETTER AY,6BSMAL,60CAPITAL LETTER REVERSED C WITH DOT,6SSMAL"),
    (0xA740, "60CAPITAL LETTER K WITH STROKE,6MSMAL,67CAPITAL LETTER K WITH DIAGONAL,6VSMAL"),
    (0xA744, "6GCAPITAL LETTER K WITH STROKE AND,6ZSMALL LETTE,60CAPITAL LETTER BROKEN L,6HSMAL"),
    (0xA748, "60CAPITAL LETTER L WITH HIGH STROKE,6RSMAL"),
    (0xA74A, "60CAPITAL LETTER O WITH LONG STROKE OVERLAY,6ZSMAL,60CAPITAL LETTER O WITH LOOP"),
    (0xA74D, "6KSMAL,60CAPITAL LETTER OO,6BSMAL,60CAPITAL LETTER P WITH STROKE THROUGH DESCENDER"),
    (0xA751, "6ZSMALL LET,60CAPITAL LETTER P WITH FLOURISH,6OSMAL"),
    (0xA754, "60CAPITAL LETTER P WITH SQUIRREL TAIL,6TSMAL"),
    (0xA756, "60CAPITAL LETTER Q WITH STROKE THROUGH DESCENDER,6ZSMALL LET"),
    (0xA758, "60CAPITAL LETTER Q WITH DIAGONAL STROKE,6VSMAL,60CAPITAL LETTER R ROTUNDA,6ISMAL"),
    (0xA75C, "68CAPITAL LETTER RUM,6KSMAL,60CAPITAL LETTER V WITH DIAGONAL STROKE,6VSMAL"),
    (0xA760, "60CAPITAL LETTER VY,6BSMAL,60CAPITAL LETTER VISIGOTHIC Z,6LSMAL"),
    (0xA764, "60CAPITAL LETTER THORN WITH STROKE,6QSMAL"),
    (0xA766, "60CAPITAL LETTER THORN WITH STROKE THROUGH DESCENDER,6ZSMALL LETTER "),
    (0xA768, "60CAPITAL LETTER VEND,6DSMAL,60CAPITAL LETTER ET,6BSMAL,60CAPITAL LETTER IS,6BSMAL"),
    (0xA76E, "60CAPITAL LETTER CON,6CSMAL,00MODIFIER LETTER US,00LATIN SMALL LETTER DUM,J2L,J2M"),
    (0xA774, "J2N,J2R,64LETTER SMALL CAPITAL,62SMALL LETTER T,J2,60CAPITAL LETTER INSULAR D"),
    (0xA77A, "6ISMAL,60CAPITAL LETTER INSULAR F,6ISMAL,60CAPITAL LETTER INSULAR G,LATURNED,6PSMAL"),
    (0xA780, "60CAPITAL LETTER TURNED L,6HSMAL,60CAPITAL LETTER INSULAR R,6ISMAL"),
    (0xA784, "60CAPITAL LETTER INSULAR S,6ISMAL,60CAPITAL LETTER INSULAR T,6ISMAL"),
    (0xA788, "01MODIFIER LETTER LOW CIRCUMFLEX ACCEN,G0COLON,G1SHORT EQUALS SIG"),
    (0xA78B, "00LATIN CAPITAL LETTER SALTILLO,6HSMAL,60CAPITAL LETTER TURNED H"),
    (0xA78E, "60SMALL LETTER L WITH RETROFLEX HOOK AND BELT,61LETTER SINOLOGICAL DO"),
    (0xA790, "60CAPITAL LETTER N WITH DESCENDER,6PSMAL,61CAPITAL LETTER C WITH BA,6JSMAL"),
    (0xA794, "Q0PALATAL HOOK,JIH,60CAPITAL LETTER B WITH FLOURISH,6OSMAL"),
    (0xA798, "60CAPITAL LETTER F WITH STROKE,6MSMAL,61CAPITAL LETTER VOLAPUK A,6JSMAL"),
    (0xA79C, "61CAPITAL LETTER VOLAPUK O,6JSMAL,61CAPITAL LETTER VOLAPUK U,6JSMAL"),
    (0xA7A0, "61CAPITAL LETTER G WITH OBLIQUE STROK,6USMAL,6KCAPITAL LETTER K,6USMAL"),
    (0xA7A4, "6KCAPITAL LETTER N,6USMAL,6KCAPITAL LETTER R,6USMAL,6KCAPITAL LETTER S,6USMAL"),
    (0xA7AA, "60CAPITAL LETTER H WITH HOOK,L0REVERSED OPEN E,L0SCRIPT G,L0L WITH BELT"),
    (0xA7AE, "L0SMALL CAPITAL I,60LETTER SMALL CAPITAL Q,60CAPITAL LETTER TURNED K,S0T"),
    (0xA7B2, "L0J WITH CROSSED-TAIL,L0CHI,L0BETA,6DSMAL,61CAPITAL LETTER OMEG,6ESMAL"),
    (0xA7B8, "60CAPITAL LETTER U WITH STROKE,6MSMAL,60CAPITAL LETTER GLOTTAL A,6ISMAL"),
    (0xA7BC, "60CAPITAL LETTER GLOTTAL I,6ISMAL,60CAPITAL LETTER GLOTTAL U,6ISMAL"),
    (0xA7C0, "60CAPITAL LETTER OLD POLISH O,6LSMAL,60CAPITAL LETTER ANGLICANA W,6KSMAL"),
    (0xA7C4, "60CAPITAL LETTER C WITH PALATAL HOOK,L5S WITH,L5Z WITH PALATAL"),
    (0xA7C7, "L0D WITH SHORT STROKE OVERLAY,6ZSMALL,6QCAPITAL LETTER S,6ZSMALL"),
    (0xA7D0, "60CAPITAL LETTER CLOSED INSULAR G,6PSMAL"),
    (0xA7D3, "J0DOUBLE THORN"),
    (0xA7D5, "Q1WYN,60CAPITAL LETTER MIDDLE SCOTS S,6NSMAL,62CAPITAL LETTER SIGMOID,6ISMAL"),
    (0xA7F2, "00MODIFIER LETTER CAPITAL C,O0F,O0Q,00LATIN CAPITAL LETTER REVERSED HALF H,6OSMAL"),
    (0xA7F7, "60EPIGRAPHIC LETTER SIDEWAYS I,00MODIFIER LETTER CAPITAL H WITH STROKE"),
    (0xA7F9, "G1SMALL LIGATURE O,00LATIN LETTER SMALL CAPITAL TURNED M"),
    (0xA7FB, "60EPIGRAPHIC LETTER REVERSED F,X0P,O0INVERTED M,P0 LONGA,O0ARCHAIC M"),
    (0xA800, "00SYLOTI NAGRI LETTER A,K0I,D0SIGN DVISVARA,D0LETTER U,K0E,K0O,D0SIGN HASANTA"),
    (0xA807, "D0LETTER KO,L1H,K1G,L1H,D0SIGN ANUSVARA,D0LETTER CO,L1H,K1J,L1H,K1TT,M1H,K1DD,M1H"),
    (0xA814, "K1T,L1H,K1D,L1H,K1N,K1P,L1H,K1B,L1H,K1M,K1R,K1L,K1RR,K1S,K1H,D0VOWEL SIGN A,O0I,O0U"),
    (0xA826, "O0E,O0OO,D0POETRY MARK-1,P02,P03,P04,D0SIGN ALTERNATE HASANTA"),
    (0xA830, "00NORTH INDIC FRACTION ONE QUARTER,P0HALF,L0THREE QUARTERS,L0ONE SIXTEENTH,P2EIGH"),
    (0xA835, "L0THREE SIXTEENTHS,C0QUARTER MARK,C7PLACEHOLD,C5RUPEE,C5QUANTITY"),
    (0xA840, "00PHAGS-PA LETTER KA,H1H,G1G,G2N,G1C,H1H,G1J,G1NY,G1T,H1H,G1D,G1N,G1P,H1H,G1B,G1M"),
    (0xA850, "G1TS,I1H,G1DZ,G1W,G1ZH,H1,G1SMALL ,G1Y,G1R,G1L,G1SH,H1,G1H,G1,G0I,G0U,G0E,G0O,G0QA"),
    (0xA863, "G1X,G1F,G1GG,G0EE,90SUBJOINED LETTER WA,Q1Y,91LETTER TT,I1H,G1DD,G1NN,G1ALTERNATE Y"),
    (0xA86E, "G1VOICELESS SH,L2D ,G1ASPIRATED F,91SUBJOINED LETTER R,BCPERFIX"),
    (0xA873, "90LETTER CANDRABINDU,90SINGLE HEAD MARK,9CDOUB,90MARK SHAD,E5DOUBLE"),
    (0xA880, "00SAURASHTRA SIGN ANUSVARA,G1VISARG,B1LETTER ,J1,I0I,J1,I0U,J1,I0VOCALIC R,R1,Q0L"),
    (0xA88B, "R1,I0E,J1,I0AI,I0O,J1,I0AU,I0KA,J1H,I1G,J1H,I1NG,I1C,J1H,I1J,J1H,I1NY,I1TT,K1H,I1DD"),
    (0xA89F, "K1H,I1NN,I1T,J1H,I1D,J1H,I1N,I1P,J1H,I1B,J1H,I1M,I1Y,I1R,I1L,I1V,I1SH,J1S,J1,I1H"),
    (0xA8B3, "I1LL,B0CONSONANT SIGN HAARU,B0VOWEL SIGN AA,M0I,N1,M0U,N1,M0VOCALIC R,V1,U0L,V1,M0E"),
    (0xA8BF, "N1,M0AI,M0O,N1,M0AU,B0SIGN VIRAMA,G0CANDRABINDU")
  ]

/-- Names from U+A8CE on, below U+109BC. -/
def namesFromA8CE : List (Nat × String) :=
  [
    (0xA8CE, "00SAURASHTRA DANDA,C6OUBLE,C0IGIT ZERO,H0ONE,H0TWO,I0HREE,H0FOUR,I0IVE,H0SIX,I0EVEN"),
    (0xA8D8, "H0EIGHT,H0NINE"),
    (0xA8E0, "00COMBINING DEVANAGARI DIGIT ZERO,R0ONE,R0TWO,S0HREE,R0FOUR,S0IVE,R0SIX,S0EVEN"),
    (0xA8E8, "R0EIGHT,R0NINE,L0LETTER A,S0U,S0KA,S1N,S1P,S1R,S0VI,L0SIGN AVAGRAHA"),
    (0xA8F2, "00DEVANAGARI SIGN SPACING CANDRABINDU,G0CANDRABINDU VIRAMA,GJDOUBLE"),
    (0xA8F5, "G0CANDRABINDU TWO,T0HREE,S0AVAGRAHA,G1PUSHPIK,B0GAP FILLER,B0CARET,B0HEADSTROKE"),
    (0xA8FC, "B0SIGN SIDDHAM,B1JAIN O,B0LETTER AY,B3VOWEL SIGN,00KAYAH LI DIGIT ZERO,F0ONE,F0TWO"),
    (0xA903, "G0HREE,F0FOUR,G0IVE,F0SIX,G0EVEN,F0EIGHT,F0NINE,90LETTER KA,H1H,G1G,G2N,G1S,H1H,G1Z"),
    (0xA911, "G1NY,G1T,G2H,G1N,G1P,H1H,G1M,G1D,G1B,G1R,G1Y,G1L,G1W,G1TH,G2,G1V,G1C,G1,G0OE,G0I"),
    (0xA925, "G0OO,90VOWEL UE,F1,F0U,F0EE,F0O,90TONE PLOPHU,E0CALYA,J0 PLOPHU,90SIGN CWI,E0SHYA"),
    (0xA930, "01REJANG LETTER K,E1G,E2N,E1T,E1D,E1N,E1P,E1B,E1M,E1C,E1J,E1NY,E1S,E1R,E1L,E1Y,E1W"),
    (0xA941, "E1H,E1MB,E1NGG,F1D,F1YJ,E1,70VOWEL SIGN I,I0U,I0E,I0AI,I0O,I0AU,I1E,J0A"),
    (0xA94F, "70CONSONANT SIGN NG,N0,M0R,M0H,70VIRAMA"),
    (0xA95F, "70SECTION MARK,00HANGUL CHOSEONG TIKEUT-MIEUM,N0PIEUP,N0SIOS,N0CIEUC,G0RIEUL-KIYEOK"),
    (0xA965, "M6SSANG,M0TIKEUT,M6SSANG,M0MIEUM,M0PIEUP,M5SSANG,M5KAPYEOUN,M0SIOS,M0CIEUC"),
    (0xA96E, "M0KHIEUKH,G0MIEUM-KIYEOK,M0TIKEUT,M0SIOS,G0PIEUP-SIOS-THIEUTH,M1KHIEUK,M1HIEU"),
    (0xA975, "G0SSANGSIOS-PIEUP,G0IEUNG-RIEUL,M0HIEUH,G6SSANGCIEUC,L1THIEUT,G1PHIEUPH-HIEU"),
    (0xA97B, "G0HIEUH-SIOS,G0SSANGYEORINHIEUH"),
    (0xA980, "00JAVANESE SIGN PANYANGGA,E0CECAK,E0LAYAR,E0WIGNYAN,90LETTER A,G0I KAWI,H0,H1,G0U"),
    (0xA989, "G0PA CEREK,G0NGA LELET,P0 RASWADI,G0E,G0AI,G0O,G0KA,I0 SASAK,J0MURDA,G1G,I1 MURD"),
    (0xA994, "G1NG,G1C,I1 MURD,G1J,G1NYA MURD,G1JA MAHAPRAN,G1NY,G1TT,J1 MAHAPRAN,G1DD"),
    (0xA99E, "J1 MAHAPRAN,G1NA MURD,G1T,I1 MURD,G2,I1 MAHAPRAN,G2,G1P,I1 MURD,G1B,I1 MURD,G1M,G1Y"),
    (0xA9AB, "G1R,I0 AGUNG,G0LA,G1W,G1SA MURD,K1AHAPRAN,I0,G1H,90SIGN CECAK TELU"),
    (0xA9B4, "90VOWEL SIGN TARUNG,L2OLO,K0WULU,O0 MELIK,K0SUKU,O0 MENDUT,K0TALING,K0DIRGA MURE"),
    (0xA9BC, "K0PEPET,92CONSONANT SIGN KER,O0PENGKAL,O0CAKRA,90PANGKON,91LEFT RERENGGA,9BRIGH"),
    (0xA9C3, "90PADA ANDAP,E0MADYA,E0LUHUR,E0WINDU,E0PANGKAT,E0LINGSA,F0UNGSI,E0ADEG,I5,E0PISELEH"),
    (0xA9CD, "9DTURNED"),
    (0xA9CF, "90PANGRANGKEP,90DIGIT ZERO,F0ONE,F0TWO,G0HREE,F0FOUR,G0IVE,F0SIX,G0EVEN,F0EIGHT"),
    (0xA9D9, "F0NINE"),
    (0xA9DE, "90PADA TIRTA TUMETES,E0ISEN-ISEN,00MYANMAR LETTER SHAN GHA,K2C,K2J,K1NN,K1BH"),
    (0xA9E5, "80SIGN SHAN SAW,80MODIFIER LETTER SHAN REDUPLICATION,80LETTER TAI LAING NYA,P1F,P1G"),
    (0xA9EA, "Q1H,P1J,Q1H,P1DD,R1H,P1NN,80TAI LAING DIGIT ZERO,O0ONE,O0TWO,P0HREE,O0FOUR,P0IVE"),
    (0xA9F6, "O0SIX,P0EVEN,O0EIGHT,O0NINE,80LETTER TAI LAING LLA,P1D,Q1H,P1B,Q1H"),
    (0xAA00, "01CHAM LETTER ,C0I,C0U,C0E,C0AI,C0O,C0KA,D1H,C1G,D1H,C0NGUE,E0A,C1CH,E2,C1J,D1H"),
    (0xAA10, "C0NHUE,E0A,E1J,C1T,D1H,C1D,D1H,C0NUE,D0A,C1DD,C1P,D2,D1H,C1B,D1H,C0MUE,D0A,C1BB,C1Y"),
    (0xAA23, "C1R,C1L,C1V,C1SS,D1,C1H,51VOWEL SIGN A,G0I,H1,G1E,G0U,G0OE,H0,G0AI,H0U,G0UE"),
    (0xAA33, "50CONSONANT SIGN YA,K1R,K1L,K1W"),
    (0xAA40, "50LETTER FINAL K,I0G,I1N,59CONSONANT SIGN,50LETTER FINAL CH,I0T,I0N,I0P,I0Y,I0R,I0L"),
    (0xAA4B, "I0SS,50CONSONANT SIGN FINAL M,Q0H"),
    (0xAA50, "50DIGIT ZERO,B0ONE,B0TWO,C0HREE,B0FOUR,C0IVE,B0SIX,C0EVEN,B0EIGHT,B0NINE"),
    (0xAA5C, "50PUNCTUATION SPIRAL,H0DANDA,I6OUBLE,H8TRIP,01MYANMAR LETTER KHAMTI G,M1C,N1H,M1J"),
    (0xAA64, "N1H,M1NY,M1TT,O1H,M1DD,O1H,N2,M1N,M1S,M1H,N2,M1F"),
    (0xAA70, "80MODIFIER LETTER KHAMTI REDUPLICATION,80LETTER KHAMTI XA,M1Z,M1R"),
    (0xAA74, "90OGOGRAM KHAMTI OAY,O0QN,O0HM,80SYMBOL AITON EXCLAMATION,L0ONE,L0TWO"),
    (0xAA7A, "80LETTER AITON RA,80SIGN PAO KAREN TONE,D0TAI LAING TONE-2,S05"),
    (0xAA7E, "80LETTER SHWE PALAUNG CHA,S2S,00TAI VIET LETTER LOW KO,G3HIGH,G1LOW KH,G4HIGH"),
    (0xAA84, "G2LOW KH,G5HIGH,G1LOW G,G3HIGH,G2LOW N,G4HIGH,G1LOW C,G3HIGH,G1LOW CH,G4HIGH"),
    (0xAA8E, "G1LOW S,G3HIGH,G1LOW NY,G4HIGH,G1LOW D,G3HIGH,G1LOW T,G3HIGH,G1LOW TH,G4HIGH"),
    (0xAA98, "G1LOW N,G3HIGH,G1LOW B,G3HIGH,G1LOW P,G3HIGH,G1LOW PH,G4HIGH,G1LOW F,G3HIGH,G1LOW M"),
    (0xAAA3, "G3HIGH,G1LOW Y,G3HIGH,G1LOW R,G3HIGH,G1LOW L,G3HIGH,G1LOW V,G3HIGH,G1LOW H,G3HIGH"),
    (0xAAAE, "G1LOW ,G2HIGH,90MAI KANG,90VOWEL AA,F0I,F0UE,G0,F0E,F0O,90MAI KHIT,90VOWEL IA,F1UE"),
    (0xAABA, "G1,F0AUE,G0Y,G0N,G0M,90TONE MAI EK,I0NUENG,I0THO,I0SONG"),
    (0xAADB, "90SYMBOL KON,G0NUENG,G0SAM,G0HO HOI,G2KOI K,00MEETEI MAYEK LETTER E,K0O,K0CHA,K1NY"),
    (0xAAE4, "K1TT,M1H,K1DD,M1H,K1NN,K1SH,L1S,D0VOWEL SIGN II,O0UU,O0AAI,P0U,P2,D0CHEIKHAN"),
    (0xAAF1, "D0AHANG KHUDAM,E0NJI,D0SYLLABLE REPETITION MARK,DGWORD,D0VOWEL SIGN VISARGA,E1IRAM"),
    (0xAB01, "00ETHIOPIC SYLLABLE TTHU,L0I,L0AA,L0EE,M0,L0O"),
    (0xAB09, "I0DDHU,L0I,L0AA,L0EE,M0,L0O"),
    (0xAB11, "J0ZU,K0I,K0AA,K0EE,L0,K0O"),
    (0xAB20, "I0CCHHA,M0U,M0I,M0AA,M0EE,N0,M0O"),
    (0xAB28, "I0BBA,K0U,K0I,K0AA,K0EE,L0,K0O"),
    (0xAB30, "00LATIN SMALL LETTER BARRED ALPHA,J1A REVERSED-SCHW,J0BLACKLETTER E,K2ARRED"),
    (0xAB34, "J0E WITH FLOURISH,J0LENIS F,J0SCRIPT G WITH CROSSED-TAIL,J0L WITH INVERTED LAZY S"),
    (0xAB38, "Q0DOUBLE MIDDLE TILDE,Q0MIDDLE RING,J0M WITH CROSSED-TAIL,JIN,JIENG,J0BLACKLETTER O"),
    (0xAB3E, "W0 WITH STROKE,JEOPEN,J1INVERTED O,J1TURNED OE WITH STROK,Y7HORIZONTAL,R0 OPEN-O"),
    (0xAB44, "Y0 WITH STROKE,J0STIRRUP R,60LETTER SMALL CAPITAL R WITH RIGHT LEG"),
    (0xAB47, "60SMALL LETTER R WITHOUT HANDLE,J0DOUBLE R,J0R WITH CROSSED-TAIL,JKDOUBLE"),
    (0xAB4B, "J0SCRIPT R,R0 WITH RING,J0BASELINE ESH,J0U WITH SHORT RIGHT LEG,LLBAR,K0I,J3TURNED"),
    (0xAB52, "J0U WITH LEFT HOOK,J0CHI,M0 WITH LOW RIGHT RING,W0LEFT SERIF"),
    (0xAB56, "J0X WITH LOW RIGHT RING,S1NG LEFT LE,Z1 LEG AND LOW RIGHT RIN,Z0 LEG WITH SERIF"),
    (0xAB5A, "J0Y WITH SHORT RIGHT LEG,00MODIFIER BREVE WITH INVERTED BREVE,90LETTER SMALL HENG"),
    (0xAB5D, "M0L WITH INVERTED LAZY S,T0MIDDLE TILDE,M0U WITH LEFT HOOK"),
    (0xAB60, "00LATIN SMALL LETTER SAKHA YAT,J0IOTIFIED E,J1OPEN O,J0UO,J0INVERTED ALPHA"),
    (0xAB65, "01GREEK LETTER SMALL CAPITAL OMEG"),
    (0xAB66, "00LATIN SMALL LETTER DZ DIGRAPH WITH RETROFLEX HOOK,JSTS"),
    (0xAB68, "K0URNED R WITH MIDDLE TILDE,00MODIFIER LETTER SMALL TURNED W,G0LEFT TACK,G6RIGH"),
    (0xAB70, "00CHEROKEE SMALL LETTER A,M0E,M0I,M0O,M0U,M0V,M0GA,M1K,M0GE,N0I,N0O,N0U,N0V,M0HA"),
    (0xAB7E, "N0E,N0I,N0O,N0U,N0V,M0LA,N0E,N0I,N0O,N0U,N0V,M0MA,N0E,N0I,N0O,N0U,M0NA,M2H,M0NAH"),
    (0xAB91, "N0E,N0I,N0O,N0U,N0V,M0QUA,O0E,O0I,O0O,O0U,O0V,M0SA,N0,N0E,N0I,N0O,N0U,N0V,M0DA,M1T"),
    (0xABA5, "M0DE,M1T,M0DI,M1T,M0DO,N0U,N0V,N0LA,M2T,O0E,O0I,O0O,O0U,O0V,N0SA,O0E,O0I,O0O,O0U"),
    (0xABB8, "O0V,M0WA,N0E,N0I,N0O,N0U,N0V,M0YA,00MEETEI MAYEK LETTER KOK,K0SAM,K0LAI,K0MIT,K0PA"),
    (0xABC5, "K1N,K0CHIL,K2T,K0KHOU,K2NG,K2TH,K0WAI,K0YANG,K0HUK,K0UN,K0I,K0PHAM,K0ATIYA,K0GOK"),
    (0xABD3, "K0JHAM,K0RAI,K0BA,K0JIL,K2D,K0GHOU,K3D,K0BHAM,K1KOK LONSU,K7LAI,K7MIT,K7PA,K8N"),
    (0xABE0, "K7TIL,K7NGOU,K7I,D0VOWEL SIGN ONAP,O3I,O3A,O3YE,O3SOU,O4,O3CHEI,O0NUNG,D0CHEIKHEI"),
    (0xABEC, "D0LUM IYEK,D5APUN"),
    (0xABF0, "D0DIGIT ZERO,J0ONE,J0TWO,K0HREE,J0FOUR,K0IVE,J0SIX,K0EVEN,J0EIGHT,J0NINE"),
    (0xD7B0, "00HANGUL JUNGSEONG O-YEO,J0O-I,H0YO-A,L0E,K0EO,H2U-Y,J0I-I,H0YU-AE,K0O,H0EU-A,K0EO"),
    (0xD7BB, "L0,K0O,H2I-YA,L0E,K0EO,L0,J0O-I,J0YO,K0U,J0I,H0ARAEA-A,N0E"),
    (0xD7CB, "80ONGSEONG NIEUN-RIEUL,N0CHIEUCH,H0SSANGTIKEUT,S0-PIEUP,HC,O0SIOS,S0-KIYEOK,O0CIEUC"),
    (0xD7D3, "P0HIEUCH,O1THIEUT,H0RIEUL-SSANGKIYEOK,N0KIYEOK-HIEUH,H1SSANGRIEUL-KHIEUK"),
    (0xD7D8, "H1RIEUL-MIEUM-HIEU,N0PIEUP-TIKEUT,T0PHIEUPH,N0YESIEUNG,P0ORINHIEUH-HIEUH"),
    (0xD7DD, "H0KAPYEOUNRIEUL,H0MIEUM-NIEUN,N5SSANG,H0SSANGMIEUM,H0MIEUM-PIEUP-SIOS,N0CIEUC"),
    (0xD7E3, "H0PIEUP-TIKEUT,N0RIEUL-PHIEUPH,N0MIEUM,H0SSANGPIEUP,H0PIEUP-SIOS-TIKEUT,N0CIEUC"),
    (0xD7E9, "O0HIEUCH,H0SIOS-MIEUM,M0KAPYEOUNPIEUP,I0SANGSIOS-KIYEOK,R0TIKEUT,I0IOS-PANSIOS"),
    (0xD7EF, "M0CIEUC,N0HIEUCH,M1THIEUT,M1HIEU,H0PANSIOS-PIEUP,P5KAPYEOUN,H0YESIEUNG-MIEUM"),
    (0xD7F6, "Q0HIEUH,H0CIEUC-PIEUP,N5SSANG,H0SSANGCIEUC,H0PHIEUPH-SIOS,P0THIEUTH"),
    (0xFB00, "00LATIN SMALL LIGATURE FF,M0I,M0L,M0FI,N0L,L0LONG S T,L1S"),
    (0xFB13, "00ARMENIAN SMALL LIGATURE MEN NOW,S0ECH,S0INI,O0VEW NOW,O0MEN XEH"),
    (0xFB1D, "00HEBREW LETTER YOD WITH HIRIQ,70POINT JUDEO-SPANISH VARIKA"),
    (0xFB1F, "70LIGATURE YIDDISH YOD YOD PATAH,80ETTER ALTERNATIVE AYIN,E0WIDE ALEF,J0DALET,J0HE"),
    (0xFB24, "J0KAF,J0LAMED,J0FINAL MEM,J0RESH,J0TAV,E0ALTERNATIVE PLUS SIGN,E0SHIN WITH SHIN DOT"),
    (0xFB2B, "P6,O6DAGESH AND SH,Z6S,E0ALEF WITH PATAH,O0QAMATS,O0MAPIQ,E0BET WITH DAGESH,ECGIMEL"),
    (0xFB33, "ECDALET,E0HE WITH MAPIQ,E0VAV WITH DAGESH,ECZAYIN"),
    (0xFB38, "ECTET,ECYOD,ECFINAL KAF,EF,ECLAMED"),
    (0xFB3E, "ECMEM"),
    (0xFB40, "ECNUN,ECSAMEKH"),
    (0xFB43, "ECFINAL PE,EE"),
    (0xFB46, "ECTSADI,ECQOF,ECRESH,ECSHIN,ECTAV,E0VAV WITH HOLAM,E0BET WITH RAFE,EAKAF,EAPE"),
    (0xFB4F, "80IGATURE ALEF LAMED,00ARABIC LETTER ALEF WASLA ISOLATED FORM,P5FINAL"),
    (0xFB52, "E5BEEH ISOLATED,J5FINAL,J7INITI,J8MED,E5PEH ISOLATED,I5FINAL,I7INITI,I8MED"),
    (0xFB5A, "E5BEHEH ISOLATED,K5FINAL,K7INITI,K8MED,E5TTEHEH ISOLATED,L5FINAL,L7INITI,L8MED"),
    (0xFB62, "F5EHEH ISOLATED,K5FINAL,K7INITI,K8MED,F5TEH ISOLATED,J5FINAL,J7INITI,J8MED"),
    (0xFB6A, "E5VEH ISOLATED,I5FINAL,I7INITI,I8MED,E5PEHEH ISOLATED,K5FINAL,K7INITI,K8MED"),
    (0xFB72, "E5DYEH ISOLATED,J5FINAL,J7INITI,J8MED,E5NYEH ISOLATED,J5FINAL,J7INITI,J8MED"),
    (0xFB7A, "E5TCHEH ISOLATED,K5FINAL,K7INITI,K8MED,J5EH ISOLATED,M5FINAL,M7INITI,M8MED"),
    (0xFB82, "E5DDAHAL ISOLATED,L5FINAL,F5AHAL ISOLATED,K5FINAL,F5UL ISOLATED,I5FINAL"),
    (0xFB88, "F5DAL ISOLATED,J5FINAL,E5JEH ISOLATED,I5FINAL,E5RREH ISOLATED,J5FINAL"),
    (0xFB8E, "E5KEHEH ISOLATED,K5FINAL,K7INITI,K8MED,E5GAF ISOLATED,I5FINAL,I7INITI,I8MED"),
    (0xFB96, "F5UEH ISOLATED,J5FINAL,J7INITI,J8MED,E5NGOEH ISOLATED,K5FINAL,K7INITI,K8MED"),
    (0xFB9E, "F5OON GHUNNA ISOLATED,Q5FINAL,E5RNOON ISOLATED,K5FINAL,K7INITI,K8MED"),
    (0xFBA4, "E5HEH WITH YEH ABOVE ISOLATED,X5FINAL,I5GOAL ISOLATED,N5FINAL,N7INITI,N8MED"),
    (0xFBAA, "I5DOACHASHMEE ISOLATED,U5FINAL,U7INITI,U8MED,E5YEH BARREE ISOLATED,P5FINAL"),
    (0xFBB0, "P5WITH HAMZA ABOVE ISOLATED,Z5 ABOVE FINAL,70SYMBOL DOT ABOVE,I0BELOW"),
    (0xFBB4, "E0TWO DOTS ABOVE,N0BELOW,F0HREE DOTS ABOVE,P0BELOW,P0POINTING DOWNWARDS ABOVE"),
    (0xFBB9, "Z0OWNWARDS BELOW,E0FOUR DOTS ABOVE,O0BELOW,E6DOUBLE VERTICAL BAR"),
    (0xFBBD, "E0TWO DOTS VERTICALLY ABOVE,Y0BELOW,E0RING,E0SMALL TAH ABOVE,O0BELOW,E0WASLA ABOVE"),
    (0xFBD3, "70LETTER NG ISOLATED FORM,H5FINAL,H7INITI,H8MED,E5U ISOLATED,G5FINAL,E5OE ISOLATED"),
    (0xFBDA, "H5FINAL,E5YU ISOLATED,H5FINAL,E5U WITH HAMZA ABOVE ISOLATED,EG,H5FINAL"),
    (0xFBE0, "E5KIRGHIZ OE ISOLATED,P5FINAL,M5YU ISOLATED,P5FINAL,E5E ISOLATED,G5FINAL,G7INITI"),
    (0xFBE7, "G8MED,E8UIGHUR KAZAKH KIRGHIZ ALEF MAKSURA INIT,Z8 ALEF MAKSURA MED"),
    (0xFBEA, "85IGATURE YEH WITH HAMZA ABOVE WITH ALEF ISOLATED,Z5E WITH ALEF FINAL"),
    (0xFBEC, "Z5E WITH AE ISOLATED,Z5E WITH AE FINAL,Z5E WITH WAW ISOLATED,Z5E WITH WAW FINAL"),
    (0xFBF0, "Z5E WITH U ISOLATED,Z5E WITH U FINAL,Z5E WITH OE ISOLATED,Z5E WITH OE FINAL"),
    (0xFBF4, "Z5E WITH YU ISOLATED,Z5E WITH YU FINAL,Z5E WITH E ISOLATED,Z5E WITH E FINAL"),
    (0xFBF8, "Z7E WITH E INITI,G5UIGHUR KIRGHIZ YEH WITH HAMZA ABOVE WITH ALEF MAKSURA ISOLATED"),
    (0xFBFA, "Z5WITH HAMZA ABOVE WITH ALEF MAKSURA FINAL"),
    (0xFBFB, "Z7WITH HAMZA ABOVE WITH ALEF MAKSURA INITI,85ETTER FARSI YEH ISOLATED,O5FINAL"),
    (0xFBFE, "O7INITI,O8MED,85IGATURE YEH WITH HAMZA ABOVE WITH JEEM ISOLATED,ZEE WITH HAH"),
    (0xFC02, "ZEE WITH MEEM,ZEE WITH ALEF MAKSURA,ZEE WITH YEH,GEBEH WITH JEEM,PEHAH,PHK,PEMEEM"),
    (0xFC09, "PEALEF MAKSURA,PEYEH,GETEH WITH JEEM,PEHAH,PHK,PEMEEM,PEALEF MAKSURA,PEYEH"),
    (0xFC11, "HEHEH WITH JEEM,QHM,QEALEF MAKSURA,QEYEH,GFJEEM WITH HA,QEMEEM,GHHAH WITH J,PHM"),
    (0xFC19, "GHKHAH WITH J,QEHAH,QEMEEM,GHSEEN WITH J,QEHAH,QHK,QEMEEM,HEAD WITH HAH,PEMEEM"),
    (0xFC22, "GHDAD WITH J,PEHAH,PHK,PEMEEM,GETAH WITH HAH,PEMEEM,GQZ,GHAIN WITH J,PHM"),
    (0xFC2B, "GHGHAIN WITH J,RHM,GHFEH WITH J,PEHAH,PHK,PEMEEM,PEALEF MAKSURA,PEYEH,GFQAF WITH HA"),
    (0xFC34, "PEMEEM,PEALEF MAKSURA,PEYEH,GEKAF WITH ALEF,PEJEEM,PEHAH,PHK,PELAM,PFMEE"),
    (0xFC3D, "PEALEF MAKSURA,PEYEH,GELAM WITH JEEM,PEHAH,PHK,PEMEEM,PEALEF MAKSURA,PEYEH"),
    (0xFC45, "GEMEEM WITH JEEM,QEHAH,QHK,QEMEEM,QEALEF MAKSURA,QEYEH,GENOON WITH JEEM,QEHAH,QHK"),
    (0xFC4E, "QEMEEM,QEALEF MAKSURA,QEYEH,GEHEH WITH JEEM,PHM,PEALEF MAKSURA,PEYEH"),
    (0xFC55, "GEYEH WITH JEEM,PEHAH,PHK,PEMEEM,PEALEF MAKSURA,PEYEH,GETHAL WITH SUPERSCRIPT ALEF"),
    (0xFC5C, "GZREH ,GZALEF MAKSURA ,GESHADDA WITH DAMMATAN,SIKASR,SEFATHA,SFDAMM,SFKASR"),
    (0xFC63, "SESUPERSCRIPT ALEF,G5YEH WITH HAMZA ABOVE WITH REH FINAL,ZBE WITH ZAIN"),
    (0xFC66, "ZBE WITH MEEM,ZBE WITH NOON,ZBE WITH ALEF MAKSURA,ZBE WITH YEH,GDBEH WITH R,PBZAIN"),
    (0xFC6C, "PBMEEM,PBNOON,PBALEF MAKSURA,PBYEH,GDTEH WITH R,PBZAIN,PBMEEM,PBNOON,PBALEF MAKSURA"),
    (0xFC75, "PBYEH,HDHEH WITH R,QBZAIN,QBMEEM,QBNOON,QBALEF MAKSURA,QBYEH"),
    (0xFC7C, "GBFEH WITH ALEF MAKSURA,PBYEH,GBQAF WITH ALEF MAKSURA,PBYEH,GBKAF WITH ALEF,PBLAM"),
    (0xFC82, "PCMEE,PBALEF MAKSURA,PBYEH,GBLAM WITH MEEM,PBALEF MAKSURA,PBYEH,GBMEEM WITH ALEF"),
    (0xFC89, "QBMEEM,GBNOON WITH REH,QBZAIN,QBMEEM,QBNOON,QBALEF MAKSURA,QBYEH"),
    (0xFC90, "GBALEF MAKSURA WITH SUPERSCRIPT ALEF,GBYEH WITH REH,PBZAIN,PBMEEM,PBNOON"),
    (0xFC95, "PBALEF MAKSURA,PBYEH,P7HAMZA ABOVE WITH JEEM INITI,ZDE WITH HAH,ZGE WITH K"),
    (0xFC9A, "ZDE WITH MEEM,ZDE WITH HEH,GDBEH WITH JEEM,PDHAH,PGK,PDMEEM,PDHEH,GDTEH WITH JEEM"),
    (0xFCA2, "PDHAH,PGK,PDMEEM,PDHEH,HDHEH WITH MEEM,GDJEEM WITH HAH,QDMEEM,GGHAH WITH J,PGM"),
    (0xFCAB, "GGKHAH WITH J,QGM,GGSEEN WITH J,QDHAH,QGK,QDMEEM,HDAD WITH HAH,PGK,PDMEEM"),
    (0xFCB4, "GGDAD WITH J,PDHAH,PGK,PDMEEM,GDTAH WITH HAH,GDZAH WITH MEEM,GGAIN WITH J,PGM"),
    (0xFCBC, "GGGHAIN WITH J,RGM,GGFEH WITH J,PDHAH,PGK,PDMEEM,GDQAF WITH HAH,PDMEEM,GGKAF WITH J"),
    (0xFCC5, "PDHAH,PGK,PDLAM,PEMEE,GGLAM WITH J,PDHAH,PGK,PDMEEM,PDHEH,GDMEEM WITH JEEM,QDHAH"),
    (0xFCD0, "QGK,QDMEEM,GGNOON WITH J,QDHAH,QGK,QDMEEM,QDHEH,GDHEH WITH JEEM,PGM"),
    (0xFCD9, "PDSUPERSCRIPT ALEF,GDYEH WITH JEEM,PDHAH,PGK,PDMEEM,PDHEH"),
    (0xFCDF, "Q8AMZA ABOVE WITH MEEM MED,ZCE WITH HEH,GCBEH WITH MEEM,PCHEH,GCTEH WITH MEEM,PCHEH"),
    (0xFCE5, "HCHEH WITH MEEM,QCHEH,GCSEEN WITH MEEM,QCHEH,HCHEEN WITH MEEM,RCHEH,GCKAF WITH LAM"),
    (0xFCEC, "PDMEE,GMLAM,GMNOON,QCHEH,GCYEH WITH MEEM,PCHEH,GCSHADDA WITH FATHA,SDDAMM,SDKASR"),
    (0xFCF5, "G5TAH WITH ALEF MAKSURA ISOLATED,PEYEH,GEAIN WITH ALEF MAKSURA,PEYEH"),
    (0xFCF9, "GEGHAIN WITH ALEF MAKSURA,REYEH,GESEEN WITH ALEF MAKSURA,QEYEH"),
    (0xFCFD, "HEHEEN WITH ALEF MAKSURA,REYEH,GEHAH WITH ALEF MAKSURA,PEYEH"),
    (0xFD01, "GEJEEM WITH ALEF MAKSURA,QEYEH,GEKHAH WITH ALEF MAKSURA,QEYEH"),
    (0xFD05, "GESAD WITH ALEF MAKSURA,PEYEH,GEDAD WITH ALEF MAKSURA,PEYEH,GESHEEN WITH JEEM,REHAH"),
    (0xFD0B, "RHK,REMEEM,REREH,HQ,HNAD,GPD,G5TAH WITH ALEF MAKSURA FINAL,PBYEH"),
    (0xFD13, "GBAIN WITH ALEF MAKSURA,PBYEH,GBGHAIN WITH ALEF MAKSURA,RBYEH"),
    (0xFD17, "GBSEEN WITH ALEF MAKSURA,QBYEH,HBHEEN WITH ALEF MAKSURA,RBYEH"),
    (0xFD1B, "GBHAH WITH ALEF MAKSURA,PBYEH,GBJEEM WITH ALEF MAKSURA,QBYEH"),
    (0xFD1F, "GBKHAH WITH ALEF MAKSURA,QBYEH,GBSAD WITH ALEF MAKSURA,PBYEH"),
    (0xFD23, "GBDAD WITH ALEF MAKSURA,PBYEH,GBSHEEN WITH JEEM,RBHAH,REK,RBMEEM,RBREH,HN,HKAD,GMD"),
    (0xFD2D, "G7SHEEN WITH JEEM INITI,RDHAH,RGK,RDMEEM,HDEEN WITH HEH,HPH,GDTAH WITH MEEM"),
    (0xFD34, "G8SEEN WITH JEEM MED,QCHAH,QFK,HCHEEN WITH JEEM,RCHAH,RFK,GCTAH WITH MEEM,GOZ"),
    (0xFD3C, "G7ALEF WITH FATHATAN FIN,Z5ISOLATED,00ORNATE LEFT PARENTHESIS,7DRIGH"),
    (0xFD40, "00ARABIC LIGATURE RAHIMAHU ALLAAH,I1DI ALLAAHU AN,W0AA,W0UM,Y0AA,X1NN"),
    (0xFD46, "G0SALLALLAAHU ALAYHI WA-AALIH,G0ALAYHI AS-SALAAM,MAM,NAAA,M9 AS-SALAATU W"),
    (0xFD4B, "G0QUDDISA SIRRAH,G0SALLALLAHU ALAYHI WAAALIHEE WA-SALLAM,G2ALAYHAA AS-SALA"),
    (0xFD4E, "G0TABAARAKA WA-TAAALAA,G0RAHIMAHUM ALLAAH,G0TEH WITH JEEM WITH MEEM INITIAL FORM"),
    (0xFD51, "P7HAH WITH JEEM FIN,Z7EEM INITI,YGM,PQK,PGMEEM WITH J,ZDHAH,ZGK"),
    (0xFD58, "G7JEEM WITH MEEM WITH HAH FIN,Z7 HAH INITI,G7HAH WITH MEEM WITH YEH FIN"),
    (0xFD5B, "ZBALEF MAKSURA,G7SEEN WITH HAH WITH JEEM INITI,QDJEEM WITH HAH,Z7 ALEF MAKSURA FIN"),
    (0xFD5F, "QBMEEM WITH HAH,Z7 HAH INITI,ZD JEEM,Z7 MEEM FIN,Z7 MEEM INITI"),
    (0xFD64, "H7AD WITH HAH WITH HAH FIN,Z7AH INITI,P7MEEM WITH MEEM FIN,HLHEEN WITH HAH"),
    (0xFD68, "Z7 MEEM INITI,R7JEEM WITH YEH FIN,RCMEEM WITH KHA,Z7H KHAH INITI,Z7H MEEM FIN"),
    (0xFD6D, "Z7H MEEM INITI,G7DAD WITH HAH WITH ALEF MAKSURA FIN,PBKHAH WITH MEEM,Z7MEEM INITI"),
    (0xFD71, "G7TAH WITH MEEM WITH HAH FIN,Z7HAH INITI,ZDMEEM,Z7YEH FIN,GBAIN WITH JEEM WITH MEEM"),
    (0xFD76, "POM,Z7MEEM INITI,Z7ALEF MAKSURA FIN,GBGHAIN WITH MEEM WITH MEEM,ZBH YEH"),
    (0xFD7B, "ZBH ALEF MAKSURA,GBFEH WITH KHAH WITH MEEM,Z7MEEM INITI"),
    (0xFD7E, "G7QAF WITH MEEM WITH HAH FIN,ZBMEEM,GLLAM WITH HAH,YBYEH,YBALEF MAKSURA"),
    (0xFD83, "P7JEEM WITH JEEM INITI,Z7JEEM FIN,PEKHAH WITH M,Z7MEEM INITI,P7MEEM WITH HAH FIN"),
    (0xFD88, "Z7HAH INITI,GDMEEM WITH HAH WITH JEEM,ZGM,Z7YEH FIN,Q7JEEM WITH HAH INITI,ZD MEEM"),
    (0xFD8E, "QGKHAH WITH J,ZG M"),
    (0xFD92, "QDJEEM WITH KHAH,GDHEH WITH MEEM WITH JEEM,ZGM,GNNOON WITH HAH,Z7ALEF MAKSURA FIN"),
    (0xFD97, "QBJEEM WITH MEEM,Z7 MEEM INITI,Z7 ALEF MAKSURA FIN,QBMEEM WITH YEH,ZB ALEF MAKSURA"),
    (0xFD9C, "GBYEH WITH MEEM WITH MEEM,Z7MEEM INITI,G7BEH WITH KHAH WITH YEH FIN,GKTEH WITH JEEM"),
    (0xFDA0, "ZBALEF MAKSURA,PBKHAH WITH YEH,ZBALEF MAKSURA,PBMEEM WITH YEH,ZBALEF MAKSURA"),
    (0xFDA5, "GBJEEM WITH MEEM WITH YEH,QBHAH WITH ALEF MAKSURA,QTMEEM,GTSEEN WITH KHAH"),
    (0xFDA9, "HBAD WITH HAH WITH YEH,HTHEEN,GTDAD,GKLAM WITH JEEM,PNM,GKYEH WITH HAH,PKJEEM,PNM"),
    (0xFDB1, "GUMEEM,GUQAF,GKNOON WITH HAH,G7QAF WITH MEEM WITH HAH INITI"),
    (0xFDB5, "GDLAM WITH HAH WITH MEEM,G7AIN WITH MEEM WITH YEH FIN,GUKAF"),
    (0xFDB8, "G7NOON WITH JEEM WITH HAH INITI,G7MEEM WITH KHAH WITH YEH FIN"),
    (0xFDBA, "G7LAM WITH JEEM WITH MEEM INITI,G7KAF WITH MEEM WITH MEEM FIN,GOLAM WITH J"),
    (0xFDBD, "GBNOON WITH JEEM WITH HAH,GCJEEM WITH HAH WITH YE,GKHAH WITH JEEM,GUMEEM"),
    (0xFDC1, "GNFEH WITH M,GKBEH WITH HAH,G7KAF WITH MEEM WITH MEEM INITI,GQAIN WITH J"),
    (0xFDC5, "GQSAD WITH M,H7EEN WITH KHAH WITH YEH FIN,GKNOON WITH JEEM"),
    (0xFDCF, "G0SALAAMUHU ALAYNAA"),
    (0xFDF0, "J0LA USED AS KORANIC STOP SIGN ISOLATED FORM,GZQALA USED,GEALLAH,HEKBAR,GEMOHAMMAD"),
    (0xFDF5, "GESALAM,GERASOUL,GEALAYHE,GEWASALLAM,GESALLA,L1LLAHOU ALAYHE WASALLA"),
    (0xFDFB, "G0JALLAJALALOUHOU,00RIAL SIGN,00ARABIC LIGATURE BISMILLAH AR-RAHMAN AR-RAHEEM"),
    (0xFDFE, "G0SUBHAANAHU WA TAAALAA,G0AZZA WA JALL,00VARIATION SELECTOR-1,J02,J03,J04,J05,J06"),
    (0xFE06, "J07,J08,J09,J010,K01,K02,K03,K04,K05,K06,00PRESENTATION FORM FOR VERTICAL COMMA"),
    (0xFE11, "V6IDEOGRAPHIC,Z0GRAPHIC FULL STOP,V0COLON,V5SEMI,V0EXCLAMATION MARK,V9QUES"),
    (0xFE17, "V0LEFT WHITE LENTICULAR BRACKET,V2RIGHT WHITE LENTICULAR BRAKC"),
    (0xFE19, "V0HORIZONTAL ELLIPSIS"),
    (0xFE20, "00COMBINING LIGATURE LEFT HALF,J6RIGH,A6DOUBLE TILDE LEF,N6RIGH,A6MACRON LEF,H6RIGH"),
    (0xFE26, "A0CONJOINING MACRON,A0LIGATURE LEFT HALF BELOW,JCRIGH,ACTILDE LEF,GCRIGH"),
    (0xFE2B, "ACMACRON LEF,HCRIGH,A6CONJOINING MACRON,B0YRILLIC TITLO LEFT HALF,P6RIGH"),
    (0xFE30, "00PRESENTATION FORM FOR VERTICAL TWO DOT LEADER,V0EM DASH,W5N,V0LOW LINE,V9WAVY"),
    (0xFE35, "V0LEFT PARENTHESIS,VDRIGH,V0LEFT CURLY BRACKET,VFRIGH,V8LEFT TORTOISE SHELL,VORIGH"),
    (0xFE3B, "V8LEFT BLACK LENTICULAR,VQRIGH,V8LEFT DOUBLE ANGLE,VMRIGH,VELEFT,VFRIGH"),
    (0xFE41, "V8LEFT CORNER,VGRIGH,VFLEFT WHITE,VMRIGH,01SESAME DO,0AWHITE "),
    (0xFE47, "01PRESENTATION FORM FOR VERTICAL LEFT SQUARE BRACKE,VGRIGH,00DASHED OVERLINE"),
    (0xFE4A, "09CENTRELINE,09WAVY,0DDOUBLE ,14ASHED LOW ,09CENTRELINE,09WAVY,00SMALL COMMA"),
    (0xFE51, "66IDEOGRAPHIC,60FULL STOP"),
    (0xFE54, "60SEMICOLON,65,60QUESTION MARK,69EXCLAMA,70M DASH,60LEFT PARENTHESIS,6DRIGH"),
    (0xFE5B, "60LEFT CURLY BRACKET,6FRIGH,68LEFT TORTOISE SHELL,6ORIGH,60NUMBER SIGN,60AMPERSAND"),
    (0xFE61, "70STERISK,60PLUS SIGN,60HYPHEN-MINUS,60LESS-THAN SIGN,6AGREATER,65EQUALS"),
    (0xFE68, "60REVERSE SOLIDUS,60DOLLAR SIGN,65PERCENT,60COMMERCIAL AT"),
    (0xFE70, "00ARABIC FATHATAN ISOLATED FORM,70TATWEEL WITH FATHATAN ABOVE"),
    (0xFE72, "70DAMMATAN ISOLATED FORM,70TAIL FRAGMENT,70KASRATAN ISOLATED FORM"),
    (0xFE76, "7EFATHA,D5MEDIAL,75DAMMA ISOLATED,D5MEDIAL,75KASRA ISOLATED,D5MEDIAL"),
    (0xFE7C, "75SHADDA ISOLATED,E5MEDIAL,85UKUN ISOLATED,D5MEDIAL,75LETTER HAMZA ISOLATED"),
    (0xFE81, "EEALEF WITH MADDA ABOVE,Z5 FINAL,O5HAMZA ABOVE ISOLATED,Z5 FINAL"),
    (0xFE85, "E5WAW WITH HAMZA ABOVE ISOLATED,Z5FINAL,E5ALEF WITH HAMZA BELOW ISOLATED,Z5 FINAL"),
    (0xFE89, "E5YEH WITH HAMZA ABOVE ISOLATED,Z5FINAL,Z7INITI,Z8MED,E5ALEF ISOLATED,J5FINAL"),
    (0xFE8F, "E5BEH ISOLATED,I5FINAL,I7INITI,I8MED,E5TEH MARBUTA ISOLATED,Q5FINAL,I5ISOLATED"),
    (0xFE96, "I5FINAL,I7INITI,I8MED,F5HEH ISOLATED,J5FINAL,J7INITI,J8MED,E5JEEM ISOLATED,J5FINAL"),
    (0xFE9F, "J7INITI,J8MED,E5HAH ISOLATED,I5FINAL,I7INITI,I8MED,E5KHAH ISOLATED,J5FINAL,J7INITI"),
    (0xFEA8, "J8MED,E5DAL ISOLATED,I5FINAL,E5THAL ISOLATED,J5FINAL,E5REH ISOLATED,I5FINAL"),
    (0xFEAF, "E5ZAIN ISOLATED,J5FINAL,E5SEEN ISOLATED,J5FINAL,J7INITI,J8MED,F5HEEN ISOLATED"),
    (0xFEB6, "K5FINAL,K7INITI,K8MED,F5AD ISOLATED,I5FINAL,I7INITI,I8MED,E5DAD ISOLATED,I5FINAL"),
    (0xFEBF, "I7INITI,I8MED,E5TAH ISOLATED,I5FINAL,I7INITI,I8MED,E5ZAH ISOLATED,I5FINAL,I7INITI"),
    (0xFEC8, "I8MED,E5AIN ISOLATED,I5FINAL,I7INITI,I8MED,E5GHAIN ISOLATED,K5FINAL,K7INITI,K8MED"),
    (0xFED1, "E5FEH ISOLATED,I5FINAL,I7INITI,I8MED,E5QAF ISOLATED,I5FINAL,I7INITI,I8MED"),
    (0xFED9, "E5KAF ISOLATED,I5FINAL,I7INITI,I8MED,E5LAM ISOLATED,I5FINAL,I7INITI,I8MED"),
    (0xFEE1, "E5MEEM ISOLATED,J5FINAL,J7INITI,J8MED,E5NOON ISOLATED,J5FINAL,J7INITI,J8MED"),
    (0xFEE9, "E5HEH ISOLATED,I5FINAL,I7INITI,I8MED,E5WAW ISOLATED,I5FINAL,E5ALEF MAKSURA ISOLATED"),
    (0xFEF0, "R5FINAL,E5YEH ISOLATED,I5FINAL,I7INITI,I8MED"),
    (0xFEF5, "85IGATURE LAM WITH ALEF WITH MADDA ABOVE ISOLATED,Z5MADDA ABOVE FINAL"),
    (0xFEF7, "Z5HAMZA ABOVE ISOLATED,Z5HAMZA ABOVE FINAL,Z5HAMZA BELOW ISOLATED"),
    (0xFEFA, "Z5HAMZA BELOW FINAL,U5ISOLATED,U5FINAL"),
    (0xFEFF, "00ZERO WIDTH NO-BREAK SPACE"),
    (0xFF01, "00FULLWIDTH EXCLAMATION MARK,AAQUOT,A0NUMBER SIGN,A6DOLLA,A5PERCENT,A0AMPERSAND"),
    (0xFF07, "B0POSTROPHE,A0LEFT PARENTHESIS,ADRIGH,A0ASTERISK,A0PLUS SIGN,A0COMMA,A0HYPHEN-MINUS"),
    (0xFF0E, "A0FULL STOP,A0SOLIDUS,A0DIGIT ZERO,G0ONE,G0TWO,H0HREE,G0FOUR,H0IVE,G0SIX,H0EVEN"),
    (0xFF18, "G0EIGHT,G0NINE,A0COLON,A5SEMI,A1LESS-THAN SIG,A5EQUALS,A5GREATER-THAN"),
    (0xFF1F, "A0QUESTION MARK,A0COMMERCIAL AT,A0LATIN CAPITAL LETTER A,V0B,V0C,V0D,V0E,V0F,V0G"),
    (0xFF28, "V0H,V0I,V0J,V0K,V0L,V0M,V0N,V0O,V0P,V0Q,V0R,V0S,V0T,V0U,V0V,V0W,V0X,V0Y,V0Z"),
    (0xFF3B, "B0EFT SQUARE BRACKET,A0REVERSE SOLIDUS,B0IGHT SQUARE BRACKET,A1CIRCUMFLEX ACCEN"),
    (0xFF3F, "A0LOW LINE,A0GRAVE ACCENT,A0LATIN SMALL LETTER A,T0B,T0C,T0D,T0E,T0F,T0G,T0H,T0I"),
    (0xFF4A, "T0J,T0K,T0L,T0M,T0N,T0O,T0P,T0Q,T0R,T0S,T0T,T0U,T0V,T0W,T0X,T0Y,T0Z"),
    (0xFF5B, "B0EFT CURLY BRACKET,A0VERTICAL LINE,A0RIGHT CURLY BRACKET,A0TILDE"),
    (0xFF5F, "A0LEFT WHITE PARENTHESIS,AJRIGH,00HALFWIDTH IDEOGRAPHIC FULL STOP"),
    (0xFF62, "A0LEFT CORNER BRACKET,AGRIGH,A0IDEOGRAPHIC COMMA,A0KATAKANA MIDDLE DOT,J0LETTER WO"),
    (0xFF67, "Q0SMALL A,W0I,W0U,W0E,W0O,W0YA,X0U,X0O,W0TU,I0-HIRAGANA PROLONGED SOUND MARK"),
    (0xFF71, "I0 LETTER A,Q0I,Q0U,Q0E,Q0O,Q0KA,R0I,R0U,R0E,R0O,Q0SA,R0I,R0U,R0E,R0O,Q0TA,R0I,R0U"),
    (0xFF83, "R0E,R0O,Q0NA,R0I,R0U,R0E,R0O,Q0HA,R0I,R0U,R0E,R0O,Q0MA,R0I,R0U,R0E,R0O,Q0YA,R0U,R0O"),
    (0xFF97, "Q0RA,R0I,R0U,R0E,R0O,Q0WA,Q0N,J0VOICED SOUND MARK,JHSEMI-,A0HANGUL FILLER"),
    (0xFFA1, "H0LETTER KIYEOK,O6SSANG,O0KIYEOK-SIOS,O0NIEUN,T0-CIEUC,U0HIEUH,O0TIKEUT,O6SSANG"),
    (0xFFA9, "O0RIEUL,T0-KIYEOK,U0MIEUM,U0PIEUP,U0SIOS,U0THIEUTH,U1PHIEUP,U1HIEU,O0MIEUM,O0PIEUP"),
    (0xFFB3, "O5SSANG,O0PIEUP-SIOS,O4,P4SANG,O0IEUNG,O0CIEUC,O5SSANG,O0CHIEUCH,O1KHIEUK,O1THIEUT"),
    (0xFFBD, "O1PHIEUP,O1HIEU"),
    (0xFFC2, "O0A,P0E,O0YA,Q0E,O0EO,P0"),
    (0xFFCA, "O0YEO,Q0,O0O,O0WA,Q0E,O1O"),
    (0xFFD2, "O0YO,O0U,O0WEO,Q0,P0I,O0YU"),
    (0xFFDA, "O1E,O0YI,O1"),
    (0xFFE0, "00FULLWIDTH CENT SIGN,A5POUND,A5NOT,A1MACRO,A0BROKEN BAR,A0YEN SIGN,A6WO"),
    (0xFFE8, "00HALFWIDTH FORMS LIGHT VERTICAL,A0LEFTWARDS ARROW,ABUP,ABRIGHT,ABDOWN"),
    (0xFFED, "A0BLACK SQUARE,A1WHITE CIRCL"),
    (0xFFF9, "00INTERLINEAR ANNOTATION ANCHOR,N2SEPARAT,N4TERMIN,01OBJECT REPLACEMENT CHARACTE,0L"),
    (0x10000, "00LINEAR B SYLLABLE B008 A,K038 E,K028 I,K061 O,K010 U,K001 DA,K045 DE,K007 DI"),
    (0x10008, "K014 DO,K051 DU,L07 JA,K046 JE"),
    (0x1000D, "K036 JO,K065 JU,K077 KA,K044 KE,K067 KI,K070 KO,K081 KU,L00 MA,K013 ME,K073 MI"),
    (0x10017, "K015 MO,K023 MU,K006 NA,K024 NE,K030 NI,K052 NO,L05 NU,K003 PA,K072 PE,K039 PI"),
    (0x10021, "K011 PO,K050 PU,K016 QA,K078 QE,K021 QI,K032 QO"),
    (0x10028, "K060 RA,K027 RE,K053 RI,K002 RO,K026 RU,K031 SA,K009 SE,K041 SI,K012 SO,K058 SU"),
    (0x10032, "L09 TA,K004 TE,K037 TI,K005 TO,K069 TU,K054 WA,K075 WE,K040 WI,L02 WO"),
    (0x1003C, "K017 ZA,K074 ZE"),
    (0x1003F, "K020 ZO,L05 A2,K043 A3,K085 AU,K071 DWE,K090 DWO,K048 NWA,K029 PU2,K062 PTE"),
    (0x10048, "K076 RA2,K033 RA3,K068 RO2,L16 TA,K087 TWE,K091 TWO"),
    (0x10050, "B0MBOL B018,J09,I022,I034,I047,J09,I056,I063,J04,I079,I082,J03,J06,J09"),
    (0x10080, "90IDEOGRAM B100 MAN,L32 WO,L04 DEER,L05 EQUID,M0F MARE,M0M STALLION,L06F EWE"),
    (0x10087, "M0M RAM,L07F SHE-GOAT,M7M ,L08F SOW,M0M BOAR,L09F COW,M0M BULL,K020 WHEAT"),
    (0x1008F, "L01 BARLEY,L02 OLIVE,L13 SPIC,L05 CYPERUS,90MONOGRAM B127 KAPO,L18 KANAK"),
    (0x10095, "90IDEOGRAM B130 OIL,L01 WINE,L02,90MONOGRAM B133 AREPA,L05 MERI"),
    (0x1009A, "90IDEOGRAM B140 BRONZE,L01 GOLD,L02,L05 WOOL,L06,K050,L01 HORN,L02,L03,L04"),
    (0x100A4, "90MONOGRAM B156 TURO2,90IDEOGRAM B157,L08,L09 CLOTH,K060,L01,L02 GARMENT"),
    (0x100AB, "L03 ARMOUR,L04,L05,L06,L07,L08,L09,K070,L01,L02,L03 MONTH,L04,L06 TREE,L07,L08,L09"),
    (0x100BB, "K080,L01,L02,L03,L04,L05,L09,K090,L01 HELMET,J0220 FOOTSTOOL,L05 BATHTUB"),
    (0x100C6, "K030 SPEAR,L01 ARROW,L02,L03 SWORD,L04,L06,K040 WHEELED CHARIOT,L81"),
    (0x100CE, "L02 CHARIOT FRAME,L03 WHEEL,L05,L06,90MONOGRAM B247 DIPTE,90IDEOGRAM B248,L09,K051"),
    (0x100D6, "L02,L03,L04 DART,L05,L06,L07,L08,L09,I0VESSEL B155,Q0200,S01,S02,S03,S04,S05,S06"),
    (0x100E6, "S07,S08,S09,R010,S01,S02,S03,S04,S05,S06,S07,S08,S09,R021,S02,S06,S07,S08,S09,R050"),
    (0x100FA, "Q0305"),
    (0x10100, "00AEGEAN WORD SEPARATOR LINE,M0DOT,70CHECK MARK"),
    (0x10107, "70NUMBER ONE,E0TWO,F0HREE,E0FOUR,F0IVE,E0SIX,F0EVEN,E0EIGHT,E0NINE,E0TEN,F0WENTY"),
    (0x10112, "F2HIR,E3FO,F2IF,E2SIX,F2EVEN,E2EIGH,E2NINE,E0ONE HUNDRED,E8TWO,F8HREE,E8FOUR,F8IVE"),
    (0x1011E, "E8SIX,F8EVEN,E8EIGHT,E8NINE,E1ONE THOUSAN,E9TWO,F9HREE,E9FOUR,F9IVE,E9SIX,F9EVEN"),
    (0x10129, "E9EIGHT,E9NINE,E9TEN,F9WENTY,FBHIR,ECFO,FBIF,EBSIX,FBEVEN,EBEIGH,EBNINE"),
    (0x10137, "70WEIGHT BASE UNIT,E4FIRST SUB,E8SECOND,E9THIR,E8FOURTH,78DRY MEASURE FIRST"),
    (0x1013D, "7MLIQUID,78MEASURE SECOND,F9THIR,00GREEK ACROPHONIC ATTIC ONE QUARTER,R0HALF"),
    (0x10142, "R0DRACHMA,N0FIVE,P0FTY,P0VE HUNDRED,S1THOUSAN,P9FTY,P0VE TALENTS,N8TEN,N8FIFTY"),
    (0x1014B, "N8ONE HUNDRED,NHFIV,N9ONE THOUSAN,NIFIV,S1STATER,N8TEN,N8FIFTY,N8ONE HUNDRED,NHFIV"),
    (0x10154, "N9ONE THOUSAN,NHTEN,NHFIFTY,N1TEN MNA,H0HERAEUM ONE PLETHRON,H0THESPIAN ONE"),
    (0x1015A, "H7HERMION,H0EPIDAUREAN TWO,H6THESPI,H0CYRENAIC TWO DRACHMAS,HDEPIDAUREAN"),
    (0x1015F, "H0TROEZENIAN FIVE,S0TEN,V0 ALTERNATE FORM,H0HERMIONIAN TEN,H8MESSE,H7THESP,R0HIRTY"),
    (0x10166, "I2ROEZENIAN FIF,X0 ALTERNATE FORM,H0HERMIONIAN FIFTY,H9THESP,Q0ONE HUNDRED,Q9THRE"),
    (0x1016C, "H9EPIDAUREAN FIV,HFTROEZENI,IGHESP,HGCARYST,HGNAX,H1THESPIAN ONE THOUSAN,QAFIV"),
    (0x10173, "H0DELPHIC FIVE MNAS,H5STRATIAN FIFTY,60ONE HALF SIGN,J0 ALTERNATE FORM"),
    (0x10177, "60TWO THIRDS SIGN,76HREE QUARTER,65YEAR,65TALENT,65DRACHMA,65OBOL,65TWO OBOLS"),
    (0x1017E, "7BHREE,6BFOUR,7BIVE,66METRETE,65KYATHOS BASE,65LITRA,66OUNKI,65XESTES,65ARTABE"),
    (0x10187, "85OURA,66GRAMM,65TRYBLION BASE,65ZERO,65ONE QUARTER,65SINUSOID,65INDICTION"),
    (0x1018E, "05NOMISMA"),
    (0x10190, "05ROMAN SEXTANS,65UNCIA,6ASEM,86XTUL,6DDIMIDIA,66SILIQU,65DENARIUS,6BQUI,68SESTERT"),
    (0x10199, "68DUPOND,66A,65CENTURIAL,00ASCIA SYMBOL"),
    (0x101A0, "00GREEK SYMBOL TAU RHO"),
    (0x101D0, "00PHAISTOS DISC SIGN PEDESTRIAN,K0LUMED HEAD,J7TATTOO,J0CAPTIVE,K0HILD,J0WOMAN"),
    (0x101D6, "J0HELMET,J2GAUNTL,J0TIARA,J0ARROW,J2B,J0SHIELD,J0CLUB,J0MANACLES,L0TTOCK,J0SAW"),
    (0x101E0, "J0LID,J0BOOMERANG,J0CARPENTRY PLANE,J0DOLIUM,J0COMB,J0SLING,J0COLUMN,J0BEEHIVE"),
    (0x101E8, "J0SHIP,J0HORN,K0IDE,J0BULLS LEG,J0CAT,J0RAM,J0EAGLE,J1DOV,J0TUNNY,J0BEE,J2PLANE TR"),
    (0x101F3, "J1VIN,J0PAPYRUS,J0ROSETTE,J0LILY,J0OX BACK,J0FLUTE,J0GRATER,J2STRAIN,K0MALL AXE"),
    (0x101FC, "J0WAVY BAND,J0COMBINING OBLIQUE STROKE"),
    (0x10280, "00LYCIAN LETTER A,E0E,E0B,F0H,E0G,E0D,E0I,E0W,E0Z,E0TH,E0J,E0K,E0Q,E0L,E0M,E0N"),
    (0x10290, "E0MM,E0NN,E0U,E0P,E0KK,E0R,E0S,E0T,F1,E0AN,E1E,E0H,E0X"),
    (0x102A0, "00CARIAN LETTER A,E0P2,E0D,E0L,E0UUU,E0R,E0LD,E0A2,E0Q,E0B,E0M,E0O,E0D2,E0T,E0SH"),
    (0x102AF, "G02,F0,E0C-18,E0U,E0NN,E0X,E0N,E0TT2,E0P,E0SS,E0I,E0E,E0UUUU,E0K,F02,E0ND,E0UU,E0G"),
    (0x102C1, "F02,E0ST,G02,E0NG,E0II,E0C-39,E0TT,E0UUU2,E0RR,E0MB,G02,G03,G04,E0LD2,E1E,E0UUU3"),
    (0x102E0, "10OPTIC EPACT THOUSANDS MARK,D0DIGIT ONE,J0TWO,K0HREE,J0FOUR,K0IVE,J0SIX,K0EVEN"),
    (0x102E8, "J0EIGHT,J0NINE,D0NUMBER TEN,L0WENTY,L2HIR,K3FO,L2IF,K2SIX,L2EVEN,K2EIGH,K2NINE"),
    (0x102F3, "K0ONE HUNDRED,K8TWO,L8HREE,K8FOUR,L8IVE,K8SIX,L8EVEN,K8EIGHT,K8NINE"),
    (0x10300, "00OLD ITALIC LETTER A,I0BE,I1K,I1D,I1,I1V,I1Z,I1H,I2T,I0I,I0KA,I0EL,J0M,J0N,J0SH"),
    (0x1030F, "I0O,I0PE,I1SH,I0KU,I0ER,J0S,I0TE,I0U,I0EKS,I0PHE,I2K,I0EF,J0RS,I0CHE,I0II,I0UU"),
    (0x1031F, "I0ESS,B0NUMERAL ONE,J1FIV,J0TEN,J0FIFTY"),
    (0x1032D, "B0LETTER YE,I1NORTHERN TS,I9SOU,00GOTHIC LETTER AHSA,E0BAIRKAN,E0GIBA,E0DAGS"),
    (0x10334, "E1AIHVU,E0QAIRTHRA,E1IUJ,E0HAGL,E0THIUTH,E0EIS,E0KUSMA,E0LAGUS,E0MANNA,E0NAUTHS"),
    (0x1033E, "E0JER,E0URUS,E0PAIRTHRA,E0NINETY,E0RAIDA,E0SAUIL,E0TEIWS,E0WINJA,E0FAIHU,E0IGGWS"),
    (0x10348, "E0HWAIR,E0OTHAL,E0NINE HUNDRED"),
    (0x10350, "00OLD PERMIC LETTER AN,I0BUR,I0GAI,I1DO,I0E,I0ZHOI,I4D,I0ZATA,I2DZI,I0I,I0KOKE"),
    (0x1035B, "I0LEI,I0MENOE,I4N,I0VOOI,I1PEE,I2R,I1SI,I1TA,I0U,I0CHERY,I0SHOOI,K4C,I0YRY,J0ERU"),
    (0x10369, "I0O,J1,I0EF,I0HA,I0TSIU,I0VER,I2Y,L0I,J0AT,I0IE,I0YU,J0A,I1I"),
    (0x10376, "00COMBINING OLD PERMIC LETTER AN,S0DOI,S0ZATA,S0NENOE,S0SII"),
    (0x10380, "00UGARITIC LETTER ALPA,G1BET,G1GAML,G1KH,G1DELT,G0HO,G1W,G0ZETA,G2HO,G0TET,G0YOD"),
    (0x1038B, "G0KAF,G0SHIN,G0LAMDA,G0MEM,G0DHAL,G0NUN,G0ZU,G0SAMKA,G0AIN,G0PU,G0SADE,G0QOPA"),
    (0x10397, "G1RASH,G1THANN,G0GHAIN,G0TO,G0I,G0U,G1SS"),
    (0x1039F, "90WORD DIVIDER,00OLD PERSIAN SIGN A,H0I,H0U,H0KA,I0U,H0GA,I0U,H0XA,H1C,H1J,I0I"),
    (0x103AB, "H0TA,I0U,H0DA,I0I,I0U,H0THA,H1P,H1B,H1F,H1N,I0U,H0MA,I0I,I0U,H0YA,H1V,I0I,H0RA,I0U"),
    (0x103BE, "H0LA,H1S,H1Z,H1SH,I1S,H1H"),
    (0x103C8, "H1AURAMAZDA,R0-2,R0HA,H1XSHAAYATHIY,H0DAHYAAUSH,Q0-2,H0BAGA,I0UUMISH"),
    (0x103D0, "C0WORD DIVIDER,C0NUMBER ONE,J0TWO,K0EN,K0WENTY,J0HUNDRED"),
    (0x10400, "00DESERET CAPITAL LETTER LONG I,S0E,S0A,T0H,S0O,T1,N0SHORT I,T0E,T0A,U0H,T0O,U1"),
    (0x1040C, "N0AY,N0OW,N0WU,N0YEE,N0H,N0PEE,N2B,N2T,N2D,N2CH,N2J,N0KAY,N2G,N0EF,N0VEE,N0ETH"),
    (0x1041C, "N0THEE,N0ES,N0ZEE,N0ESH,N0ZHEE,N0ER,O0L,O0M,O0N,P0G,N0OI,N0EW"),
    (0x10428, "80SMALL LETTER LONG I,Q0E,Q0A,R0H,Q0O,R1,L0SHORT I,R0E,R0A,S0H,R0O,S1,L0AY,L0OW"),
    (0x10436, "L0WU,L0YEE,L0H,L0PEE,L2B,L2T,L2D,L2CH,L2J,L0KAY,L2G,L0EF,L0VEE,L0ETH,L0THEE,L0ES"),
    (0x10446, "L0ZEE,L0ESH,L0ZHEE,L0ER,M0L,M0M,M0N,N0G,L0OI,L0EW,00SHAVIAN LETTER PEEP,F0TOT"),
    (0x10452, "F0KICK,F0FEE,F0THIGH,F0SO,G0URE,F0CHURCH,F0YEA,F0HUNG,F0BIB,F0DEAD,F0GAG,F0VOW"),
    (0x1045E, "F0THEY,F0ZOO,F0MEASURE,F1JUDG,F1WO,F0HA-HA,F0LOLL,F0MIME,F0IF,F0EGG,F0ASH,G0DO"),
    (0x1046A, "F0ON,F0WOOL,F0OUT,F0AH,F0ROAR,F0NUN,F0EAT,F0AGE,F1IC,F0UP,F0OAK,G0OZE,G0IL,F0AWE"),
    (0x10478, "G1R,F0OR,F1AI,F1ER,F0ARRAY,F0EAR,F0IAN,F0YEW,00OSMANYA LETTER ALEF,F0BA,F1T,F1J"),
    (0x10484, "F1X,F1KH,F0DEEL,F0RA,F1S,G0HIIN,F0DHA,F0CAYN,F0GA,F1F,F0QAAF,F3K,F0LAAN,F1MII"),
    (0x10492, "F1NUU,F0WAW,F0HA,F1Y,F1,F0E,F0I,F0O,F0U,F0AA,F0EE,F0OO"),
    (0x104A0, "81DIGIT ZER,E0ONE,E0TWO,F0HREE,E0FOUR,F0IVE,E0SIX,F0EVEN,E0EIGHT,E0NINE"),
    (0x104B0, "20AGE CAPITAL LETTER A,M0I,N0N,M0H,L0BRA,L1CH,L3EH,M0,M0IN,L0HA,M1Y,L0I,L0KA,L2EH"),
    (0x104BE, "L1KY,L1L,L1M,L1N,L0O,M0IN,L0PA,L2EH,L1S,M1H,L1T,L2EH,L1TS,L3EH,L1TSH,L2D,L0U,L0WA"),
    (0x104D0, "L1KH,L2G,L1Z,M1H"),
    (0x104D8, "61SMALL LETTER ,K0I,L0N,K0H,J0BRA,J1CH,J3EH,K0,K0IN,J0HA,K1Y,J0I,J0KA,J2EH,J1KY"),
    (0x104E7, "J1L,J1M,J1N,J0O,K0IN,J0PA,J2EH,J1S,K1H,J1T,J2EH,J1TS,J3EH,J1TSH,J2D,J0U,J0WA,J1KH"),
    (0x104F9, "J2G,J1Z,K1H"),
    (0x10500, "01ELBASAN LETTER ,F0BE,F1C,G1H,F1D,F2N,F1DH,F0EI,G0,F1F,F1G,G1J,F1H,F0I,F0JE,F1K"),
    (0x10510, "F1L,G2,F1M,F1N,G0A,G0JE,F0O,F0PE,F1Q,F1R,G2,F1S,G1H,F1T,G1H,F0U,F0VE,F1X,F0Y,F0ZE"),
    (0x10524, "G1H,F2G,H0AMMA,F0KHE"),
    (0x10530, "00CAUCASIAN ALBANIAN LETTER ALT,Q1BE,Q0GIM,Q0DAT,Q0EB,Q0ZARL,Q0EYN,Q0ZHIL,Q0TAS"),
    (0x10539, "Q0CHA,Q0YOWD,Q0ZHA,Q0IRB,Q0SHA,Q0LAN,Q0INYA,Q0XEYN,Q1DYA,Q0CAR,Q0JHOX,Q0KAR,Q0LYIT"),
    (0x10546, "Q1HEY,Q0QAY,Q0AOR,Q0CHOY,S0I,R0YAY,Q0MAQ,Q0QAR,Q0NOWC,Q0DZYAY,Q0SHAK,Q0JAYN,Q1O"),
    (0x10553, "Q0TYAY,Q0FAM,Q0DZAY,Q0CHAT,Q0PEN,Q0GHEYS,Q0RAT,Q0SEYK,Q0VEYZ,Q0TIWR,Q0SHOY,Q0IWN"),
    (0x1055F, "Q0CYAW,R0AYN,Q0YAYD,Q0PIWR,Q0KIW"),
    (0x1056F, "J0CITATION MARK,00VITHKUQI CAPITAL LETTER A,O0BBE,P1,O1C,P1H,O1D,P1H,O0EI,P0,O1F"),
    (0x1057A, "O0GA"),
    (0x1057C, "O1H,P2,O0I,P0JE,O2,O0KA,O1L,P2,O0ME,O1N,P1J,O0O,O0PE,O0QA,O0RE"),
    (0x1058C, "O1S,P1H,O1T,P1H,O0U,O0VE,O1X"),
    (0x10594, "O0Y,O0ZE"),
    (0x10597, "90SMALL LETTER A,M0BBE,N1,M1C,N1H,M1D,N1H,M0EI,N0,M1F,M0GA"),
    (0x105A3, "M1H,N2,M0I,N0JE,M2,M0KA,M1L,N2,M0ME,M1N,N1J,M0O,M0PE,M0QA,M0RE"),
    (0x105B3, "M1S,N1H,M1T,N1H,M0U,M0VE,M1X"),
    (0x105BB, "M0Y,M0ZE"),
    (0x10600, "00LINEAR A SIGN AB001,I02,I03,I04,I05,I06,I07,I08,I09,H010,I01,I03,I06,I07,H020"),
    (0x1060F, "I01,J0F,J0M,I02,J0F,J0M,I03,J0M,I04,I06,I07,I08,F0028B,F0B029,H030,I01,I04,I07,I08"),
    (0x10622, "I09,H040,I01,I04,I05,I06,I07,I08,I09,H050,I01,I03,I04,I05,I06,I07,I08,I09,H060,I01"),
    (0x10636, "I05,I06,I07,I09,H070,I03,I04,I06,I07,I08,I09,H080,I01,I02,I05,I06,I07,F0100-102"),
    (0x10648, "F0B118,H020,F0120B,F0B122,I03,H031A,J0B,F0131C,F0B164,H071,H080,I08,H091,F130,H02"),
    (0x10657, "H03,H04,H05,H06,H07,H08,H09A,I0B,I0C,G010,H01,H02,H03A,I0B,I0C,H04,H05,H06,H07,H08"),
    (0x1066B, "H09,G020,H01,H02,H03,H04,H05,H06,H07,H08,H09,G030,H01,H02,H03,H04,H05,H06,H07,H08"),
    (0x1067F, "H09,G040,H01,H02,H03,H04,H05,H06,H07,H08,H09,G050,H01,H02,H03,H04,H05,H06,H07,H08"),
    (0x10693, "H09,G060,H01,H02,H03,H04,H05,H06,H07,H08,H09,G070,H01,F0400-VAS,H41,H42,H43,H44"),
    (0x106A5, "H45,H46,H47,H48,H49,G410,H41,H42,H43,H44,H45,H46,H47,H48,F0501,H02,H03,H04,H05,H06"),
    (0x106B9, "H08,H09,G010,H01,H02,H03,H05,H06,G020,H01,H03,H04,H05,H06,H07,H08,H09,G030,H01,H02"),
    (0x106CD, "H04,H05,H06,H07,H08,H09,G040,H01,H02,H05,H07,H08,H09,G050,H01,H02,H03,H04,H05,H06"),
    (0x106E1, "H07,H09,G063,H04,H05,H06,H08,H09,G070,H01,H02,H03,H04,H05,H06,H07,H08,H09,G080,H01"),
    (0x106F5, "H02,H03,H04,H05,H06,H07,H08,H09,G091,H02,H04,H05,H06,H08,F0600,H01,H02,H03,H04,H06"),
    (0x10709, "H08,H09,G010,H01,H02,H03,H04,H05,H06,H07,H08,H09,G020,H01,H02,H03,H04,H06,H07,H08"),
    (0x1071D, "H09,G034,H07,H08,G040,H02,H03,H04,H05,H06,H08,H09,G051,H02,H03,H04,H05,H06,H07,H08"),
    (0x10731, "H09,G060,H01,H02,H03,H04"),
    (0x10740, "F0701 A,H02 B,H03 D,H04 E,H05 F,H06 H,H07 J,H08 K,H09 L,I0-2 L2,J03 L3,J04 L4"),
    (0x1074C, "J06 L6,G010 W,H01 X,H02 Y,H03 OMEGA,H04 ABB,H25 ,H07 DD,G026 EYYY,G032 JE"),
    (0x10760, "F0800,H01,H02,H03,H04,H05,H06,H07"),
    (0x10780, "00MODIFIER LETTER SMALL CAPITAL AA,H0UPERSCRIPT TRIANGULAR COLON,SHHALF,H0MALL AE"),
    (0x10784, "M0CAPITAL B,M0B WITH HOOK"),
    (0x10787, "M0DZ DIGRAPH,W0 WITH RETROFLEX HOOK,Z0TH CURL,N0EZH DIGRAPH,N0 WITH TAIL,T0HOOK"),
    (0x1078D, "X0 AND TAIL,M0REVERSED E,M2CLOSED REVERSED OPEN,M0FENG DIGRAPH,M0RAMS HORN"),
    (0x10792, "M0CAPITAL G,M0G WITH HOOK,MDCAPITA,M0H WITH STROKE,M0CAPITAL H,M0HENG WITH HOOK"),
    (0x10798, "M5DOTLESS J WITH STROKE AND,M0LS DIGRAPH,N8Z,N0 WITH BELT,MDCAPITA"),
    (0x1079D, "M5L WITH RETROFLEX HOOK AND,N0EZH,Q0 WITH RETROFLEX HOOK,M0TURNED Y,U0 WITH BELT"),
    (0x107A2, "M0O WITH STROKE,M1CAPITAL O,N0LOSED OMEGA,M0Q,M0TURNED R WITH LONG LEG"),
    (0x107A7, "Z0 LONG LEG AND RETROFLEX HOOK,M0R WITH TAIL,T0FISHHOOK,M0CAPITAL R"),
    (0x107AB, "M0TC DIGRAPH WITH CURL,N0S DIGRAPH,W0 WITH RETROFLEX HOOK,N0ESH DIGRAPH"),
    (0x107AF, "N0 WITH RETROFLEX HOOK,M5V WITH RIGHT"),
    (0x107B2, "M0CAPITAL Y,G0GLOTTAL STOP WITH STROKE,GPREVERSED,G0BILABIAL CLICK,G8DENT,G8LATER"),
    (0x107B8, "G6ALVEOLAR,G1RETROFLEX CLICK WITH RETROFLEX HOO,G0SMALL S WITH CURL"),
    (0x10800, "00CYPRIOT SYLLABLE A,H0E,H0I,H0O,H0U,H0JA"),
    (0x10808, "I0O"),
    (0x1080A, "H0KA,I0E,I0I,I0O,I0U,H0LA,I0E,I0I,I0O,I0U,H0MA,I0E,I0I,I0O,I0U,H0NA,I0E,I0I,I0O"),
    (0x1081D, "I0U,H0PA,I0E,I0I,I0O,I0U,H0RA,I0E,I0I,I0O,I0U,H0SA,I0E,I0I,I0O,I0U,H0TA,I0E,I0I"),
    (0x10830, "I0O,I0U,H0WA,I0E,I0I,I0O"),
    (0x10837, "H0XA,I0E"),
    (0x1083C, "H0ZA"),
    (0x1083F, "I0O,00IMPERIAL ARAMAIC LETTER ALEPH,O1BET,O0GIMEL,O0DALETH,O0HE,O0WAW,O0ZAYIN"),
    (0x10847, "O0HETH,O3T,O1YOD,O1KAP,O1LAMED,O0MEM,O0NUN,O0SAMEKH,O0AYIN,O0PE,O1SADH,O0QOPH"),
    (0x10853, "O1RES,O0SHIN,O0TAW"),
    (0x10857, "H0SECTION SIGN,H0NUMBER ONE,O0TWO,P0HREE,P0EN,P0WENTY,O0ONE HUNDRED,S1THOUSAN"),
    (0x1085F, "O9TEN,00PALMYRENE LETTER ALEPH,H1BET,H0GIMEL,H0DALETH,H0HE,H0WAW,H0ZAYIN,H0HETH"),
    (0x10868, "H3T,H1YOD,H1KAP,H1LAMED,H0MEM,H0FINAL NUN,H3,H0SAMEKH,H0AYIN,H0PE,H1SADH,H0QOPH"),
    (0x10874, "H1RES,H0SHIN,H0TAW,C0FT-POINTING FLEURON,AIRIGH,A0NUMBER ONE,H0TWO,I0HREE,H0FOUR"),
    (0x1087D, "I0IVE,H0TEN,I0WENTY,00NABATAEAN LETTER FINAL ALEPH,H5,H1FINAL BET,H4,H0GIMEL"),
    (0x10885, "H0DALETH,H0FINAL HE,H2,H0WAW,H0ZAYIN,H0HETH,H3T,H1FINAL YOD,H4,H1FINAL KAP,H4"),
    (0x10890, "H1FINAL LAMED,H6,H0FINAL MEM,H3,H0FINAL NUN,H3,H0SAMEKH,H0AYIN,H0PE,H1SADH,H0QOPH"),
    (0x1089B, "H1RES,H0FINAL SHIN,H4,H0TAW"),
    (0x108A7, "A0NUMBER ONE,H0TWO,I0HREE,H0FOUR,ACCRUCIFORM,A0NUMBER FIVE,H0TEN,I0WENTY"),
    (0x108AF, "H0ONE HUNDRED"),
    (0x108E0, "00HATRAN LETTER ALEPH,E1BET,E0GIMEL,E0DALETH-RESH,E0HE,E0WAW,E0ZAYN,E0HETH,E3T"),
    (0x108E9, "E1YOD,E1KAP,E1LAMED,E0MEM,E0NUN,E0SAMEKH,E0AYN,E0PE,E1SADH,E0QOPH"),
    (0x108F4, "E0SHIN,E0TAW"),
    (0x108FB, "70NUMBER ONE,E1FIV,E0TEN,F0WENTY,E0ONE HUNDRED,00PHOENICIAN LETTER ALF,I0BET"),
    (0x10902, "I0GAML,I0DELT,I0HE,I0WAU,I0ZAI,I0HET,I2T,I0YOD,I0KAF,I0LAMD,I0MEM,I0NUN,I0SEMK"),
    (0x1090F, "I0AIN,I0PE,I1SAD,I0QOF,I0ROSH,I0SHIN,I0TAU,B0NUMBER ONE,I0TEN,J0WENTY"),
    (0x10919, "I0ONE HUNDRED,I0TWO,J0HREE"),
    (0x1091F, "B0WORD SEPARATOR,00LYDIAN LETTER A,E0B,E0G,E0D,E0E,E0V,E0I,E0Y,E0K,E0L,E0M,E0N,E0O"),
    (0x1092D, "E0R,E0SS,E0T,E0U,E0F,E0Q,E0S,E0TT,E0AN,E1E,E0LY,E0NN,E0C"),
    (0x1093F, "70TRIANGULAR MARK"),
    (0x10980, "00MEROITIC HIEROGLYPHIC LETTER A,T0E,T0I,T0O,T0YA,T1W,T1B,V0-2,T0PA,T1M,T1N,V0-2"),
    (0x1098C, "U0E,V0-2,T0RA,V0-2,T0LA,T1KH,T2H,T1S,V0-2,U0E,T0KA,T1Q,T1T,V0-2,U0E,V0-2,U0O,T0DA"),
    (0x1099E, "M0SYMBOL VIDJ,X0-2,90CURSIVE LETTER A,O0E,O0I,O0O,O0YA,O1W,O1B,O1P,O1M,O1N,P0E"),
    (0x109AB, "O0RA,O1L,O1KH,O2H,O1S,O3ARCHAIC,O0SE,O0KA,O1Q,O1T,P0E,P0O,O0DA")
  ]

/-- Names from U+109BC on, below U+13430. -/
def namesFrom109BC : List (Nat × String) :=
  [
    (0x109BC, "00MEROITIC CURSIVE FRACTION ELEVEN TWELFTHS,Q0ONE HALF,H0LOGOGRAM RMT,Q0IMN"),
    (0x109C0, "H0NUMBER ONE,O0TWO,P0HREE,O0FOUR,P0IVE,O0SIX,P0EVEN,O0EIGHT,O0NINE,O0TEN,P0WENTY"),
    (0x109CB, "P2HIR,O3FO,P2IF,O2SIX,P2EVEN"),
    (0x109D2, "O0ONE HUNDRED,O8TWO,P8HREE,O8FOUR,P8IVE,O8SIX,P8EVEN,O8EIGHT,O8NINE,O1ONE THOUSAN"),
    (0x109DC, "O9TWO,P9HREE,O9FOUR,P9IVE,O9SIX,P9EVEN,O9EIGHT,O9NINE,O9TEN,P9WENTY,PBHIR,OCFO"),
    (0x109E8, "PBIF,OBSIX,PBEVEN,OBEIGH,OBNINE,O9ONE HUNDRED,OHTWO,PHHREE,OHFOUR,PHIVE,OHSIX"),
    (0x109F3, "PHEVEN,OHEIGHT,OHNINE,H0FRACTION ONE TWELFTH,Q0TWO TWELFTHS,R9HREE,Q9FOUR,R9IVE"),
    (0x109FB, "Q9SIX,R9EVEN,Q9EIGHT,Q9NINE,Q9TEN,00KHAROSHTHI LETTER A,B0VOWEL SIGN I,M0U"),
    (0x10A03, "M0VOCALIC R"),
    (0x10A05, "M0E,M0O"),
    (0x10A0C, "H0LENGTH MARK,B0SIGN DOUBLE RING BELOW,G0ANUSVARA,G1VISARG,B1LETTER K,J1H,I1G,J1H"),
    (0x10A15, "I1C,J1H,I1J"),
    (0x10A19, "I1NY,I1TT,K1H,I1DD,K1H,I1NN,I1T,J1H,I1D,J1H,I1N,I1P,J1H,I1B,J1H,I1M,I1Y,I1R,I1L"),
    (0x10A2C, "I1V,I1SH,J1S,J1,I1Z,I1H,I1KK,I1TTTH,L1,I1VH"),
    (0x10A38, "B0SIGN BAR ABOVE,G0CAUDA,G0DOT BELOW"),
    (0x10A3F, "B0VIRAMA,B0DIGIT ONE,H0TWO,I0HREE,H0FOUR,B0NUMBER TEN,J0WENTY,I0ONE HUNDRED"),
    (0x10A47, "M1THOUSAN,B0FRACTION ONE HALF"),
    (0x10A50, "B0PUNCTUATION DOT,N0SMALL CIRCLE,N6,O0RESCENT BAR,N0MANGALAM,N0LOTUS,N0DANDA"),
    (0x10A57, "O6OUBLE,N0LINES"),
    (0x10A60, "00OLD SOUTH ARABIAN LETTER HE,P0LAMEDH,P1HET,P0MEM,P0QOPH,P0WAW,P0SHIN,P0RESH"),
    (0x10A68, "P1BET,P0TAW,P0SAT,P0KAPH,P0NUN,P0KHETH,P0SADHE,R0MEKH,P0FE,P0ALEF,Q0YN,P0DHADHE"),
    (0x10A74, "P0GIMEL,P0DALETH,P0GHAYN,P0TETH,P0ZAYN,P0DHALETH,P1YOD,P0THAW,R0ETH,I0NUMBER ONE"),
    (0x10A7E, "P0FIFTY,L0ERIC INDICATOR,40NORTH ARABIAN LETTER HEH,P0LAM,P0HAH,P0MEEM,P0QAF,P0WAW"),
    (0x10A86, "P0ES-2,P0REH,P2B,P2T,P0ES-1,P0KAF,P0NOON,P0KHAH,P0SAD,P0ES-3,P0FEH,P0ALEF,Q0IN"),
    (0x10A93, "P0DAD,P0GEEM,P0DAL,P0GHAIN,P0TAH,P0ZAIN,P0THAL,P0YEH,P2TH,P1ZA,I0NUMBER ONE,P0TEN"),
    (0x10A9F, "Q0WENTY"),
    (0x10AC0, "00MANICHAEAN LETTER ALEPH,I1BET,J3H,I0GIMEL,J4H,I0DALETH,I0HE,I0WAW,B0SIGN UD"),
    (0x10AC9, "B0LETTER ZAYIN,J4H,I4J,J4H,I0HETH,I3T,I1YOD,I1KAP,I3X,I3KH,I1LAMED,I5DH,I6T,I0MEM"),
    (0x10AD7, "I0NUN,I0SAMEKH,I0AYIN,J4,I0PE,I1F,I1SADH,I0QOPH,I3X,I3QH,I1RES,I0SHIN,J4,I0TAW"),
    (0x10AE5, "B0ABBREVIATION MARK ABOVE,T0BELOW"),
    (0x10AEB, "B0NUMBER ONE,I1FIV,I0TEN,J0WENTY,I0ONE HUNDRED,B0PUNCTUATION STAR,N0FLEURON"),
    (0x10AF2, "N0DOUBLE DOT WITHIN DOT,PC,Q0,N0TWO DOTS,N0LINE FILLER"),
    (0x10B00, "00AVESTAN LETTER A,G1,G0O,G2,G0N,G2,G0E,H1,F1,G1,F0O,G1,F0I,G1,F0U,G1,F0KE,F1X,G1Y"),
    (0x10B13, "G1V,F1G,G2,G1H,F1C,F1J,F1T,G1H,F1D,G1H,F1TT,F1P,F1F,F1B,G1H,F1NG,H1Y,H1V,G1,G1Y"),
    (0x10B27, "G1N,F1M,F2H,F1YY,G1,F1V,F1R,F1L,F1S,F1Z,F1SH,F2Z,F1SHY,G1SH,F2"),
    (0x10B39, "80ABBREVIATION MARK,00TINY TWO DOTS OVER ONE DOT PUNCTUATION,0YSMALL,0YLARGE"),
    (0x10B3D, "6CONE DOT OVER TWO DOTS,6CTWO RINGS OVER ONE RING,6CONE RING OVER TWO RINGS"),
    (0x10B40, "00INSCRIPTIONAL PARTHIAN LETTER ALEPH,U1BET,U0GIMEL,U0DALETH,U0HE,U0WAW,U0ZAYIN"),
    (0x10B47, "U0HETH,U3T,U1YOD,U1KAP,U1LAMED,U0MEM,U0NUN,U0SAMEKH,U0AYIN,U0PE,U1SADH,U0QOPH"),
    (0x10B53, "U1RES,U0SHIN,U0TAW"),
    (0x10B58, "N0NUMBER ONE,U0TWO,V0HREE,U0FOUR,U0TEN,V0WENTY,U0ONE HUNDRED,Y1THOUSAN"),
    (0x10B60, "G0HLAVI LETTER ALEPH,T1BET,T0GIMEL,T0DALETH,T0HE,T0WAW-AYIN-RESH,T0ZAYIN,T0HETH"),
    (0x10B68, "T3T,T1YOD,T1KAP,T1LAMED,T1MEM-QOP,T0NUN,T0SAMEKH,T0PE,T1SADH,U0HIN,T0TAW"),
    (0x10B78, "M0NUMBER ONE,T0TWO,U0HREE,T0FOUR,T0TEN,U0WENTY,T0ONE HUNDRED,X1THOUSAN"),
    (0x10B80, "00PSALTER PAHLAVI LETTER ALEPH,N1BET,N0GIMEL,N0DALETH,N0HE,N0WAW-AYIN-RESH,N0ZAYIN"),
    (0x10B87, "N0HETH,N1YOD,N1KAP,N1LAMED,N1MEM-QOP,N0NUN,N0SAMEKH,N0PE,N1SADH,O0HIN,N0TAW"),
    (0x10B99, "G0SECTION MARK,GDTURNED,G0FOUR DOTS WITH CROSS,V0DOT"),
    (0x10BA9, "G0NUMBER ONE,N0TWO,O0HREE,N0FOUR,N0TEN,O0WENTY,N0ONE HUNDRED"),
    (0x10C00, "00OLD TURKIC LETTER ORKHON A,I2YENISEI,R0E,I0ORKHON I,I2YENISEI,Q0E,I0ORKHON O,Q0E"),
    (0x10C08, "I3YENISEI,I0ORKHON AB,I3YENISEI,I1ORKHON AE,I4YENISEI,I0ORKHON AG,I3YENISEI"),
    (0x10C0F, "I1ORKHON AE,I4YENISEI,I0ORKHON AD,I3YENISEI,I1ORKHON AE,P0EZ,I3YENISEI,I0ORKHON AY"),
    (0x10C17, "I3YENISEI,I1ORKHON AE,I4YENISEI,I0ORKHON AEK,I4YENISEI,I2ORKHON O,I4YENISEI"),
    (0x10C1E, "I0ORKHON AL,I3YENISEI,I1ORKHON AE,P0ELT,Q0M,P0AN,Q1E,I4YENISEI,I0ORKHON ENT"),
    (0x10C27, "I4YENISEI,I0ORKHON ENC,I4YENISEI,I0ORKHON ENY,I4YENISEI,Q0ANG,I2ORKHON E"),
    (0x10C2E, "I3YENISEI A,I0ORKHON EP,P1O,P0IC,P1E,I3YENISEI,I0ORKHON AQ,I3YENISEI,I1ORKHON I"),
    (0x10C37, "I3YENISEI,I1ORKHON O,I3YENISEI,I0ORKHON AR,I3YENISEI,I1ORKHON AE,Q0S,Q1E,Q0SH"),
    (0x10C40, "I4YENISEI,I2ORKHON E,I4YENISEI,I0ORKHON AT,I3YENISEI,I1ORKHON AE,I4YENISEI"),
    (0x10C47, "I1ORKHON O,P0BASH"),
    (0x10C80, "40HUNGARIAN CAPITAL LETTER A,U1,T0EB,T1AM,T0EC,U1N,U0CS,U0D,T1AN,T0E,T2CLOSE,T1E"),
    (0x10C8C, "U0F,U0G,V0Y,U0H,T0I,U1,T0EJ,U0K,T1A,T1UN,T0EL,V0Y,U0M,U0N,V0Y,T0O,U1"),
    (0x10C9D, "T0NIKOLSBURG OE,T3RUDIMENTA,T1OE,T0EP,U1M,U0R,T3SHORT,T0ES,V0Z,U0T,U1N,U0TY,U0CH"),
    (0x10CAA, "T0U,U1,T0NIKOLSBURG UE,T3RUDIMENTA,T0EV,U0Z,V0S,U0NT-SHAPED SIGN,T0US"),
    (0x10CC0, "E0SMALL LETTER A,S1,R0EB,R1AM,R0EC,S1N,S0CS,S0D,R1AN,R0E,R2CLOSE,R1E,S0F,S0G,T0Y"),
    (0x10CCF, "S0H,R0I,S1,R0EJ,S0K,R1A,R1UN,R0EL,T0Y,S0M,S0N,T0Y,R0O,S1,R0NIKOLSBURG OE"),
    (0x10CDE, "R3RUDIMENTA,R1OE,R0EP,S1M,S0R,R3SHORT,R0ES,T0Z,S0T,S1N,S0TY,S0CH,R0U,S1"),
    (0x10CEC, "R0NIKOLSBURG UE,R3RUDIMENTA,R0EV,S0Z,T0S,S0NT-SHAPED SIGN,R0US"),
    (0x10CFA, "E0NUMBER ONE,L1FIV,L0TEN,L0FIFTY,L0ONE HUNDRED,P1THOUSAN"),
    (0x10D00, "00HANIFI ROHINGYA LETTER A,N1B,N1P,N1T,O2,N1J,N1C,N1H,N2K,N1F,N1D,O2,N1R,O2,N1Z"),
    (0x10D0F, "N1S,O1H,N1K,N1G,N1L,N1M,N1N,N1W,N3KINNA,N1Y,N3KINNA,N1NG,O1Y,N1V,G1VOWEL ,M0I,M0U"),
    (0x10D20, "M0E,M0O,G0MARK SAKIN,L0NA KHONNA,G0SIGN HARBAHAY,L0TAHALA,N1N,N0SSI"),
    (0x10D30, "G0DIGIT ZERO,M0ONE,M0TWO,N0HREE,M0FOUR,N0IVE,M0SIX,N0EVEN,M0EIGHT,M0NINE"),
    (0x10E60, "02RUMI DIGIT O,B0TWO,C0HREE,B0FOUR,C0IVE,B0SIX,C0EVEN,B0EIGHT,B0NINE,50NUMBER TEN"),
    (0x10E6A, "D0WENTY,D2HIR,C3FO,D2IF,C2SIX,D2EVEN,C2EIGH,C2NINE,C0ONE HUNDRED,C8TWO,D8HREE"),
    (0x10E75, "C8FOUR,D8IVE,C8SIX,D8EVEN,C8EIGHT,C8NINE,50FRACTION ONE HALF,I0QUARTER,I0THIRD"),
    (0x10E7E, "E0TWO THIRDS"),
    (0x10E80, "00YEZIDI LETTER ELIF,E0BE,E1P,F1H,E2T,E1S,E0CIM,F2H,G3,E0HHA,E1X,E0DAL,E2Z,E0RA"),
    (0x10E8E, "F1H,E1Z,E1J,E0SIN,F2H,F0AD,E2D,E0TA,E0ZE,E0EYN,E3XH,E0FA,E1V,G0 ALTERNATE FORM"),
    (0x10E9C, "E0QAF,E2K,F2H,E2G,E0LAM,E1MI,E0NUN,E0UM,E0WAW,E1O,E1E,E0HAY,E0YOT,E1E"),
    (0x10EAB, "70COMBINING HAMZA MARK,H6MADD,75HYPHENATION"),
    (0x10EB0, "70LETTER LAM WITH DOT ABOVE,E6YOT WITH CIRCUMFLEX"),
    (0x10F00, "00OLD SOGDIAN LETTER ALEPH,J6FINAL,J1BET,J5FINAL,J0GIMEL,J0HE,J3FINAL,J0WAW"),
    (0x10F08, "J0ZAYIN,J0HETH,J1YOD,J1KAP,J1LAMED,J0MEM,J0NUN,J4FINAL,S0 WITH VERTICAL TAIL"),
    (0x10F11, "J0SAMEKH,J0AYIN,K5LTERNATE,J0PE,J1SADH,J6FINAL,U0 WITH VERTICAL TAIL"),
    (0x10F18, "J0RESH-AYIN-DALETH,J0SHIN,J0TAW,J4FINAL,S0 WITH VERTICAL TAIL,C0NUMBER ONE,J0TWO"),
    (0x10F1F, "K0HREE,J0FOUR,K0IVE,J0TEN,K0WENTY,K2HIR,J0ONE HUNDRED,C0FRACTION ONE HALF"),
    (0x10F27, "C0LIGATURE AYIN-DALETH"),
    (0x10F30, "01SOGDIAN LETTER ALEP,F1BET,F0GIMEL,F0HE,F0WAW,F0ZAYIN,F0HETH,F1YOD,F1KAP,F1LAMED"),
    (0x10F3A, "F0MEM,F0NUN,F0SAMEKH,F0AYIN,F0PE,F1SADH,F0RESH-AYIN,F2SH,F0TAW,F0FETH,F1LES"),
    (0x10F45, "80INDEPENDENT SHIN,80COMBINING DOT BELOW,I6TWO DOTS,I0DOT ABOVE,I6TWO DOTS,I6CURVE"),
    (0x10F4B, "O0BELOW,I0HOOK ABOVE,N0BELOW,IDLO,I6RESH,I6STROKE,80NUMBER ONE,F0TEN,G0WENTY"),
    (0x10F54, "F0ONE HUNDRED,80PUNCTUATION TWO VERTICAL BARS,Z1RS WITH DOT,K0CIRCLE WITH DOT"),
    (0x10F58, "K0TWO CIRCLES WITH DOTS,K0HALF CIRCLE WITH DOT"),
    (0x10F70, "00OLD UYGHUR LETTER ALEPH,I1BET,I3GIMEL-H,I0WAW,I0ZAYIN,I0FINAL HETH,I1YOD,I1KAP"),
    (0x10F78, "I1LAMED,I0MEM,I0NUN,I0SAMEKH,I0PE,I1SADH,I0RESH,I0SHIN,I0TAW,I0LESH"),
    (0x10F82, "B0COMBINING DOT ABOVE,P0BELOW,L0TWO DOTS ABOVE,U0BELOW,B0PUNCTUATION BAR"),
    (0x10F87, "N0TWO BARS,R1DOT,N5FOUR"),
    (0x10FB0, "00CHORASMIAN LETTER ALEPH,I6SMALL,I1BET,I0GIMEL,I0DALETH,I0HE,I0WAW,I4CURLED"),
    (0x10FB8, "I0ZAYIN,I0HETH,I1YOD,I1KAP,I1LAMED,I0MEM,I0NUN,I0SAMEKH,I0AYIN,I0PE,I0RESH,I0SHIN"),
    (0x10FC4, "I0TAW,B0NUMBER ONE,I0TWO,J0HREE,I0FOUR,I0TEN,J0WENTY,I0ONE HUNDRED"),
    (0x10FE0, "00ELYMAIC LETTER ALEPH,F1BET,F0GIMEL,F0DALETH,F0HE,F0WAW,F0ZAYIN,F0HETH,F3T,F1YOD"),
    (0x10FEA, "F1KAP,F1LAMED,F0MEM,F0NUN,F0SAMEKH,F0AYIN,F0PE,F1SADH,F0QOPH,F1RES,F0SHIN,F0TAW"),
    (0x10FF6, "90IGATURE ZAYIN-YODH"),
    (0x11000, "00BRAHMI SIGN CANDRABINDU,C0ANUSVARA,C1VISARG,C1JIHVAMULIY,C3UPADHMAN,71LETTER ,F1"),
    (0x11007, "E0I,F1,E0U,F1,E0VOCALIC R,N1,M0L,N1,E0E,E0AI,E0O,E0AU,E0KA,F1H,E1G,F1H,E1NG,E1C"),
    (0x11019, "F1H,E1J,F1H,E1NY,E1TT,G1H,E1DD,G1H,E1NN,E1T,F1H,E1D,F1H,E1N,E1P,F1H,E1B,F1H,E1M"),
    (0x1102C, "E1Y,E1R,E1L,E1V,E1SH,F1S,F1,E1H,E1LL,E3OLD TAMIL L,O1RR,O1NNN,71VOWEL SIGN A"),
    (0x11039, "I3BHATTIPROLU,I0I,J1,I0U,J1,I0VOCALIC R,R1,Q0L,R1,I0E,I0AI,I0O,I0AU,80IRAMA,71DAND"),
    (0x11048, "86OUBLE,70PUNCTUATION DOT,L4UBLE,J0LINE,J0CRESCENT BAR,J0LOTUS"),
    (0x11052, "70NUMBER ONE,E0TWO,F0HREE,E0FOUR,F0IVE,E0SIX,F0EVEN,E0EIGHT,E0NINE,E0TEN,F0WENTY"),
    (0x1105D, "F2HIR,E3FO,F2IF,E2SIX,F2EVEN,E2EIGH,E2NINE,E0ONE HUNDRED,I1THOUSAN,70DIGIT ZERO"),
    (0x11067, "D0ONE,D0TWO,E0HREE,D0FOUR,E0IVE,D0SIX,E0EVEN,D0EIGHT,D0NINE"),
    (0x11070, "70SIGN OLD TAMIL VIRAMA,70LETTER OLD TAMIL SHORT E,U0O"),
    (0x11073, "70VOWEL SIGN OLD TAMIL SHORT E,Y0O,70LETTER OLD TAMIL LLA"),
    (0x1107F, "70NUMBER JOINER,00KAITHI SIGN CANDRABINDU,C0ANUSVARA,C1VISARG,71LETTER ,F1,E0I,F1"),
    (0x11087, "E0U,F1,E0E,E0AI,E0O,E0AU,E0KA,F1H,E1G,F1H,E1NG,E1C,F1H,E1J,F1H,E1NY,E1TT,G1H,E1DD"),
    (0x1109A, "G1DH,G2,E2R,E1NN,E1T,F1H,E1D,F1H,E1N,E1P,F1H,E1B,F1H,E1M,E1Y,E1R,E1L,E1V,E1SH,F1S"),
    (0x110AE, "F1,E1H,71VOWEL SIGN A,I0I,J1,I0U,J1,I0E,I0AI,I0O,I0AU,70SIGN VIRAMA,C1NUKT"),
    (0x110BB, "70ABBREVIATION SIGN,7AENUMER,75NUMBER,70SECTION MARK,7DDOUBLE,80ANDA,86OUBLE"),
    (0x110C2, "70VOWEL SIGN VOCALIC R"),
    (0x110CD, "70NUMBER SIGN ABOVE"),
    (0x110D0, "00SORA SOMPENG LETTER SAH,K2T,K2B,K2C,K2D,K2G,K2M,K2NG,K2L,K2N,K2V,K2P,K2Y,K2R,K2H"),
    (0x110DF, "K2K,K2J,K2NY,K2,K1EE,K1I,K1U,K1O,K1E,K0MAE"),
    (0x110F0, "D0DIGIT ZERO,J0ONE,J0TWO,K0HREE,J0FOUR,K0IVE,J0SIX,K0EVEN,J0EIGHT,J0NINE"),
    (0x11100, "00CHAKMA SIGN CANDRABINDU,C0ANUSVARA,C1VISARG,71LETTER A,E0I,E0U,E0E,E0KAA,F2H,E2G"),
    (0x1110A, "F2H,E2NG,E2C,F2H,E2J,F2H,E2NY,E2TT,G2H,E2DD,G2H,E2NN,E2T,F2H,E2D,F2H,E2N,E2P,F2H"),
    (0x1111D, "E2B,F2H,E2M,E2YY,F2,E2R,E2L,E2W,E2S,E2H,71VOWEL SIGN ,I0I,J1,I0U,J1,I0E,I0AI,I0O"),
    (0x1112F, "I0AU,I0OI,70O MARK,75AU,70VIRAMA,71MAAYYA"),
    (0x11136, "70DIGIT ZERO,D0ONE,D0TWO,E0HREE,D0FOUR,E0IVE,D0SIX,E0EVEN,D0EIGHT,D0NINE"),
    (0x11140, "70SECTION MARK,70DANDA,86OUBLE,70QUESTION MARK,70LETTER LHAA,72VOWEL SIGN ,I0EI"),
    (0x11147, "70LETTER VAA"),
    (0x11150, "01MAHAJANI LETTER ,G0I,G0U,G0E,G0O,G0KA,H1H,G1G,H1H,G1C,H1H,G1J,H1H,G1NY,G1TT,I1H"),
    (0x11160, "G1DD,I1H,G1NN,G1T,H1H,G1D,H1H,G1N,G1P,H1H,G1B,H1H,G1M,G1R,G1L,G1V,G1S,G1H,G1RR"),
    (0x11173, "91SIGN NUKT,90ABBREVIATION SIGN,90SECTION MARK,90LIGATURE SHRI"),
    (0x11180, "00SHARADA SIGN CANDRABINDU,D0ANUSVARA,D1VISARG,81LETTER ,G1,F0I,G1,F0U,G1"),
    (0x11189, "F0VOCALIC R,O1,N0L,O1,F0E,F0AI,F0O,F0AU,F0KA,G1H,F1G,G1H,F1NG,F1C,G1H,F1J,G1H,F1NY"),
    (0x1119B, "F1TT,H1H,F1DD,H1H,F1NN,F1T,G1H,F1D,G1H,F1N,F1P,G1H,F1B,G1H,F1M,F1Y,F1R,F1L,G2,F1V"),
    (0x111AF, "F1SH,G1S,G1,F1H,81VOWEL SIGN A,J0I,K1,J0U,K1,J0VOCALIC R,S1,R0L,S1,J0E,J0AI,J0O"),
    (0x111BF, "J0AU,80SIGN VIRAMA,D1AVAGRAH,D1JIHVAMULIY,D3UPADHMAN,80OM,80DANDA,96OUBLE"),
    (0x111C7, "80ABBREVIATION SIGN,80SEPARATOR,90ANDHI MARK,90IGN NUKTA,80VOWEL MODIFIER MARK"),
    (0x111CC, "85EXTRA SHORT VOWEL,85SUTRA,80VOWEL SIGN PRISHTHAMATRA E"),
    (0x111CF, "80SIGN INVERTED CANDRABINDU,80DIGIT ZERO,E0ONE,E0TWO,F0HREE,E0FOUR,F0IVE,E0SIX"),
    (0x111D7, "F0EVEN,E0EIGHT,E0NINE,80EKAM,82SIGN SIDDH,80HEADSTROKE,80CONTINUATION SIGN"),
    (0x111DE, "80SECTION MARK-1,L02"),
    (0x111E1, "10INHALA ARCHAIC DIGIT ONE,M0TWO,N0HREE,M0FOUR,N0IVE,M0SIX,N0EVEN,M0EIGHT,M0NINE"),
    (0x111EA, "G0NUMBER TEN,O0WENTY,O2HIR,N3FO,O2IF,N2SIX,O2EVEN,N2EIGH,N2NINE,N0ONE HUNDRED"),
    (0x111F4, "R1THOUSAN"),
    (0x11200, "00KHOJKI LETTER A,F1,E0I,E0U,E0E,E0AI,E0O,E0AU,E0KA,F1H,E1G,F2,F1H,E1NG,E1C,F1H"),
    (0x11210, "E1J,F2"),
    (0x11213, "E1NY,E1TT,G1H,E1DD,G1H,E1NN,E1T,F1H,E1D,F2D,F1H,E1N,E1P,F1H,E1B,F2,F1H,E1M,E1Y,E1R"),
    (0x11227, "E1L,E1V,E1S,E1H,E1LL,71VOWEL SIGN A,I0I,J1,I0U,I0E,I0AI,I0O,I0AU,70SIGN ANUSVARA"),
    (0x11235, "C1VIRAM,C1NUKT,C1SHADD,72DAN,86OUBLE,70WORD SEPARATOR,70SECTION MARK,7DDOUBLE"),
    (0x1123D, "70ABBREVIATION SIGN,71SIGN SUKU"),
    (0x11280, "00MULTANI LETTER A,F0I,F0U,F0E,F0KA,G1H,F1G"),
    (0x11288, "G1H"),
    (0x1128A, "F1C,G1H,F1J,G2"),
    (0x1128F, "F1NY,F1TT,H1H,F1DD,H2,H1H,F1NN,F1T,G1H,F1D,G1H,F1N,F1P,G1H,F1B"),
    (0x1129F, "G1H,F1M,F1Y,F1R,F1L,F1V,F1S,F1H,F1RR,G1H,80SECTION MARK"),
    (0x112B0, "00KHUDAWADI LETTER A,I1,H0I,I1,H0U,I1,H0E,H0AI,H0O,H0AU,H0KA,I1H,H1G,I2,I1H,H1NG"),
    (0x112C0, "H1C,I1H,H1J,I2,I1H,H1NY,H1TT,J1H,H1DD,J2,H1RR,H1DDH,H1NN,H1T,I1H,H1D,I1H,H1N,H1P"),
    (0x112D3, "I1H,H1B,I2,I1H,H1M,H1Y,H1R,H1L,H1V,H1SH,I1,H1H,A1SIGN ANUSVAR,A1VOWEL SIGN A,L0I"),
    (0x112E2, "M1,L0U,M1,L0E,L0AI,L0O,L0AU,A0SIGN NUKTA,F1VIRAM"),
    (0x112F0, "A0DIGIT ZERO,G0ONE,G0TWO,H0HREE,G0FOUR,H0IVE,G0SIX,H0EVEN,G0EIGHT,G0NINE"),
    (0x11300, "01GRANTHA SIGN COMBINING ANUSVARA ABOV,E0ANDRABINDU,D0ANUSVARA,D1VISARG"),
    (0x11305, "81LETTER ,G1,F0I,G1,F0U,G1,F0VOCALIC R,N0L"),
    (0x1130F, "F0EE,F0AI"),
    (0x11313, "F0OO,F0AU,F0KA,G1H,F1G,G1H,F1NG,F1C,G1H,F1J,G1H,F1NY,F1TT,H1H,F1DD,H1H,F1NN,F1T"),
    (0x11325, "G1H,F1D,G1H,F1N"),
    (0x1132A, "F1P,G1H,F1B,G1H,F1M,F1Y,F1R"),
    (0x11332, "F1L,G2"),
    (0x11335, "F1V,F1SH,G1S,G1,F1H"),
    (0x1133B, "00COMBINING BINDU BELOW,00GRANTHA SIGN NUKTA,D1AVAGRAH,81VOWEL SIGN A,J0I,K1,J0U"),
    (0x11342, "K1,J0VOCALIC R,S1"),
    (0x11347, "J0EE,J0AI"),
    (0x1134B, "J0OO,J0AU,80SIGN VIRAMA"),
    (0x11350, "80OM"),
    (0x11357, "80AU LENGTH MARK"),
    (0x1135D, "80SIGN PLUTA,81LETTER VEDIC ANUSVAR,L9DOUBLE,G0OCALIC RR,N0LL"),
    (0x11362, "81VOWEL SIGN VOCALIC ,S1"),
    (0x11366, "00COMBINING GRANTHA DIGIT ZERO,O0ONE,O0TWO,P0HREE,O0FOUR,P0IVE,O0SIX"),
    (0x11370, "I0LETTER A,P1K,P1N,P0VI,P0PA"),
    (0x11400, "01NEWA LETTER ,D1,C0I,D1,C0U,D1,C0VOCALIC R,L1,K0L,L1,C0E,C0AI,C0O,C0AU,C0KA,D1H"),
    (0x11410, "C1G,D1H,C1NG,E1H,C1C,D1H,C1J,D1H,C1NY,E1H,C1TT,E1H,C1DD,E1H,C1NN,C1T,D1H,C1D,D1H"),
    (0x11423, "C1N,D1H,C1P,D1H,C1B,D1H,C1M,D1H,C1Y,C1R,D1H,C1L,D1H,C1W,C1SH,D1S,D1,C1H"),
    (0x11435, "51VOWEL SIGN A,G0I,H1,G0U,H1,G0VOCALIC R,P1,O0L,P1,G0E,G0AI,G0O,G0AU,50SIGN VIRAMA"),
    (0x11443, "A0CANDRABINDU,A0ANUSVARA,A1VISARG,A1NUKT,A1AVAGRAH,A1FINAL ANUSVAR,50OM,50SIDDHI"),
    (0x1144B, "50DANDA,66OUBLE,51COMM,50GAP FILLER,50ABBREVIATION SIGN,50DIGIT ZERO,B0ONE,B0TWO"),
    (0x11453, "C0HREE,B0FOUR,C0IVE,B0SIX,C0EVEN,B0EIGHT,B0NINE,60OUBLE COMMA,50PLACEHOLDER MARK"),
    (0x1145D, "50INSERTION SIGN,50SANDHI MARK,50LETTER VEDIC ANUSVARA,51SIGN JIHVAMULIY"),
    (0x11461, "A3UPADHMAN"),
    (0x11480, "00TIRHUTA ANJI,80LETTER A,G1,F0I,G1,F0U,G1,F0VOCALIC R,O1,N0L,O1,F0E,F0AI,F0O,F0AU"),
    (0x1148F, "F0KA,G1H,F1G,G1H,F1NG,F1C,G1H,F1J,G1H,F1NY,F1TT,H1H,F1DD,H1H,F1NN,F1T,G1H,F1D,G1H"),
    (0x114A2, "F1N,F1P,G1H,F1B,G1H,F1M,F1Y,F1R,F1L,F1V,F1SH,G1S,G1,F1H,81VOWEL SIGN A,J0I,K1,J0U"),
    (0x114B4, "K1,J0VOCALIC R,S1,R0L,S1,J0E,J2SHORT,J0AI,J0O,J2SHORT,J0AU,81SIGN CANDRABIND"),
    (0x114C0, "D0ANUSVARA,D1VISARG,F1RAM,D1NUKT,D1AVAGRAH,80GVANG,80ABBREVIATION SIGN,80OM"),
    (0x114D0, "80DIGIT ZERO,E0ONE,E0TWO,F0HREE,E0FOUR,F0IVE,E0SIX,F0EVEN,E0EIGHT,E0NINE"),
    (0x11580, "00SIDDHAM LETTER A,G1,F0I,G1,F0U,G1,F0VOCALIC R,O1,N0L,O1,F0E,F0AI,F0O,F0AU,F0KA"),
    (0x1158F, "G1H,F1G,G1H,F1NG,F1C,G1H,F1J,G1H,F1NY,F1TT,H1H,F1DD,H1H,F1NN,F1T,G1H,F1D,G1H,F1N"),
    (0x115A2, "F1P,G1H,F1B,G1H,F1M,F1Y,F1R,F1L,F1V,F1SH,G1S,G1,F1H,81VOWEL SIGN A,J0I,K1,J0U,K1"),
    (0x115B4, "J0VOCALIC R,S1"),
    (0x115B8, "J0E,J0AI,J0O,J0AU,81SIGN CANDRABIND,D0ANUSVARA,D1VISARG,F1RAM,D1NUKT,D0SIDDHAM"),
    (0x115C2, "80DANDA,96OUBLE,80SEPARATOR DOT,I0BAR,80REPETITION MARK-1,O02,O03"),
    (0x115C9, "80END OF TEXT MARK,80SECTION MARK WITH TRIDENT AND U-SHAPED ORNAMENTS"),
    (0x115CB, "Z4ND DOTTED CRESC,QLRAYS,ZADOTTED DOUBLE,ZCDOTTED TRIP,L0DOUBLE RING,W0 WITH RAYS"),
    (0x115D1, "L1WITH DOUBLE CRESCENT,QCTRIP,QDQUADRU,QESEPT,Q1CIRCLES AND RAY,Z1ND TWO ENCLOSURE"),
    (0x115D7, "ZBND FOUR,80LETTER THREE-CIRCLE ALTERNATE I,GJWO,Z1 I,F0ALTERNATE U,8CVOWEL SIGN"),
    (0x115DD, "U1"),
    (0x11600, "00MODI LETTER A,D1,C0I,D1,C0U,D1,C0VOCALIC R,L1,K0L,L1,C0E,C0AI,C0O,C0AU,C0KA,D1H"),
    (0x11610, "C1G,D1H,C1NG,C1C,D1H,C1J,D1H,C1NY,C1TT,E1H,C1DD,E1H,C1NN,C1T,D1H,C1D,D1H,C1N,C1P"),
    (0x11623, "D1H,C1B,D1H,C1M,C1Y,C1R,C1L,C1V,C1SH,D1S,D1,C1H,C1LL,51VOWEL SIGN A,G0I,H1,G0U,H1"),
    (0x11635, "G0VOCALIC R,P1,O0L,P1,G0E,G0AI,G0O,G0AU,50SIGN ANUSVARA,A1VISARG,C1RAM"),
    (0x11640, "A1ARDHACANDR,51DAND,66OUBLE,50ABBREVIATION SIGN,50SIGN HUVA"),
    (0x11650, "50DIGIT ZERO,B0ONE,B0TWO,C0HREE,B0FOUR,C0IVE,B0SIX,C0EVEN,B0EIGHT,B0NINE"),
    (0x11660, "20NGOLIAN BIRGA WITH ORNAMENT,A0ROTATED BIRGA,A0DOUBLE BIRGA WITH ORNAMENT,AMTRIP"),
    (0x11664, "A9BIRGA WITH DOUBLE,A9ROTATED BIRGA WITH,T9DOUBLE,A0INVERTED BIRGA"),
    (0x11668, "O0 WITH DOUBLE ORNAMENT,A0SWIRL BIRGA,L0 WITH ORNAMENT,R9DOUBLE,AXTURNED"),
    (0x11680, "00TAKRI LETTER A,E1,D0I,E1,D0U,E1,D0E,D0AI,D0O,D0AU,D0KA,E1H,D1G,E1H,D1NG,D1C,E1H"),
    (0x11691, "D1J,E1H,D1NY,D1TT,F1H,D1DD,F1H,D1NN,D1T,E1H,D1D,E1H,D1N,D1P,E1H,D1B,E1H,D1M,D1Y"),
    (0x116A4, "D1R,D1L,D1V,D1SH,E1,D1H,D1RR,62SIGN ANUSVA,B1VISARG,61VOWEL SIGN A,H0I,I1,H0U,I1"),
    (0x116B2, "H0E,H0AI,H0O,H0AU,60SIGN VIRAMA,B1NUKT,61LETTER ARCHAIC KH,60ABBREVIATION SIGN"),
    (0x116C0, "60DIGIT ZERO,C0ONE,C0TWO,D0HREE,C0FOUR,D0IVE,C0SIX,D0EVEN,C0EIGHT,C0NINE"),
    (0x11700, "00AHOM LETTER KA,D1H,C1NG,D1,C1T,C3ALTERNATE,C1P,D1H,C1B,C1M,C1J,C1CH,C2T,C1R,C1L"),
    (0x1170F, "C1S,C1NY,C1H,C1,C1D,D1H,C1G,C3ALTERNATE,C1GH,C2B,C2J,C1ALTERNATE B"),
    (0x1171D, "51CONSONANT SIGN MEDIAL L,R1R,R3LIGATING,51VOWEL SIGN ,H1,G0I,H1,G0U,H1,G0E,G0AW"),
    (0x11728, "G0O,G0AI,H0M,50SIGN KILLER"),
    (0x11730, "50DIGIT ZERO,B0ONE,B0TWO,C0HREE,B0FOUR,C0IVE,B0SIX,C0EVEN,B0EIGHT,B0NINE"),
    (0x1173A, "50NUMBER TEN,D0WENTY,50SIGN SMALL SECTION,B6,A0RULAI,61YMBOL V,50LETTER CA,C1TT"),
    (0x11742, "E1H,C1DD,E1H,C1NN,C1LL"),
    (0x11800, "01DOGRA LETTER ,E1,D0I,E1,D0U,E1,D0E,D0AI,D0O,D0AU,D0KA,E1H,D1G,E1H,D1NG,D1C,E1H"),
    (0x11811, "D1J,E1H,D1NY,D1TT,F1H,D1DD,F1H,D1NN,D1T,E1H,D1D,E1H,D1N,D1P,E1H,D1B,E1H,D1M,D1Y"),
    (0x11824, "D1R,D1L,D1V,D1SH,E1S,E1,D1H,D1RR,61VOWEL SIGN A,H0I,I1,H0U,I1,H0VOCALIC R,Q1,H0E"),
    (0x11834, "H0AI,H0O,H0AU,60SIGN ANUSVARA,B1VISARG,D1RAM,B1NUKT,60ABBREVIATION SIGN"),
    (0x118A0, "00WARANG CITI CAPITAL LETTER NGAA,R1,R0WI,R0YU,S0A,S0O,R0II,R0UU,R0E,R0O,R0ANG"),
    (0x118AB, "R0GA,R0KO,R0ENY,R0YUJ,R0UC,R0ENN,R0ODD,R0TTE,R0NUNG,R0DA,R0AT,S0M,R0BU,R1P,R0HIYO"),
    (0x118BA, "S1OL,T0RR,S1A,R0SSUU,S0II,R0VIYO,C0SMALL LETTER NGAA,P1,P0WI,P0YU,Q0A,Q0O,P0II"),
    (0x118C7, "P0UU,P0E,P0O,P0ANG,P0GA,P0KO,P0ENY,P0YUJ,P0UC,P0ENN,P0ODD,P0TTE,P0NUNG,P0DA,P0AT"),
    (0x118D6, "Q0M,P0BU,P1P,P0HIYO,Q1OL,R0RR,Q1A,P0SSUU,Q0II,P0VIYO,C1DIGIT ZER,I0ONE,I0TWO"),
    (0x118E3, "J0HREE,I0FOUR,J0IVE,I0SIX,J0EVEN,I0EIGHT,I0NINE,C0NUMBER TEN,K0WENTY,K2HIR,J3FO"),
    (0x118EE, "K2IF,J2SIX,K2EVEN,J2EIGH,J2NINE"),
    (0x118FF, "C0OM,00DIVES AKURU LETTER A,K1,J0I,K1,J0U,K1,J0E"),
    (0x11909, "J0O"),
    (0x1190C, "J0KA,K1H,J1G,K1H,J1NG,J1C,K1H,J1J"),
    (0x11915, "J1NY,J1TT"),
    (0x11918, "J1DD,L1H,J1NN,J1T,K1H,J1D,K1H,J1N,J1P,K1H,J1B,K1H,J1M,J1Y,K2,J1R,J1L,J1V,J1SH,K1S"),
    (0x1192C, "K1,J1H,J1LL,J1Z,C1VOWEL SIGN A,N0I,O1,N0U,O1,N0E"),
    (0x11937, "N0AI,N0O"),
    (0x1193B, "C0SIGN ANUSVARA,H0CANDRABINDU,H0HALANTA,C1VIRAM,C0PREFIXED NASAL SIGN,C0MEDIAL YA"),
    (0x11941, "C1INITIAL R,C6MED,C1SIGN NUKT,C1DOUBLE DAND,C0GAP FILLER,C0END OF TEXT MARK"),
    (0x11950, "C0DIGIT ZERO,I0ONE,I0TWO,J0HREE,I0FOUR,J0IVE,I0SIX,J0EVEN,I0EIGHT,I0NINE"),
    (0x119A0, "00NANDINAGARI LETTER A,K1,J0I,K1,J0U,K1,J0VOCALIC R,S1"),
    (0x119AA, "J0E,J0AI,J0O,J0AU,J0KA,K1H,J1G,K1H,J1NG,J1C,K1H,J1J,K1H,J1NY,J1TT,L1H,J1DD,L1H"),
    (0x119BC, "J1NN,J1T,K1H,J1D,K1H,J1N,J1P,K1H,J1B,K1H,J1M,J1Y,J1R,J1L,J1V,J1SH,K1S,K1,J1H,J1LL"),
    (0x119D0, "J1RR,C1VOWEL SIGN A,N0I,O1,N0U,O1,N0VOCALIC R,W1"),
    (0x119DA, "N0E,N0AI,N0O,N0AU,C0SIGN ANUSVARA,H1VISARG,J1RAM,H1AVAGRAH,H0SIDDHAM,C0HEADSTROKE"),
    (0x119E4, "C1VOWEL SIGN PRISHTHAMATRA "),
    (0x11A00, "00ZANABAZAR SQUARE LETTER A,H0VOWEL SIGN I,S0UE,T0,S0E,S1O,T0,S0AI,T0U"),
    (0x11A09, "S0REVERSED I,N0LENGTH MARK,H0LETTER KA,P1H,O1G,P1H,O1NG,O1C,P1H,O1J,O1NY,O1TT,Q1H"),
    (0x11A16, "O1DD,Q1H,O1NN,O1T,P1H,O1D,P1H,O1N,O1P,P1H,O1B,P1H,O1M,O1TS,Q1H,O1DZ,Q1H,O3,P1,O1-"),
    (0x11A2A, "O1Y,O1R,O1L,O1V,O1SH,P1S,P1,O1H,O1KSS,H0FINAL CONSONANT MARK,H0SIGN VIRAMA"),
    (0x11A35, "M0CANDRABINDU,X0 WITH ORNAMENT,SE,M0ANUSVARA,M1VISARG,H1CLUSTER-INITIAL LETTER R"),
    (0x11A3B, "P1FINAL LETTER Y,Z1ER R,Z1ER L,Z1ER V,H0INITIAL HEAD MARK,HACLOSING,H0MARK TSHEG"),
    (0x11A42, "M0SHAD,M5DOUBLE,M0LONG TSHEG,H0INITIAL DOUBLE-LINED HEAD MARK,HNCLOSING"),
    (0x11A47, "H0SUBJOINER"),
    (0x11A50, "00SOYOMBO LETTER A,80VOWEL SIGN I,J0UE,K0,J0E,J0O,K0E,J0AI,K0U,J0VOCALIC R,R0L"),
    (0x11A5B, "E0LENGTH MARK,80LETTER KA,G1H,F1G,G1H,F1NG,F1C,G1H,F1J,G1H,F1NY,F1TT,H1H,F1DD,H1H"),
    (0x11A6A, "F1NN,F1T,G1H,F1D,G1H,F1N,F1P,G1H,F1B,G1H,F1M,F1TS,H1H,F1DZ,F1ZH,G1,F1-,F1Y,F1R,F1L"),
    (0x11A7E, "F1V,F1SH,G1S,G1,F1H,F1KSS,81SIGN JIHVAMULIY,D3UPADHMAN,81CLUSTER-INITIAL LETTER R"),
    (0x11A87, "V1L,V1SH,W1,80FINAL CONSONANT SIGN G,T0K,T0NG,T0D,T0N,T0B,T0M,T0R,T0L,T0SH,U0,T0-A"),
    (0x11A96, "81SIGN ANUSVAR,D1VISARG,80GEMINATION MARK,80SUBJOINER,80MARK TSHEG,D0SHAD,D5DOUBLE"),
    (0x11A9D, "D0PLUTA,80HEAD MARK WITH MOON AND SUN AND TRIPLE FLAME,Z6 AND,Z0,80TERMINAL MARK-1"),
    (0x11AA2, "M02"),
    (0x11AB0, "00CANADIAN SYLLABICS NATTILIK HI,U1,T0O,U1,T0A,U1,S0SHRI,W1,V0O,W1,V0A,W1,J0SPE"),
    (0x11ABD, "L0I,L0O,L0A,02PAU CIN HAU LETTER ,J1K,J1L,J1M,J1D,J1Z,J1V,J1NG,J1H,J1G,J1KH,J1S"),
    (0x11ACC, "J1B,J1C,J1T,K1H,J1N,J1PH,J1R,J1F,J1CH,J1,J0E,J0I,J0O,J0U,K0A,J1I,J0FINAL P,P0K,P0T"),
    (0x11ADF, "P0M,P0N,P0L,P0W,P0NG,P0Y,C0RISING TONE LONG,N0,C0SANDHI GLOTTAL STOP"),
    (0x11AE8, "C0RISING TONE LONG FINAL,O5,C6SANDHI GLOTTAL STOP,J0TONE LONG,N0,N0 LONG FINAL,O5"),
    (0x11AEF, "C0MID-LEVEL TONE,C0GLOTTAL STOP VARIANT,C0MID-LEVEL TONE LONG FINAL,R5"),
    (0x11AF3, "C0LOW-FALLING TONE LONG,S0,C0GLOTTAL STOP,C0LOW-FALLING TONE LONG FINAL,T5"),
    (0x11AF8, "C6GLOTTAL STOP"),
    (0x11C00, "00BHAIKSUKI LETTER A,I1,H0I,I1,H0U,I1,H0VOCALIC R,Q1,P0L"),
    (0x11C0A, "H0E,H0AI,H0O,H0AU,H0KA,I1H,H1G,I1H,H1NG,H1C,I1H,H1J,I1H,H1NY,H1TT,J1H,H1DD,J1H"),
    (0x11C1C, "H1NN,H1T,I1H,H1D,I1H,H1N,H1P,I1H,H1B,I1H,H1M,H1Y,H1R,H1L,H1V,H1SH,I1S,I1,H1H"),
    (0x11C2F, "A1VOWEL SIGN A,L0I,M1,L0U,M1,L0VOCALIC R,U1,T0L"),
    (0x11C38, "L0E,L0AI,L0O,L0AU,A1SIGN CANDRABIND,F0ANUSVARA,F1VISARG,H1RAM,F1AVAGRAH,A1DAND"),
    (0x11C42, "B6OUBLE,A0WORD SEPARATOR,A0GAP FILLER-1,L02"),
    (0x11C50, "A0DIGIT ZERO,G0ONE,G0TWO,H0HREE,G0FOUR,H0IVE,G0SIX,H0EVEN,G0EIGHT,G0NINE"),
    (0x11C5A, "A2NUMBER O,H0TWO,I0HREE,H0FOUR,I0IVE,H0SIX,I0EVEN,H0EIGHT,H0NINE,H0TEN,I0WENTY"),
    (0x11C65, "I2HIR,H3FO,I2IF,H2SIX,I2EVEN,H2EIGH,H2NINE,A0HUNDREDS UNIT MARK"),
    (0x11C70, "05MARCHEN HEAD,80MARK SHAD,80LETTER KA,G1H,F1G,F2N,F1C,G1H,F1J,F1NY,F1T,G1H,F1D"),
    (0x11C7D, "F1N,F1P,G1H,F1B,F1M,F1TS,H1H,F1DZ,F1W,F1ZH,G1,F1-,F1Y,F1R,F1L,F1SH,G1,F1H,F1"),
    (0x11C92, "81SUBJOINED LETTER K,Q1H,P1G,P2N,P1C,Q1H,P1J,P1NY,P1T,Q1H,P1D,P1N,P1P,Q1H,P1B,P1M"),
    (0x11CA2, "P1TS,R1H,P1DZ,P1W,P1ZH,Q1"),
    (0x11CA9, "P1Y,P1R,P1L,P1SH,Q1,P1H,P1,81VOWEL SIGN A,J0I,J0U,J0E,J0O,80SIGN ANUSVARA"),
    (0x11CB6, "D0CANDRABINDU"),
    (0x11D00, "20SARAM GONDI LETTER A,M1,L0I,M1,L0U,M1,L0E"),
    (0x11D08, "L0AI,L0O"),
    (0x11D0B, "L0AU,L0KA,M1H,L1G,M1H,L1NG,L1C,M1H,L1J,M1H,L1NY,L1TT,N1H,L1DD,N1H,L1NN,L1T,M1H,L1D"),
    (0x11D1E, "M1H,L1N,L1P,M1H,L1B,M1H,L1M,L1Y,L1R,L1L,L1V,L1SH,M1S,M1,L1H,L1LL,L1KSS,L1JNY,L1TR"),
    (0x11D31, "E1VOWEL SIGN A,P0I,Q1,P0U,Q1,P0VOCALIC R"),
    (0x11D3A, "P0E"),
    (0x11D3C, "P0AI,P0O"),
    (0x11D3F, "P0AU,E0SIGN ANUSVARA,J1VISARG,J1NUKT,J1CANDR,J1HALANT,E1VIRAM,E1REPH,F1A-KAR"),
    (0x11D50, "E0DIGIT ZERO,K0ONE,K0TWO,L0HREE,K0FOUR,L0IVE,K0SIX,L0EVEN,K0EIGHT,K0NINE"),
    (0x11D60, "00GUNJALA GONDI LETTER A,M1,L0I,M1,L0U,M1"),
    (0x11D67, "L0EE,L0AI"),
    (0x11D6A, "L0OO,L0AU,L0YA,L1V,L1B,M1H,L1M,L1K,M1H,L1T,M1H,L1L,L1G,M1H,L1D,M1H,L1N,L1C,M1H"),
    (0x11D7D, "L1TT,N1H,L1LL,L1J,M1H,L1DD,N1H,L1NG,L1P,M1H,L2,L1R,L1S,E1VOWEL SIGN A,P0I,Q1,P0U"),
    (0x11D8E, "Q1"),
    (0x11D90, "P0EE,P0AI"),
    (0x11D93, "P0OO,P0AU,E0SIGN ANUSVARA,J1VISARG,E1VIRAM,E0OM"),
    (0x11DA0, "E0DIGIT ZERO,K0ONE,K0TWO,L0HREE,K0FOUR,L0IVE,K0SIX,L0EVEN,K0EIGHT,K0NINE"),
    (0x11EE0, "00MAKASAR LETTER KA,F1G,F2N,F1P,F1B,F1M,F1T,F1D,F1N,F1C,F1J,F1NY,F2,F1R,F1L,F1V"),
    (0x11EF0, "F1S,F1,81ANGK,80VOWEL SIGN I,J0U,J0E,J0O,80PASSIMBANG,80END OF SECTION"),
    (0x11FB0, "00LISU LETTER YHA"),
    (0x11FC0, "00TAMIL FRACTION ONE THREE-HUNDRED-AND-TWENTIETH,J5ONE-HUNDRED-AND-SIX,J5EIGH"),
    (0x11FC3, "J2SIXTY-FOUR,J2FORTIE,J0THIRTY-SECOND,F0THREE EIGHTIETHS,L3SIXTY-FOUR"),
    (0x11FC8, "F0ONE TWENTIETH,J0SIXTEENTH-1,T02,J0TENTH,J2EIGH,F0THREE TWENTIETHS,L3SIXTEEN"),
    (0x11FCF, "F0ONE FIFTH,J0QUARTER,J0HALF-1,O02,F0THREE QUARTERS,F0DOWNSCALING FACTOR KIIZH"),
    (0x11FD5, "60SIGN NEL,B0CEVITU,B1AAZHAAKK,B4UZH,B7MUUV,B0KURUNI,B0PATHAKKU,B0MUKKURUNI"),
    (0x11FDD, "B0KAACU,B0PANAM,C0ON,B1VARAAKA,B0PAARAM,B0KUZHI,B1VEL,60WET CULTIVATION SIGN,6HDRY"),
    (0x11FE6, "65LAND,65SALT PAN,65TRADITIONAL CREDIT,I5NUMBER,65CURRENT,65AND ODD,65SPENT"),
    (0x11FED, "65TOTAL,65IN POSSESSION,65STARTING FROM,70IGN MUTHALIYA,B1VAKAIYARA"),
    (0x11FFF, "60PUNCTUATION END OF TEXT,00CUNEIFORM SIGN A,G2 TIMES,N0BAD,N0GAN2 TENU,N0HA,N0IGI"),
    (0x12006, "N0LAGAR GUNU,N0MUSH,N0SAG,G02,G0B,H0 TIMES ASH2,O0DUN3 GUNU,O0GAL,Q0N2 TENU,O0HA"),
    (0x12010, "O0IGI GUNU,P0MIN,O0LAGAB,O0SHESH,O0U PLUS U PLUS U,I1GUN,H02,I0 TIMES BALAG"),
    (0x12018, "P0GAN2 TENU,P0ME PLUS EN,P0SHA3,P0TAK4,G0D,G0K,H0 TIMES ERIN2,O0SHITA PLUS GISH"),
    (0x12020, "G0L,H3 TIMES,O0DIM2,O0GISH,O0HA,O0KAD3,P0I,O0SHE,O0USH,H0AN,H0EPH,G0MAR"),
    (0x1202C, "J0 TIMES SHE,G0N,H3 OVER,I0THREE TIMES,I0PLUS NAGA OPPOSING AN PLUS NAGA,S0SQUARED"),
    (0x12032, "H0SHE,G0PIN,G0RAD,J0 TIMES KUR,H0KAB,G0SAL2,H0H,I0 ZIDA TENU,J6KAB"),
    (0x1203B, "J0OVER ASH TUG2 OVER TUG2 TUG2 OVER TUG2 PAP,S0OVER ASH,ZMH CROSSING,I02,I0GAB"),
    (0x12040, "F0BA,H0D,H0G3,H0HAR2,H0L,I4 OVER,I0AG,H0R,I0A2,G0I,H0 TIMES A,O0GAR,O0IGI GUNU,G1"),
    (0x1204E, "H0 OVER BU AB,Q0UN,I0CROSSING BU,H0LUG,K6 OVER,H0R,I02,F0DA,H0G"),
    (0x12057, "I0 KISIM5 TIMES A PLUS MASH,X0MAR,W0BALAG,X0I,W0GA,Y0 PLUS MASH,X0I,Y0R2,X0UD,W0HA"),
    (0x12061, "W0IR,Y0 PLUS LU,W0KAK,W0LA,X0U,Y0 PLUS MASH2,Y0M,W0NE,W0PAP PLUS PAP,W0SI,W0TAK4"),
    (0x1206C, "W0U2 PLUS GIR2,X0SH,H0M,H0R,I0A3,J04,G0I,H0B,H0M,I0 TIMES SHE,I02,H0N"),
    (0x12078, "I0 KASKAL U GUNU DISH,H2,G0U,H3 OVER,I1GUN,I0SHESHIG,H0B,I0 TIMES ESH2,I1,H0G,I0UD"),
    (0x12083, "H0H,H0N,I03,J0 GUNU,O5,I04,H0R2,F0E,G0 TIMES PAP,H0OVER E NUN OVER NUN,G02"),
    (0x1208E, "H0 TIMES A PLUS HA PLUS DA,O0GAR,O0MI,O0SAL,P0HE,O0U,G0DIN,G0GIR,G0L,G0N"),
    (0x12098, "H0 TIMES GAN2,S0 TENU,O0ME,I0CROSSING EN,I7OPPO,I0SQUARED,G0REN,H0IN2,G1SH,G0ZEN"),
    (0x120A2, "J0 TIMES A,R0 PLUS LAL,Z5L TIME,R0N,Q0BAD,Q0DUN3 GUNU,Z5,Q0HA,S0 GUNU,Q5IGI"),
    (0x120AC, "Q0KASKAL,W0 SQUARED,R0U3,Q0LA,S0L TIMES LAL,R0I,R0U,Q0U2,R0D,F0GA,H0 GUNU,H02"),
    (0x120B8, "I0 TIMES A PLUS DA PLUS HA,W2,W0IGI,Q0B2 TENU PLUS TAB,Q0N,Q0SH,S02 PLUS GAL,P0BAD"),
    (0x120C0, "R0R PLUS RA,Q0UR,S0 PLUS RA,P1D,Q0I,R0M TIMES SHE,Q0UB,P0EL,R0 PLUS LA,Q0N"),
    (0x120CA, "R0 TIMES GAN2 TENU,P9,R0R,Q0I,R04,S0 PLUS A,R0R2 PLUS SU,P0HA PLUS LU PLUS ESH2"),
    (0x120D2, "R0L,S0 PLUS LA,Q0I PLUS LI,Q0UB2,P0IGI GUNU,Q0SH PLUS HU PLUS ASH,P0KAK,R0SKAL"),
    (0x120DA, "Q0ID,S0 PLUS LAL,Q0U3 PLUS AN,P0LA,P0ME PLUS EN,Q0I,P0NUN,S4 OVER,P0PA,P0SAL,R0R"),
    (0x120E5, "Q0HE,S0 PLUS TUR,R0ID,Q0UM,P0TAK4,P0U,Q0D,R0 PLUS DU,J0OVER GA2,H0BA,J5 CROSSING"),
    (0x120F0, "H0D,I0 OVER GAD GAR OVER GAR,H0L,I0 GAD OVER GAD GAR OVER GAR,I0AM,H1,H0N,I02"),
    (0x120F8, "J0 TENU,K0OVER GAN2,K5CROSSING,H0R,I03,H0SHAN,G1ESHTI,M0 TIMES KUR,G0I,H0 TIMES E"),
    (0x12102, "O0U,I0CROSSING GI,H04,I4 OVER,J4CROSSING,H0DIM,H0R2,J0 GUNU,I03"),
    (0x1210B, "J0 TIMES A PLUS IGI,Q0GAN2 TENU,Q0IGI,Q5LU PLU,Q0PA,H0SAL,I0H,J5 CROSSING"),
    (0x12113, "K0TIMES BAD,Q0TAK4,L0ENU,G1,H3 CROSSING,H02,I0 TIMES KAK,S0 TIMES IGI GUNU,P0NUN"),
    (0x1211C, "P0SAL PLUS TUG2,J0GUNU,H0D,I0 TIMES A PLUS KUR,P3,J0OVER GUD LUGAL,H1,H0M"),
    (0x12124, "I0 TIMES SHE,H0R,I07,I0UN,J0SH,F0HA,H0 TENU,I2GU,H0L,G0I,H0 TIMES ASH,R02,O0BAD"),
    (0x12131, "O0DISH,O0GAD,O0KIN,O1NU,O0SHE,O0U,G1,H0B2,J0 TIMES AN,Q0HAL,Q2KASK,Q0LISH,Q0UD"),
    (0x1213E, "H0L2,F0I,G0 A,G0B,G0DIM,J0 OVER IDIM BUR,U0SQUARED,G0G,H0I,I0 DIB,J0RI"),
    (0x12149, "J0OVER IGI SHIR OVER SHIR UD OVER UD,J0GUNU,G0L,H0 TIMES GAN2 TENU,H02,G0M"),
    (0x1214F, "H0 TIMES TAK4,I0CROSSING IM,I7OPPO,I0SQUARED,H0IN,G1,G0R,G0SH,F0KA,H1 TIMES ,P0D"),
    (0x1215A, "Q0 PLUS KU3,P0SH2,O0BAD,Q0LAG,Q0R,P0I,O0ERIN2,P1SH,O0GA,Q0L,Q0N2 TENU,Q0R"),
    (0x12166, "R0 PLUS SHA3 PLUS A,P0I,Q0R2,Q0SH PLUS SAR,T0CROSSING GISH,P0U,Q0R7,O0IGI,P0M"),
    (0x1216F, "O0KAK,P0I,Q0D,O0LI,P0U,O0ME,Q0 PLUS DU,W0GI,W0TE,P0I,Q0 PLUS NUNUZ,O0NE,P0UN,O0PI"),
    (0x1217D, "O0RU,O0SA,Q0R,P0HA,Q0E,Q0ID,Q0U,P0IG,P0UHUR,O1TA,O0U,P02,P0D,P0MUM TIMES PA,P0SH"),
    (0x1218C, "O0ZI,H02,I4 CROSSING,H0B,H0D2,I03,I04,I05,J5 OVER,H0K,I0 TIMES IGI GUNU,H0L"),
    (0x12198, "I0 TIMES BAD,J0CROSSING KAL,H0M2,I04,H0SKAL,L0 LAGAB TIMES U OVER LAGAB TIMES U"),
    (0x1219E, "MZOVER KASK,G0ESH2,G0I,H0 TIMES BAD,O0U,P0D,H1,H0N,H0SAL,I0H,I0IM5,L7 OVER,G0U"),
    (0x121AB, "H0 OVER HI TIMES ASH2 KU OVER HI TIMES ASH2,H03,H04,I0 VARIANT FORM,H07,H0L"),
    (0x121B1, "I0 GUNU,H0N,H0R,I4 OPPOSING,H0SHU2,G0WU318,F0LA,H0GAB,K0 TIMES A,S1 PLUS DA PLUS H"),
    (0x121BB, "Y0GAR,Y0LAL,S1,S0N,S0SH ZIDA TENU,R0BAD,S0I,R0DAR,R0EN,R0GA,T0R,S0UD,U5 PLU,R0HA"),
    (0x121C9, "T0L,S0I TIMES NUN,R0IGI GUNU,S0M,T0 PLUS HA,Z0LU,R0KI,T0N,S0U3,T0L"),
    (0x121D3, "U0 PLUS HI PLUS A,R0LAGAB,S0ISH,S0U,T0L,R0ME,T0 PLUS EN,S0USH,R0NE,R0SHE PLUS SUM"),
    (0x121DD, "T0ITA PLUS GISH PLUS ERIN2,Z0US GISH TENU,T0U2,V6 PLU,S0UM,R0TAG,T0K4"),
    (0x121E4, "S0E PLUS A PLUS SU PLUS NA,R0U,S0 PLUS A,Y0U PLUS U,S02 PLUS ASH,S0D,S0SH"),
    (0x121EB, "L0SQUARED,J0R,K0 TIMES SHE,U0 PLUS SUM,L0GUNU,P0 OVER LAGAR GUNU SHE,H0HSHU,H0L"),
    (0x121F3, "I4 TIMES,H0M,I0 TIMES KUR,S0 PLUS RU,G0I,H0L,H0MMU2,H0SH,G0U,H0 TIMES BAD,H02"),
    (0x121FE, "I0 TIMES AL,P0BAD,P0ESH2,T0 TENU,P6GAN,P0HI TIMES BAD,P0IM,P0KAD2,S03,T0 PLUS ASH"),
    (0x12208, "Q0I,P0LA PLUS ASH,R0GAB,P0ME PLUS EN,P0NE,Q0U,P0SI PLUS ASH,R0K2 PLUS BU,P0TUG2"),
    (0x12211, "K0ENU,J0CROSSING LU2,J8OPPO,J0SQUARED,K0HESHIG,H03,H0GAL,K6 OVER,M6PPOSING"),
    (0x1221A, "L0SHESHIG,H0H,H0L,H0M,I4 OVER,R0 GAR OVER GAR,F0MA,H0 TIMES TAK4,I0GUNU,H02,H0H"),
    (0x12225, "H0R,H0SH,J02,G0E,H0S,G0I,H0N,G0U,H3 OVER,H0G,I0 GUNU,H0NSUB,H0RGU2,H0SH,J0 TIMES A"),
    (0x12234, "Q0KUR,Q0ZA,K0OVER MUSH,T0 TIMES A PLUS NA,K0CROSSING MUSH,J03,K0 TIMES A"),
    (0x1223B, "S0 PLUS DI,R2,L0GUNU,F0NA,H02,H0GA,J0 INVERTED,K0TIMES SHU TENU,K0OPPOSING NAGA"),
    (0x12244, "J0R,H0M NUTILLU,I0,I02,G0E,H0 TIMES A,O0UD,I0SHESHIG,G0I,H0 TIMES E,H02,H0M"),
    (0x12250, "I0 TIMES GAN2 TENU,RBR PLU,H0NDA2,L0 TIMES AN,T0SH,V5 PLU,S0GUD"),
    (0x12257, "S0ME PLUS GAN2 TENU,S0NE,T0UN,S0SHE,V0 PLUS A AN,Z0S ASH,Z9S ASH,S9U2,T2,H0SAG,G0U"),
    (0x12262, "H011,H0N,I0 LAGAR TIMES GAR,V0MASH,V0SAL,YK OVER,V0USH,J0TENU,J0OVER NUN"),
    (0x1226B, "J4CROSSING,V0 LAGAR OVER LAGAR,I0UZ,K0 AB2 TIMES ASHGAB,V0BI,V0DUG,V0GUD"),
    (0x12272, "V0IGI GUNU,V0KAD3,V0LA,V0NE,V0SILA3,V0U2,L0KISIM5 TIMES BI,Z0I U,F0PA,H0D,H0N,H0P"),
    (0x1227E, "G0ESH2,G0I,H0 TIMES A,P0B,O0BI,P0U,O0E,O0I,P0B,O0U,P02,I0CROSSING PI,H0RIG"),
    (0x1228B, "K0 TIMES KAL,R0UD,R0ZA,L0OPPOSING PIRIG,F0RA,H0B,G0I,G0U,F0SA,H0G NUTILLU,I0"),
    (0x12296, "I0 TIMES A,P0DU,R0B,P0HA,P0KAK,Q0UR,P0LUM,P0MI,P0NUN,P0SAL,Q0HID,P0TAB,P0U2,Q0B"),
    (0x122A4, "Q0M,Q0R,Q0SH,J0OVER SAG,J0GUNU,H0L,I0 LAGAB TIMES ASH2,H1NGA,H0R,G0HA,I03"),
    (0x122AF, "J0 TIMES A,Q0BAD,Q0GISH,Q0NE,Q0SHU2,Q0TUR,Q0U,R0 PLUS A,I06,I1B,I0R2,H0E,I0 HU"),
    (0x122BC, "J0OVER SHE GAD OVER GAD GAR OVER GAR,SDTAB OVER TAB,I0G9,I0N,I0SH,K02,K0LAM,H0ID"),
    (0x122C4, "J0 TIMES A,Q0IM,I1,J0 TIMES A,Q0BAL,R0ULUG,Q0DIN,Q0GAR,Q0IGI,T0 GUNU,Q0KUSHU2"),
    (0x122CF, "Q0LUL,Q0MUG,Q0SAL,I0NIG,I0R,J0 TENU,K0OVER SHIR BUR OVER BUR,I0TA,H0U"),
    (0x122D8, "I4 OVER INVERTED,I02,I0BUR,G0I,H0 GUNU,H0G,I04,J0 OVER SIG4 SHU2,H1K,H0LA3,G0U"),
    (0x122E3, "H3 OVER,H0D,I02,H0HUR,H0M,I0ASH,H0R,I09,F0TA,H0 ASTERISK,I0TIMES HI,O1M,I0GUNU,H0B"),
    (0x122F1, "I0 OVER TAB NI OVER NI DISH OVER DISH,J0SQUARED,H0G,I0 TIMES BI,P0GUD,P0SHE,R0U"),
    (0x122F8, "P0TUG2,P0UD,H0K4,H0R,G0E,H0 GUNU,G0I,H0 TENU,H0L,H0R,I0 TIMES TAK4,J0OVER TIR"),
    (0x12304, "R1 GAD OVER GAD GAR OVER GA,G0U,H0G2,H0K,H0M,H0R,I0 OVER TUR ZA OVER ZA,F0U,G0 GUD"),
    (0x1230D, "H0U U,H0OVER U PA OVER PA GAR OVER GAR,O1SUR OVER SU,O0U REVERSED OVER U REVERSED"),
    (0x12311, "G02,G0B,G0D,H0 KUSHU2,I0TIMES BAD,O0MI,O0U PLUS U PLUS U,Z1US U GUN,I4,I0SHESHIG"),
    (0x1231B, "P0 TIMES BAD,H0UG,G0M,H0 TIMES LAGAB,O0ME PLUS DA,O0SHA3,O0U,H0BIN,H0UM"),
    (0x12324, "J0 TIMES KASKAL,Q0PA,G0N,H0 GUNU,G0R,H3 CROSSING,I0SHESHIG,H02,I0 TIMES A PLUS HA"),
    (0x1232D, "W1N,Q0L,P0HA,P0NUN,P0U2,R0 PLUS ASH,X0BI,H04,H0I,I03,H0U,I0 TIMES A,Q0SHGAB,P0BAR"),
    (0x1233B, "P0DUN,P0GA,R0L,R0N2 TENU,R0R,Q0U,P0HA,P0IGI,Q0M,Q0SH,P0KI,P0LUM,P0MIN,P0PA,P0SHE"),
    (0x1234A, "Q0IG4,P0TU,P0U PLUS GUD,Q1,Q0RUDA,I2,K0 TIMES U,G0SH,I0 TIMES A,P0KU,R0R,P0TAK4"),
    (0x12356, "I0X,I02,I0UMX,G0TUKI,G0Z3,I0 TIMES KASKAL,H0U,F0ZA,H0 TENU,I0SQUARED TIMES KUR,H0G"),
    (0x12361, "H0MX,G0E2,G0I,H3 OVER,H03,H0B,I0 KABA TENU,H0G,H0Z2,G0U,H05,I0 TIMES A,H0BUR,H0M"),
    (0x1236F, "F0KAP ELAMITE,F0AB TIMES NUN,H02 TIMES A,G0MAR TIMES KUG"),
    (0x12373, "F0DAG KISIM5 TIMES U2 PLUS MASH,I03,G0ISH PLUS SHU,G0UB TIMES SHE,F0EZEN TIMES GUD"),
    (0x12378, "Q0SHE,F0GA2 TIMES AN PLUS KAK PLUS A,Q0SH2,G1E2,G0IG,F0HUSH,F0KA TIMES ANSHE,P0SH3"),
    (0x12380, "O0GISH,P0UD,O0HI TIMES ASH2,O0LUM,O0PA,O0SHUL,O0TU,O0UR2,F0LAGAB TIMES GI"),
    (0x12389, "G0U2 SHESHIG TIMES BAD,J0TIMES ESH2 PLUS LAL,P0SHU,F0MESH,G0USH3 TIMES ZA,F0NA4"),
    (0x1238F, "G0IN,I09,I0DA2 TIMES BAL,S0GI,G0U11 ROTATED NINETY DEGREES,F0PESH2 ASTERISK,G0IR2"),
    (0x12396, "F0SAG TIMES IGI GUNU,F0TI2,F0UM TIMES ME,G0 U"),
    (0x12400, "A0NUMERIC SIGN TWO ASH,O4HREE,N4FOUR,O4IVE,N4SIX,O4EVEN,N4EIGHT,N4NINE,N2THREE DI"),
    (0x12409, "N5FOUR,O5IVE,N5SIX,O5EVEN,N5EIGHT,N5NINE,N0FOUR U,O2IVE,N2SIX,O2EVEN,N2EIGHT"),
    (0x12414, "N2NINE,N0ONE GESH2,N6TWO,O6HREE,N6FOUR,O6IVE,N6SIX,O6EVEN,N6EIGHT,N6NINE"),
    (0x1241E, "N0ONE GESHU,N6TWO,O6HREE,N6FOUR,O6IVE,N0TWO SHAR2,O6HREE,Y0 VARIANT FORM"),
    (0x12426, "N0FOUR SHAR2,O6IVE,N6SIX,O6EVEN,N6EIGHT,N6NINE,N0ONE SHARU,N6TWO,O6HREE"),
    (0x1242F, "Y0 VARIANT FORM,N0FOUR SHARU,O6IVE,N0SHAR2 TIMES GAL PLUS DISH,Z0GAL PLUS MIN"),
    (0x12434, "N0ONE BURU,N5TWO,O5HREE,X0 VARIANT FORM,N0FOUR BURU,O5IVE"),
    (0x1243A, "N0THREE VARIANT FORM ESH16,Z0T FORM ESH21,N0FOUR VARIANT FORM LIMMU,Z0 FORM LIMMU4"),
    (0x1243E, "Z0 FORM LIMMU A,Z0 FORM LIMMU B,N0SIX VARIANT FORM ASH9,O0EVEN VARIANT FORM IMIN3"),
    (0x12442, "Z0T FORM IMIN A,Z0T FORM IMIN B,N0EIGHT VARIANT FORM USSU,Z0T FORM USSU3"),
    (0x12446, "N0NINE VARIANT FORM ILIMMU,Z0 FORM ILIMMU3,Z0 FORM ILIMMU4,Z0 FORM ILIMMU A"),
    (0x1244A, "N0TWO ASH TENU,O9HREE,N9FOUR,O9IVE,N9SIX,N0ONE BAN2,N5TWO,O5HREE,N5FOUR"),
    (0x12453, "W0 VARIANT FORM,O0IVE BAN2,W0 VARIANT FORM,N0NIGIDAMIN,T0ESH,N0ONE ESHE3,N6TWO"),
    (0x1245A, "N0ONE THIRD DISH,N5TWO THIRDS,N6FIVE SIXTH,N0ONE THIRD VARIANT FORM A,NFTWO THIRDS"),
    (0x1245F, "N0ONE EIGHTH ASH,R4QUARTER,O1LD ASSYRIAN ONE SIXT,Z0 ONE QUARTER,O1NE QUARTER GU"),
    (0x12464, "R4HALF,N0ELAMITE ONE THIRD,V0TWO THIRDS,V0FORTY,W2IF,N0FOUR U VARIANT FORM,OFIVE"),
    (0x1246B, "NFSIX,OFEVEN,NFEIGHT,NFNINE"),
    (0x12470, "A0PUNCTUATION SIGN OLD ASSYRIAN WORD DIVIDER,R0VERTICAL COLON,R8DIAGON,Z5 TRI"),
    (0x12474, "Z5 QUAD"),
    (0x12480, "A0SIGN AB TIMES NUN TENU,O0SHU2,G1D TIMES ESH,F0BAD TIMES DISH TENU"),
    (0x12484, "H0HAR2 TIMES AB2,S0NI,S0ZA,G0U OVER BU TIMES NA2,F0DA TIMES TAK4,H0G TIMES KUR"),
    (0x1248A, "G0IM TIMES IGI,P0U U U,I02 TIMES UD,G0UG TIMES ANSHE,Q0SH,S0 AT LEFT,P0DIN,Q1U"),
    (0x12492, "P0ERIN2,P0GA,Q0I,R0R2 GUNU,R0SH,P0HA,Q0I,P0IGI GUNU,P0KASKAL,Q0UR,R0SHU2"),
    (0x1249D, "V0 PLUS KASKAL,P0LAK-020,R0M,S0 TIMES KUR,Q0UH PLUS GISH,P2MA,Q0ES,Q0I,P1N,P1P"),
    (0x124A7, "P0SHE,Q0I GUNU,F0E2 TIMES KUR,O0PAP,G0RIN2 X,G0SH2 CROSSING ESH2"),
    (0x124AD, "G0ZEN SHESHIG TIMES ASH,Y0HI,Y0IGI GUNU,Y0LA,Z0AL,Y0ME,Z0ES,Y0SU,K8"),
    (0x124B6, "F0GA2 TIMES BAHAR2,P0DIM GUNU,Q5UG TIMES IGI,Z0KASKAL,P0EREN,P0GA,R0R PLUS DI,Y0NE"),
    (0x124BE, "P0HA PLUS A,P0KUSHU2 PLUS KASKAL,P0LAM,S0 TIMES KUR,Q0UH,P1MUS,P0NE,R0 PLUS E2"),
    (0x124C6, "X0GI,P0SHIM,P0ZIZ2,H0BA ROTATED NINETY DEGREES,G0ESHTIN TIMES U"),
    (0x124CB, "G0ISH TIMES GISH CROSSING GISH,G0U2 TIMES IGI GUNU,H0D PLUS GISH TIMES TAK4"),
    (0x124CE, "F0HA TENU GUNU,G0I TIMES ASH OVER HI TIMES ASH,F0KA TIMES BU,O0KA,O0U U U,P0R"),
    (0x124D4, "F0LAGAB TIMES ZU OVER ZU,H0K-003,K021,L05,K030,K15,L01,K062,K079 OVER LAK-079 GUNU"),
    (0x124DD, "K080,L01 OVER LAK-081,K092,J0130,K042,J0210,L09,K020,L05,L08,K13,K065,L06,J0343"),
    (0x124EB, "L07,L08,K083,L04,K090,J0441,L09,M0 TIMES GU,T0IGI,T0PAP PLUS LU3,ZEU,T0U2 PLUS BA"),
    (0x124F7, "K050,L07,K070,K083,K090,L02,L03,L05,J0550,J0608,K017,M0 TIMES ASH,T0BAD"),
    (0x12504, "T0DUN3 GUNU GUNU,T0KU3,T0LA,T0TAR,U0E,T0U2,U0D,U0RUDA,K036,K048,M0 TIMES DUB,T0GA"),
    (0x12510, "T0IGI,W0 GUNU,T0NI,T0PAP PLUS PAP PLUS LU3,T0SHESH PLUS KI,T0UD,U0RUDA,J0724,K049"),
    (0x12519, "G0U2 GUNU TIMES ASH,J2TIMES DI,P0HAL,P0PAP,S0 PLUS PAP PLUS LU3,P0TAK4"),
    (0x1251F, "F0MI PLUS ZA7,G0USH OVER MUSH TIMES GA,Z0 KAK,F0NINDA2 TIMES DIM GUNU,S0GISH,T0UL"),
    (0x12525, "S0HI,S0KESH2,S0LAK-050,S0MASH,S0PAP PLUS PAP,S0U,T3 PLU,T0RUDA,F1SAG GUNU TIMES H"),
    (0x1252E, "J0TIMES EN,P0SHE AT LEFT,P0TAK4,G0HA6 TENU,H0E OVER SHE,J0PLUS HUB2,O1NAM,O0SAR"),
    (0x12536, "H0U2 PLUS DUG TIMES NI,P0E2 TIMES AN,G0I TIMES TAK4,F0TAK4 PLUS SAG"),
    (0x1253A, "G0UM TIMES GAN2 TENU,P0THREE DISH,F0UR2 INVERTED,J1TIMES U,H0U TIMES DARA3"),
    (0x1253F, "P0LAK-668,Q0U3,F0ZA7,G0U OVER ZU PLUS SAR,H05 TIMES THREE DISH TENU"),
    (0x12F90, "10YPRO-MINOAN SIGN CM001,M02,M04,M05,M06,M07,M08,M09,L010,M01,M02,N0B,M03,M05,M07"),
    (0x12F9F, "M09,L021,M03,M04,M05,M06,M07,M08,M09,L030,M03,M04,M05,M06,M07,M08,M09,L040,M01,M04"),
    (0x12FB3, "M06,M07,M09,L050,M01,M02,M03,M04,M05,M06,M08,M09,L060,M01,M02,M03,M04,M06,M07,M08"),
    (0x12FC7, "M09,L070,M01,M02,M03,M04,M05,N0B,M06,M08,M09,L080,M01,M02,M03,M04,M05,M06,M07,M08"),
    (0x12FDB, "M09,L090,M01,M02,M04,M05,M06,M07,M08,M09,K0100,M01,M02,M03,M04,M05,M07,M08,M09"),
    (0x12FEE, "L010,M02,M04,K0301,M02"),
    (0x13000, "00EGYPTIAN HIEROGLYPH A001,N02,N03,N04,N05,O0A,N06,O0A,O0B,N07,N08,N09,M010,N01"),
    (0x1300E, "N02,N03,N04,O0A,N05,N06,N07,O0A,N08,N09,M020,N01,N02,N03,N04,N05,N06,N07,N08,N09"),
    (0x13022, "M030,N01,N02,O0A,N03,N04,N05,N06,N07,N08,N09,M040,O0A,N01,N02,O0A,N03,O0A,N04,N05"),
    (0x13036, "O0A,N06,N07,N08,N09,M050,N01,N02,N03,N04,N05,N06,N07,N08,N09,M060,N01,N02,N03,N04"),
    (0x1304A, "N05,N06,N07,N08,N09,M070,K0B001,N02,N03,N04,N05,O0A,N06,N07,N08,N09,K0C001,N02,O0A"),
    (0x1305D, "O0B,O0C,N03,N04,N05,N06,N07,N08,N09,M010,O0A,N01,N02,N03,N04,N05,N06,N07,N08,N09"),
    (0x13071, "M020,N01,N02,N03,N04,K0D001,N02,N03,N04,N05,N06,N07,N08,O0A,N09,M010,N01,N02,N03"),
    (0x13084, "N04,N05,N06,N07,N08,N09,M020,N01,N02,N03,N04,N05,N06,N07,O0A,N08,N09,M030,N01,O0A"),
    (0x13098, "N02,N03,N04,O0A,N05,N06,N07,N08,N09,M040,N01,N02,N03,N04,N05,N06,O0A,N07,N08,O0A"),
    (0x130AC, "N09,M050,O0A,O0B,O0C,O0D,O0E,O0F,O0G,O0H,O0I,N01,N02,O0A,N03,N04,O0A,N05,N06,N07"),
    (0x130C0, "N08,N09,M060,N01,N02,N03,N04,N05,N06,N07,O0A,O0B,O0C,O0D,O0E,O0F,O0G,O0H,K0E001"),
    (0x130D3, "N02,N03,N04,N05,N06,N07,N08,O0A,N09,O0A,M010,N01,N02,N03,N04,N05,N06,O0A,N07,O0A"),
    (0x130E7, "N08,N09,M020,O0A,N01,N02,N03,N04,N05,N06,N07,N08,O0A,N09,M030,N01,N02,N03,N04,O0A"),
    (0x130FB, "N06,N07,N08,K0F001,O0A,N02,N03,N04,N05,N06,N07,N08,N09,M010,N01,N02,N03,O0A,N04"),
    (0x1310E, "N05,N06,N07,N08,N09,M020,N01,O0A,N02,N03,N04,N05,N06,N07,N08,N09,M030,N01,O0A,N02"),
    (0x13122, "N03,N04,N05,N06,N07,O0A,N08,O0A,N09,M040,N01,N02,N03,N04,N05,O0A,N06,O0A,N07,O0A"),
    (0x13136, "N08,N09,M050,N01,O0A,O0B,O0C,N02,N03,K0G001,N02,N03,N04,N05,N06,O0A,N07,O0A,O0B"),
    (0x13149, "N08,N09,M010,N01,O0A,N02,N03,N04,N05,N06,N07,N08,N09,M020,O0A,N01,N02,N03,N04,N05"),
    (0x1315D, "N06,O0A,N07,N08,N09,M030,N01,N02,N03,N04,N05,N06,O0A,N07,O0A,N08,N09,M040,N01,N02"),
    (0x13171, "N03,O0A,N04,N05,O0A,N06,N07,N08,N09,M050,N01,N02,N03,N04,K0H001,N02,N03,N04,N05"),
    (0x13184, "N06,O0A,N07,N08,K0I001,N02,N03,N04,N05,O0A,N06,N07,N08,N09,O0A,M010,O0A,N01,O0A"),
    (0x13197, "N02,N03,N04,N05,K0K001,N02,N03,N04,N05,N06,N07,N08,K0L001,N02,O0A,N03,N04,N05,N06"),
    (0x131AA, "O0A,N07,N08,K0M001,O0A,O0B,N02,N03,O0A,N04,N05,N06,N07,N08,N09,M010,O0A,N01,N02"),
    (0x131BD, "O0A,O0B,O0C,O0D,O0E,O0F,O0G,O0H,N03,N04,N05,O0A,N06,O0A,N07,O0A,N08,N09,M020,N01"),
    (0x131D1, "N02,O0A,N03,N04,O0A,N05,N06,N07,N08,O0A,N09,M030,N01,O0A,N02,N03,O0A,O0B,N04,N05"),
    (0x131E5, "N06,N07,N08,N09,M040,O0A,N01,N02,N03,N04,K0N001,N02,N03,N04,N05,N06,N07,N08,N09"),
    (0x131F8, "M010,N01,N02,N03,N04,N05,N06,N07,N08,O0A,O0B,N09,M020,N01,N02,N03,N04,N05,O0A,N06"),
    (0x1320C, "N07,N08,N09,M030,N01,N02,N03,O0A,N04,O0A,N05,O0A,N06,N07,O0A,N08,N09,M040,N01,N02"),
    (0x13220, "L0L001,O02,O03,O04,O05,P0A,O06,O07,O08,O09,N010,O01,O02,O03,O04,O05,O06,O07,P0A"),
    (0x13233, "O08,O09,N020,L0U001,O02,O03,O04,O05,O06,O07,O08,O09,N010,P0A,O01,P0A,O02,O03,O04"),
    (0x13246, "O05,O06,O07,O08,P0A,O09,N020,O01,O02,P0A,K0O001,O0A,N02,N03,N04,N05,O0A,N06,O0A"),
    (0x13259, "O0B,O0C,O0D,O0E,O0F,N07,N08,N09,M010,O0A,O0B,O0C,N01,N02,N03,N04,N05,N06,N07,N08"),
    (0x1326D, "N09,O0A,M020,O0A,N01,N02,N03,N04,O0A,N05,O0A,N06,N07,N08,N09,O0A,M030,O0A,N01,N02"),
    (0x13281, "N03,O0A,N04,N05,N06,O0A,O0B,O0C,O0D,N07,N08,N09,M040,N01,N02,N03,N04,N05,N06,N07"),
    (0x13295, "N08,N09,M050,O0A,O0B,N01,K1P00,O0A,N02,N03,O0A,N04,N05,N06,N07,N08,N09,M010,N01"),
    (0x132A8, "K1Q00,N02,N03,N04,N05,N06,N07,K0R001,N02,O0A,N03,O0A,O0B,N04,N05,N06,N07,N08,N09"),
    (0x132BB, "M010,O0A,N01,N02,N03,N04,N05,N06,O0A,N07,N08,N09,M020,N01,N02,N03,N04,N05,N06,N07"),
    (0x132CF, "N08,N09,K0S001,N02,O0A,N03,N04,N05,N06,O0A,N07,N08,N09,M010,N01,N02,N03,N04,O0A"),
    (0x132E2, "O0B,N05,N06,N07,O0A,N08,N09,M020,N01,N02,N03,N04,N05,N06,O0A,O0B,N07,N08,N09,M030"),
    (0x132F6, "N01,N02,N03,N04,N05,O0A,N06,N07,N08,N09,M040,N01,N02,N03,N04,N05,N06,K0T001,N02"),
    (0x13309, "N03,O0A,N04,N05,N06,N07,O0A,N08,O0A,N09,O0A,M010,N01,O0A,N02,N03,N04,N05,N06,O0A"),
    (0x1331D, "N07,N08,N09,M020,N01,N02,N03,N04,N05,N06,N07,N08,N09,M030,N01,N02,O0A,N03,O0A,N04"),
    (0x13331, "N05,N06,K0U001,N02,N03,N04,N05,N06,O0A,O0B,N07,N08,N09,M010,N01,N02,N03,N04,N05"),
    (0x13344, "N06,N07,N08,N09,M020,N01,N02,N03,O0A,N04,N05,N06,N07,N08,N09,O0A,M030,N01,N02,O0A"),
    (0x13358, "N03,N04,N05,N06,N07,N08,N09,M040,N01,N02,K0V001,O0A,O0B,O0C,O0D,O0E,O0F,O0G,O0H"),
    (0x1336B, "O0I,N02,O0A,N03,N04,N05,N06,N07,O0A,O0B,N08,N09,M010,N01,O0A,O0B,O0C,N02,O0A,O0B"),
    (0x1337F, "N03,N04,N05,N06,N07,N08,N09,M020,O0A,O0B,O0C,O0D,O0E,O0F,O0G,O0H,O0I,O0J,O0K,O0L"),
    (0x13393, "N01,N02,N03,O0A,N04,N05,N06,N07,N08,O0A,N09,O0A,M030,O0A,N01,O0A,N02,N03,O0A,N04"),
    (0x133A7, "N05,N06,N07,O0A,N08,N09,M040,O0A,K0W001,N02,N03,O0A,N04,N05,N06,N07,N08,N09,O0A"),
    (0x133BA, "M010,O0A,N01,N02,N03,N04,O0A,N05,N06,N07,O0A,N08,O0A,N09,M020,N01,N02,N03,N04,O0A"),
    (0x133CE, "N05,K0X001,N02,N03,N04,O0A,O0B,N05,N06,O0A,N07,N08,O0A,K0Y001,O0A,N02,N03,N04,N05"),
    (0x133E1, "N06,N07,N08,K0Z001,N02,O0A,O0B,O0C,O0D,N03,O0A,O0B,N04,O0A,N05,O0A,N06,N07,N08,N09"),
    (0x133F5, "M010,N01,N02,N03,N04,N05,O0A,O0B,O0C,O0D,O0E,O0F,O0G,O0H,O0I,N06,O0A,O0B,O0C,O0D"),
    (0x13409, "O0E,O0F,O0G,O0H,K0AA001,O02,O03,O04,O05,O06,O07,P0A,P0B,O08,O09,N010,O01,O02,O03"),
    (0x1341C, "O04,O05,O06,O07,O08,O09,N020,O01,O02,O03,O04,O05,O06,O07,O08,O09,N030,O01,O02")
  ]

/-- Names from U+13430 on, below U+1DA9B. -/
def namesFrom13430 : List (Nat × String) :=
  [
    (0x13430, "00EGYPTIAN HIEROGLYPH VERTICAL JOINER,K9HORIZONT,K0INSERT AT TOP START,U6BOTTOM"),
    (0x13434, "U0TOP END,U4BOTTOM,K0OVERLAY MIDDLE,K0BEGIN SEGMENT,K8END"),
    (0x14400, "00ANATOLIAN HIEROGLYPH A001,O02,O03,O04,O05,O06,O07,O08,O09,N010,P0A,O01,O02,O03"),
    (0x1440E, "O04,O05,O06,O07,O08,O09,N020,O01,O02,O03,O04,O05,O06,P0A,O07,O08,O09,N030,O01,O02"),
    (0x14422, "O03,O04,O05,O06,O07,O08,O09,P0A,N040,O01,P0A,O02,O03,O04,O05,P0A,O06,P0A,P0B,O07"),
    (0x14436, "O08,O09,N050,O01,O02,O03,O04,O05,O06,O07,O08,O09,N060,O01,O02,O03,O04,O05,O06,P0A"),
    (0x1444A, "P0B,P0C,O07,O08,O09,N070,O01,O02,O03,O04,O05,O06,O07,O08,O09,N080,O01,O02,O03,O04"),
    (0x1445E, "O05,O06,O07,O08,O09,N090,O01,O02,O03,O04,O05,O06,O07,P0A,O08,P0A,O09,M0100,P0A,O01"),
    (0x14472, "P0A,O02,P0A,O03,O04,P0A,P0B,P0C,O05,P0A,P0B,O06,O07,P0A,P0B,P0C,O08,O09,N010,P0A"),
    (0x14486, "P0B,O01,O02,O03,O04,O05,P0A,O06,O07,O08,O09,N020,O01,O02,O03,O04,O05,P0A,O06,O07"),
    (0x1449A, "O08,O09,N030,O01,O02,O03,O04,O05,P0A,O06,O07,O08,O09,N040,O01,O02,O03,O04,O05,O06"),
    (0x144AE, "O07,O08,O09,N050,O01,O02,O03,O04,O05,O06,O07,O08,O09,N060,O01,O02,O03,O04,O05,O06"),
    (0x144C2, "O07,O08,O09,N070,O01,O02,O03,O04,O05,O06,O07,O08,O09,N080,O01,O02,O03,O04,O05,O06"),
    (0x144D6, "O07,O08,O09,N090,O01,O02,O03,O04,O05,O06,O07,O08,O09,M0200,O01,O02,P0A,P0B,O03,O04"),
    (0x144EA, "O05,O06,O07,P0A,O08,O09,P0A,N010,O01,O02,O03,O04,O05,P0A,O06,P0A,O07,O08,O09,N020"),
    (0x144FE, "O01,O02,O03,O04,O05,O06,O07,P0A,O08,O09,N030,O01,O02,O03,O04,O05,O06,O07,O08,O09"),
    (0x14512, "N040,O01,O02,O03,O04,O05,O06,O07,O08,O09,N050,O01,O02,O03,O04,O05,O06,O07,O08,O09"),
    (0x14526, "N060,O01,O02,O03,O04,O05,O06,O07,P0A,O08,O09,N070,O01,O02,O03,O04,O05,O06,O07,O08"),
    (0x1453A, "O09,N080,O01,O02,O03,O04,O05,O06,O07,O08,O09,P0A,N090,O01,O02,O03,O04,P0A,O05,O06"),
    (0x1454E, "O07,O08,O09,P0A,M0300,O01,O02,O03,O04,O05,O06,O07,O08,O09,P0A,N010,O01,O02,O03,O04"),
    (0x14562, "O05,O06,O07,O08,O09,N020,O01,O02,O03,O04,O05,O06,O07,O08,O09,P0A,N030,O01,O02A,P0B"),
    (0x14576, "P0C,O03,O04,O05,O06,P0A,P0B,P0C,O07,O08,O09,N040,O01,O02,O03,O04,O05,O06,O07,O08"),
    (0x1458A, "O09,N050,O01,O02,O03,O04,O05,O06,O07,O08,O09,P0A,N060,O01,O02,O03,O04,P0A,O05,O06"),
    (0x1459E, "O07,O08,P0A,O09,N070,O01,P0A,O02,O03,O04,O05,O06,O07,O08,O09,N080,O01,P0A,O02"),
    (0x145B1, "O03 RA OR RI,P0A,O04,O05,O06,P0A,O07,O08,O09,N090,O01,O02,O03 EIGHT,O04,O05,O06"),
    (0x145C1, "O07,O08,O09,M0400,O01,O02,O03,O04,O05,O06,O07,O08,O09,N010 BEGIN LOGOGRAM MARK"),
    (0x145CF, "PEA END,O01,O02,O03,O04,O05,O06,O07,O08,O09,N020,O01,O02,O03,O04,O05,O06,O07,O08"),
    (0x145E2, "O09,N030,O01,O02,O03,O04,O05,O06,O07,O08,O09,N040,O01,O02,O03,O04,O05,O06,O07,O08"),
    (0x145F6, "O09,N050,P0A,O01,O02,O03,O04,O05,O06,O07,P0A,O08,O09,N060,O01,O02,O03,O04,O05,O06"),
    (0x1460A, "O07,O08,O09,N070,O01,O02,O03,O04,O05,O06,O07,O08,O09,N080,O01,O02,O03,O04,O05,O06"),
    (0x1461E, "O07,O08,O09,N090,O01,O02,O03,O04,O05,O06,O07,M0501,O02,O03,O04,O05,O06,O07,O08,O09"),
    (0x14632, "N010,O01,O02,O03,O04,O05,O06,O07,O08,O09,N020,O01,O02,O03,O04,O05,O06,O07,O08,O09"),
    (0x14646, "N030"),
    (0x16800, "00BAMUM LETTER PHASE-A NGKUE MFON,L3GBIEE ,L0PON MFON PIPAEMGBIEE,Z0MBA,L0NAA MFON"),
    (0x16805, "L0SHUENSHUET,L0TITA MFON,L6NZ,L0SHINDA PA NJI,L0PON PA NJI PIPAEMGBIEE,Z0AEMBA"),
    (0x1680B, "L0MAEMBGBIEE,L0TU MAEMBA,L0NGANGU,L0MAEMVEUX,N0NSUAE,M0VEUAENGAM,L2SEUNY,L0NTOQPEN"),
    (0x16813, "L0KEUKEUTNDA,L0NKINDI,L0SUU,L0NGKUENZEUM,L0LAPAQ,M0ET KUT,L0NTAP MFAA,L0MAEKEUP"),
    (0x1681B, "L0PASHAE,L2GHEUAER,L2PAMSH,L0MON NGGEUAET,L1NZUN MEU,L0U YUQ NAE,L2GHEUAEGHEU"),
    (0x16822, "L0NTAP NTAA,L1SIS,L2MGBA,M0EUNJOMNDEUQ,M2OOMP,L0KAFA,L1PA LEERAEW,LAND,L0PET"),
    (0x1682B, "L0MAEMKPEN,L0NIKA,L0PUP,L1TUAE,L4L,L0SONJAM,L0TEUTEUWEN,L0MAENYI,L0KET"),
    (0x16834, "L2NDAANGGEUA,L0KUOQ,L0MOOMEUT,L0SHUM,L0LOMMAE,L0FIRI,L0ROM,L0KPOQ,L2S,L0MAP PIEET"),
    (0x1683E, "L0SHIRAE,L0NTAP,L0SHOQ NSHUT YUM,L0NYIT MONGKEUAEQ,L0PAARAE,L5NK,L0UNKNOWN,L1NGGE"),
    (0x16846, "L0MAESI,L0NJAM,L0MBANYI,L0NYET,L0TEUAEN,L0SOT,L0PAAM,L0NSHIEE,L0MAEM,L0NYI,L0KAQ"),
    (0x16851, "L0NSHA,L0VEE,L0LU,L0NEN,M0AQ,L2MB,J0B NSHUET,L0TU MAEMGBIEE,L3S,M0ET TU"),
    (0x1685B, "L0LOM NTEUM,L0MBA MAELEE,L0KIEEM,L0YEURAE,L3MBAA,L0KAM,L0PEESHI,L0YAFU LEERAEWA"),
    (0x16863, "L0LAM NSHUT NYAM,L0NTIEE SHEUOQ,M0DU NJAA,L0GHEUGHEUAEM,L0PIT,L0TU NSIEE"),
    (0x16869, "L0SHET NJAQ,O0UAEQTU,L0MFON TEUAEQ,M0BIT MBAAKET,L0NYI NTEUM,L0KEUPUQ,L0GHEUGHEN"),
    (0x16870, "L0KEUYEUX,L0LAANAE,L0PARUM,L2VE,L0NGKINDI MVOP,N0GEU MBU,L0WUAET,L0SAKEUAE,L0TAAM"),
    (0x16879, "L0MEUQ,L1NGGUO,R0 LARGE,L0MFIYAQ,L0SUE,L0MBEURI,M0ONTIEEN,L0NYAEMAE,L0PUNGAAM"),
    (0x16882, "L0MEUT NGGEET,L0FEUX,L0MBUOQ,L0FEE,L0KEUAEM,L0MA NJEUAENA,Q1UQ,L0LET,L0NGGAAM"),
    (0x1688B, "M0SEN,L0MA,L0KIQ,L0NGOM,J0C NGKUE MAEMBA,M1Z,L0YUM,L0WANGKUOQ,L0NGGEN,M0DEUAEREE"),
    (0x16895, "M0GKAQ,L0GHARAE,L0MBEEKEET,L0GBAYI,L0NYIR MKPARAQ MEUN,M0TU MBIT,L0MBEUM,L0PIRIEEN"),
    (0x1689D, "L0NDOMBU,L0MBAA CABBAGE-TREE,L0KEUSHEUAEP,L1GHA,L0KEUKAQ,L0YU MUOMAE,L0NZEUM"),
    (0x168A4, "L0MBUE,L0NSEUAEN,L0MBIT,L0YEUQ,L1KPARA,M0AA,L0SEUX,L0NDIDA,L0TAASHAE,L0NJUEQ"),
    (0x168AE, "L0TITA YUE,L0SUAET,L0NGGUAEN NYAM,L0VEUX,L0NANSANAQ,L0MA KEUAERI,L0NTAA,M0GGUON"),
    (0x168B6, "L0LAP,L0MBIRIEEN,M0GBASAQ,L0NTEUNGBA,L0TEUTEUX,L0NGGUM,L0FUE,L0NDEUT,M0SA,N0HAQ"),
    (0x168C0, "L0BUNG,L0VEUAEPEN,L0MBERAE,L0RU,L0NJAEM,L1LA,L0TITUAEP,L0NSUOT NGOM,M0JEEEE,L0KET"),
    (0x168CA, "L0NGGU,L0MAESI,M0BUAEM,L0LU,L0KUT,L0NJAM,M1GO,L0WUP,L0NGGUEET,M0SOM,M0TEN"),
    (0x168D5, "L0KUOP NKAARAE,L0NSUN,M0DAM,L0MA NSIEE,L0YAA,L0NDAP,L0SHUEQ,M0ETFON,L0MBI,M0AEMBA"),
    (0x168DF, "M0BANYI,L0KEUSEUX,L3MB,L0KEUM,L0MBAA PICKET,L0YUWOQ,L0NJEUX,L0MIEE,M1UA,L0SHIQ"),
    (0x168E9, "L0KEN LAW,P0FATIGUE,L0NGAQ,M2,L1LI,L0PIN,M1E,L0TET,J0D MBUO,L0WAP,L0NJI,L0MFON"),
    (0x168F5, "L0NJIEE,L3L,L0NJEUT,M0SHEE,M1GGAAMA,M0YAM,L0WUAEN,L1NGKU,L0SHEE,L0NGKAP"),
    (0x168FF, "L0KEUAETMEUN,L0TEUT,L0SHEUAE,L0NJAP,L0SUE,L0KET,L0YAEMMAE,L0KUOM,L0SAP,L0MFEUT"),
    (0x16909, "L0NDEUX,L0MALEERI,M0EUT,L0SEUAEQ,L0YEN,L0NJEUAEM,L0KEUOT MBUAE,L0NGKEURI,L0TU"),
    (0x16912, "L0GHAA,L0NGKYEE,L0FEUFEUAET,L0NDEE,L0MGBOFUM,L0LEUAEP,L0NDON,L0MONI,M0GBEUN,L0PUUT"),
    (0x1691C, "L0MGBIEE,M0FO,L0LUM,L0NSIEEP,L0MBAA,L0KWAET,L2NY,L0TEUAEN,L0SOT,L0YUWOQ,L0KEUM"),
    (0x16927, "L1RAE,L0TEEEE,L0NGKEUAEQ,L0MFEUAE,L0NSIEET,L0KEUP,L1PI,M0EUTAE,L1NYU,L0LET"),
    (0x16931, "L0NGGAAM,L0MFIEE,L0NGGWAEN,L0YUOM,L0PAP,L1YUO,L0NDAM,M1TEU,L0SUAE,L0KUN,L0NGGEUX"),
    (0x1693C, "N0KIEE,L0TUOT,L0MEUN,L0KUQ,L0NSUM,L0TEUN,L0MAENJET,L0NGGAP,L0LEUM,L1NGGUO,M0SHUT"),
    (0x16947, "M0JUEQ,L0GHEUAE,L0KU,L0REN OLD,L0TAE,M0OQ,L0NYI,L1RI,L0LEEEE,L4M,M0,L0SUU,L1M"),
    (0x16954, "L0SHII,N0EUX,L0KYEE,L0NU,L1SH,L0NTEE,L2P,L0NI,L0SHOQ,L1PU,L0MVOP,L0LOQ,L0REN MUCH"),
    (0x16961, "L0TI,L0NTUU,L0MBAA SEVEN,L0SAQ,L0FAA,J0E NDAP,L0TOON,L0MBEUM,L0LAP,L0VOM,L0LOON"),
    (0x1696C, "L0PAA,L0SOM,L0RAQ,L0NSHUOP,M0DUN,L0PUAE,L0TAM,L0NGKA,L0KPEUX,L0WUO,L0SEE"),
    (0x16977, "L0NGGEUAET,L0PAAM,L0TOO,L0KUOP,L0LOM,L0NSHIEE,M0GOP,L0MAEM,L0NGKEUX,N0OQ,M0SHUE"),
    (0x16982, "L0RIMGBA,L0NJEUX,L0PEEM,L0SAA,L0NGGURAE,L0MGBA,L0GHEUX,L0NGKEUAEM,M0JAEMLI,L0MAP"),
    (0x1698C, "L0LOOT,L0NGGEEEE,M0DIQ,L0TAEN NTEUM,L0SET,L0PUM,L0NDAA SOFTNESS,M0GGUAESHAE NYAM"),
    (0x16994, "L0YIEE,L0GHEUN,L0TUAE,L3YE,L0PO,L0TUMAE,L2KEU,L0SUAEN,L0TEUAEQ,L0VEUAE,L0WEUX"),
    (0x1699F, "L0LAAM,L0PU,L0TAAQ,L0GHAAMAE,L0NGEUREUT,L0SHEUAEQ,L0MGBEN,M0BEE,L0NZAQ,M0KOM"),
    (0x169A9, "L0GBET,L0TUM,L0KUET,L0YAP,L0NYI CLEAVER,L0YIT,L0MFEUQ,L1NDIA,L1PIEE,L2YU,L0LEUAEM"),
    (0x169B4, "L0FUE,L0GBEUX,L0NGKUP,L0KET,L0MAE,L0NGKAAMI,L0GHET,L0FA,L0NTUM,L0PEUT,L0YEUM"),
    (0x169BF, "L0NGGEUAE,M0YI BETWEEN,M0ZUQ,L0POON,L0MIEE,L0FUET,L0NAE,L2MU,L3GHE,L0FU I,L1MV"),
    (0x169CA, "L0PUAQ,L0NGKUM,L0KUT,L1PIE,L0NTAP,L0YEUAET,L0NGGUP,L0PA PEOPLE,L0FU CALL,M0OM"),
    (0x169D4, "L0NJEE,L0A,L0TOQ,L0O,L0I,L0LAQ,L0PA PLURAL,L0TAA,N0Q,L0NDAA MY HOUSE,L0SHIQ,L0YEUX"),
    (0x169E0, "L0NGUAE,L0YUAEN,M0OQ SWIMMING,P0COVER,M0UQ,N0N,L0KEUX,L3P,L0NJEE EPOCH,L0PUE,L2W"),
    (0x169EB, "L1FE,L2V,L0LU,L0MI,L0REUX,M0AE,L0NGUAET,N0A,L0SHO,O0Q,L0FU REMEDY,L0NA,L0PI,L0LOQ"),
    (0x169F9, "L0KO,L0MEN,M0A,N0Q,L0TEU,L0KI,L0MON,L1TE,L0FAQ,L0GHOM,J0F KA,L0U,L1K,L0EE,L2R,L1TA"),
    (0x16A09, "L0NYI,L0LA,L0RII,N0EE,L2MEE,L0TAA,L2ND,M0JAEM,L1,L0SUU,M0HII,M1,M0EUX,L0KYEE,M0ET"),
    (0x16A18, "L0NUAE,N0,M0JUAE,L0YOQ,L0SHU,L0YA,L1NSH,L0PEUX,L0NTEE,L1WU,L1PE,L0RU,L0NI,L0REUX"),
    (0x16A26, "L0KEN,L2NGKWA,N0GA,L0SHO,L0PUAE,L0FOM,L0WA,L0LI,M0OQ,L0KO,L0MBEN,L2R,L0MA,M0O"),
    (0x16A34, "M0BAA,L0TET,L0KPA,L1SAMB,L0VUEQ"),
    (0x16A40, "00MRO LETTER TA,B0NGI,B0YO,B0MIM,B0BA,B1D,B1,B0PHI,B1KHA,B0HAO,B0DAI,B0CHU,B0KEAAE"),
    (0x16A4D, "B0OL,B0MAEM,B0NIN,B0PA,B0OO,C0,B1R,B0SHI,B0THEA,B2,B1W,B0E,B0KO,B0LAN,D0,B0HAI,B1R"),
    (0x16A5E, "B0TEK"),
    (0x16A60, "40DIGIT ZERO,A0ONE,A0TWO,B0HREE,A0FOUR,B0IVE,A0SIX,B0EVEN,A0EIGHT,A0NINE"),
    (0x16A6E, "50ANDA,56OUBLE,00TANGSA LETTER OZ,F0C,F0Q,F0X,E0AZ,F0C,F0Q,F0X,E0VZ,F0C,F0Q,F0X"),
    (0x16A7C, "E0EZ,F0C,F0Q,F0X,E0IZ,F0C,F0Q,F0X,E0UZ,F0C,F0Q,F0X,E0AWZ,G0C,G0Q,G0X,E0UIZ,G0C,G0Q"),
    (0x16A8F, "G0X,E0FINAL NG,E0LONG UEX,E0SHORT UEZ,K0AWX,E0UEC,G0Z,G0Q,G0X,F0IUZ,H0C,H0Q,H0X"),
    (0x16A9C, "E0MZ,F0C,F0Q,F0X,E0KA,F1H,E1G,E2N,E1S,E1Y,E1W,E1P,E1NY,E1PH,E1B,E1M,E1N,E1H,E1L"),
    (0x16AAF, "E1HT,E2,E1D,E1R,E1NH,E2S,E1C,E1TS,E1GH,E1HTT,E1TH,E1X,E1F,E1DH,E2C,E1Z"),
    (0x16AC0, "70DIGIT ZERO,D0ONE,D0TWO,E0HREE,D0FOUR,E0IVE,D0SIX,E0EVEN,D0EIGHT,D0NINE"),
    (0x16AD0, "00BASSA VAH LETTER ENNI,H0KA,H0SE,H0FA,H0MBE,H1YI,H0GAH,H0DHII,H0KPAH,H0JO,H0HWAH"),
    (0x16ADB, "H0WA,H0ZO,H0GBU,H0DO,H0CE,H0UWU,H0TO,H0BA,H0VU,H0YEIN,H0PA,H1WADD,H1,H0O,I1,H0U"),
    (0x16AEB, "H0EE,I0,H0I"),
    (0x16AF0, "A0COMBINING HIGH TONE,K5LOW,K5MID,K8LOW-,K5HIGH-LOW,A0FULL STOP"),
    (0x16B00, "00PAHAWH HMONG VOWEL KEEB,M0V,K0IB,L0V,K0AUB,M0V,K0UB,L0V,K0EB,L0V,K0AIB,M0V,K0OOB"),
    (0x16B0D, "M0V,K0AWB,M0V,K0UAB,M0V,K0OB,L0V,K0IAB,M0V,K0AB,L0V,K0WB,L0V,K0AAB,M0V"),
    (0x16B1C, "D0CONSONANT VAU,N2NTS,N2L,N2H,N2NL,N2R,N2NK,N2QH,N2Y,N2HL,N2M,N2CH,N4N,N2HN,N2PLH"),
    (0x16B2B, "N3NT,O2,N2,N2X,N2C,D0MARK CIM TUB,M0SO,M0KES,N0HAV,M0SUAM,M1HO,M1TAU"),
    (0x16B37, "D1SIGN VOS THO,N0SHAB CEEB,I0CIM CHEEM,I0VOS THIAB,M0FEEM,I0XYEEM NTXIV,O0RHO"),
    (0x16B3E, "O0TOV,O0FAIB,I0VOS SEEV,I0MEEJ SUAB,I0VOS NRUA,I0IB YAM,I0XAUS,I0CIM TSOV ROG"),
    (0x16B50, "D0DIGIT ZERO,J0ONE,J0TWO,K0HREE,J0FOUR,K0IVE,J0SIX,K0EVEN,J0EIGHT,J0NINE"),
    (0x16B5B, "D0NUMBER TENS,K1HUNDRED,K2TEN THOUSAN,K1MILLION,K9HUNDRED,K7TEN B,L7R"),
    (0x16B63, "D0SIGN VOS LUB,I0XYOO,I0HLI,I4THIRD-STAGE,I0ZWJ THAJ,I0HNUB,I0NQIG,I0XIAB,I0NTUJ"),
    (0x16B6C, "I0AV,I1TXHEEJ CEE,I0MEEJ TSEEB,I0TAU,I0LOS,I1MU,I0CIM HAIS LUS NTOG NTOG"),
    (0x16B73, "M0CUAM TSHOOJ,M0TXWV,Q2 CH,M0PUB DAWB,M0NRES TOS"),
    (0x16B7D, "D0CLAN SIGN TSHEEJ,N0YEEG,N0LIS,O0AUJ,N1XYOO,N0KOO,N0HAWJ,N0MUAS,N0THOJ,O0SAB,N2PH"),
    (0x16B88, "N3K,N0HAM,N0VAJ,N2F,N2Y,N0TSWB,N0KWM,N0VWJ"),
    (0x16E40, "00MEDEFAIDRIN CAPITAL LETTER M,R0S,R0V,R0W,R0ATIU,R0Z,R0KP,R1,R0T,R0G,R0F,R0I,R0K"),
    (0x16E4D, "R0A,R0J,R0E,R0B,R0C,R0U,R1Y,R0L,R0Q,R0HP,R0NY,R0X,R0D,R0OE,R0N,R0R,R0O,R0AI,R0Y"),
    (0x16E60, "C0SMALL LETTER M,P0S,P0V,P0W,P0ATIU,P0Z,P0KP,P1,P0T,P0G,P0F,P0I,P0K,P0A,P0J,P0E"),
    (0x16E70, "P0B,P0C,P0U,P1Y,P0L,P0Q,P0HP,P0NY,P0X,P0D,P0OE,P0N,P0R,P0O,P0AI,P0Y,C0DIGIT ZERO"),
    (0x16E81, "I0ONE,I0TWO,J0HREE,I0FOUR,J0IVE,I0SIX,J0EVEN,I0EIGHT,I0NINE,C0NUMBER TEN,J2ELEV"),
    (0x16E8C, "J0TWELVE,K0HIRTEEN,J5FOU,K4IF,J4SIX,K4EVEN,J4EIGH,J4NINE"),
    (0x16E94, "C0DIGIT ONE ALTERNATE FORM,IFTWO,JFHREE,C0COMMA,C0FULL STOP,C0SYMBOL AIVA"),
    (0x16E9A, "C0EXCLAMATION OH"),
    (0x16F00, "10IAO LETTER PA,C1B,C1YI P,C1PL,C1M,D1H,C1ARCHAIC M,C1F,C1V,D1F,C1T,C1D,C1YI TT,G1"),
    (0x16F0E, "C2T,C1DD,C1N,D1H,C1YI NN,C2ARCHAIC ,C2N,E1H,C1L,D1Y,D1H,E1Y,C1TLH,C3D,C1TLHY,C4D"),
    (0x16F1E, "C1K,C1G,C1YI K,C1Q,D1G,C2N,E1H,C1ARCHAIC NG,C1H,C1X,C1GH,E2,C1TSS,C1DZZ,C1NY,E1H"),
    (0x16F2E, "C2TS,C2DZ,C2YI TS,F2DZ,C2REFORMED TS,C3,D1S,C1ZH,D2S,C1TS,C1DZ,C1YI TS,C2,C1Z,D1S"),
    (0x16F3D, "D1Z,E1S,C1ARCHAIC ZZ,C1ZZY,E2S,C1W,C0AH,C0HHA,C0BRI,C1SY,C2DZ,C0TE,D1S,C1RT"),
    (0x16F4F, "50SIGN CONSONANT MODIFIER BAR,50LETTER NASALIZATION,55SIGN ASPIR"),
    (0x16F52, "A0REFORMED VOICING,J0ASPIRATION,50VOWEL SIGN A,H1,H0HH,H0N,I0G,G0O,H1,G1W,H0,G0E"),
    (0x16F5E, "H0N,I0G,G0OEY,G0I,H0A,I0N,J0G,H0O,H0E,H0I,H0U,H0NG,G0U,H0A,I0N,J0G,H0U,H0EI,H0NG"),
    (0x16F71, "G0Y,H0I,G0AE,I1,G0ERR,G4ROUNDED,G1E,G3ROUNDED,G0AI,G1E,G0AU,G1O,G0N,H0G,G1UO,G0YUI"),
    (0x16F81, "G0OG,H0ER,G0VW,G0IG,G0EA,G0IONG,G0UI"),
    (0x16F8F, "50TONE RIGHT,A6TOP,A0ABOVE,A0BELOW,50LETTER TONE-2,H03,H04,H05,H06,H07,H08"),
    (0x16F9A, "C0REFORMED TONE-1,Q02,Q04,Q05,Q06,Q08"),
    (0x16FE0, "00TANGUT ITERATION MARK,0FNUSHU,05OLD CHINESE HOOK,C5ITERATION"),
    (0x16FE4, "00KHITAN SMALL SCRIPT FILLER"),
    (0x16FF0, "00VIETNAMESE ALTERNATE READING MARK CA,Y0NHAY"),
    (0x18800, "00TANGUT COMPONENT-001,J02,J03,J04,J05,J06,J07,J08,J09,I010,J01,J02,J03,J04,J05"),
    (0x1880F, "J06,J07,J08,J09,I020,J01,J02,J03,J04,J05,J06,J07,J08,J09,I030,J01,J02,J03,J04,J05"),
    (0x18823, "J06,J07,J08,J09,I040,J01,J02,J03,J04,J05,J06,J07,J08,J09,I050,J01,J02,J03,J04,J05"),
    (0x18837, "J06,J07,J08,J09,I060,J01,J02,J03,J04,J05,J06,J07,J08,J09,I070,J01,J02,J03,J04,J05"),
    (0x1884B, "J06,J07,J08,J09,I080,J01,J02,J03,J04,J05,J06,J07,J08,J09,I090,J01,J02,J03,J04,J05"),
    (0x1885F, "J06,J07,J08,J09,H0100,J01,J02,J03,J04,J05,J06,J07,J08,J09,I010,J01,J02,J03,J04,J05"),
    (0x18873, "J06,J07,J08,J09,I020,J01,J02,J03,J04,J05,J06,J07,J08,J09,I030,J01,J02,J03,J04,J05"),
    (0x18887, "J06,J07,J08,J09,I040,J01,J02,J03,J04,J05,J06,J07,J08,J09,I050,J01,J02,J03,J04,J05"),
    (0x1889B, "J06,J07,J08,J09,I060,J01,J02,J03,J04,J05,J06,J07,J08,J09,I070,J01,J02,J03,J04,J05"),
    (0x188AF, "J06,J07,J08,J09,I080,J01,J02,J03,J04,J05,J06,J07,J08,J09,I090,J01,J02,J03,J04,J05"),
    (0x188C3, "J06,J07,J08,J09,H0200,J01,J02,J03,J04,J05,J06,J07,J08,J09,I010,J01,J02,J03,J04,J05"),
    (0x188D7, "J06,J07,J08,J09,I020,J01,J02,J03,J04,J05,J06,J07,J08,J09,I030,J01,J02,J03,J04,J05"),
    (0x188EB, "J06,J07,J08,J09,I040,J01,J02,J03,J04,J05,J06,J07,J08,J09,I050,J01,J02,J03,J04,J05"),
    (0x188FF, "J06,J07,J08,J09,I060,J01,J02,J03,J04,J05,J06,J07,J08,J09,I070,J01,J02,J03,J04,J05"),
    (0x18913, "J06,J07,J08,J09,I080,J01,J02,J03,J04,J05,J06,J07,J08,J09,I090,J01,J02,J03,J04,J05"),
    (0x18927, "J06,J07,J08,J09,H0300,J01,J02,J03,J04,J05,J06,J07,J08,J09,I010,J01,J02,J03,J04,J05"),
    (0x1893B, "J06,J07,J08,J09,I020,J01,J02,J03,J04,J05,J06,J07,J08,J09,I030,J01,J02,J03,J04,J05"),
    (0x1894F, "J06,J07,J08,J09,I040,J01,J02,J03,J04,J05,J06,J07,J08,J09,I050,J01,J02,J03,J04,J05"),
    (0x18963, "J06,J07,J08,J09,I060,J01,J02,J03,J04,J05,J06,J07,J08,J09,I070,J01,J02,J03,J04,J05"),
    (0x18977, "J06,J07,J08,J09,I080,J01,J02,J03,J04,J05,J06,J07,J08,J09,I090,J01,J02,J03,J04,J05"),
    (0x1898B, "J06,J07,J08,J09,H0400,J01,J02,J03,J04,J05,J06,J07,J08,J09,I010,J01,J02,J03,J04,J05"),
    (0x1899F, "J06,J07,J08,J09,I020,J01,J02,J03,J04,J05,J06,J07,J08,J09,I030,J01,J02,J03,J04,J05"),
    (0x189B3, "J06,J07,J08,J09,I040,J01,J02,J03,J04,J05,J06,J07,J08,J09,I050,J01,J02,J03,J04,J05"),
    (0x189C7, "J06,J07,J08,J09,I060,J01,J02,J03,J04,J05,J06,J07,J08,J09,I070,J01,J02,J03,J04,J05"),
    (0x189DB, "J06,J07,J08,J09,I080,J01,J02,J03,J04,J05,J06,J07,J08,J09,I090,J01,J02,J03,J04,J05"),
    (0x189EF, "J06,J07,J08,J09,H0500,J01,J02,J03,J04,J05,J06,J07,J08,J09,I010,J01,J02,J03,J04,J05"),
    (0x18A03, "J06,J07,J08,J09,I020,J01,J02,J03,J04,J05,J06,J07,J08,J09,I030,J01,J02,J03,J04,J05"),
    (0x18A17, "J06,J07,J08,J09,I040,J01,J02,J03,J04,J05,J06,J07,J08,J09,I050,J01,J02,J03,J04,J05"),
    (0x18A2B, "J06,J07,J08,J09,I060,J01,J02,J03,J04,J05,J06,J07,J08,J09,I070,J01,J02,J03,J04,J05"),
    (0x18A3F, "J06,J07,J08,J09,I080,J01,J02,J03,J04,J05,J06,J07,J08,J09,I090,J01,J02,J03,J04,J05"),
    (0x18A53, "J06,J07,J08,J09,H0600,J01,J02,J03,J04,J05,J06,J07,J08,J09,I010,J01,J02,J03,J04,J05"),
    (0x18A67, "J06,J07,J08,J09,I020,J01,J02,J03,J04,J05,J06,J07,J08,J09,I030,J01,J02,J03,J04,J05"),
    (0x18A7B, "J06,J07,J08,J09,I040,J01,J02,J03,J04,J05,J06,J07,J08,J09,I050,J01,J02,J03,J04,J05"),
    (0x18A8F, "J06,J07,J08,J09,I060,J01,J02,J03,J04,J05,J06,J07,J08,J09,I070,J01,J02,J03,J04,J05"),
    (0x18AA3, "J06,J07,J08,J09,I080,J01,J02,J03,J04,J05,J06,J07,J08,J09,I090,J01,J02,J03,J04,J05"),
    (0x18AB7, "J06,J07,J08,J09,H0700,J01,J02,J03,J04,J05,J06,J07,J08,J09,I010,J01,J02,J03,J04,J05"),
    (0x18ACB, "J06,J07,J08,J09,I020,J01,J02,J03,J04,J05,J06,J07,J08,J09,I030,J01,J02,J03,J04,J05"),
    (0x18ADF, "J06,J07,J08,J09,I040,J01,J02,J03,J04,J05,J06,J07,J08,J09,I050,J01,J02,J03,J04,J05"),
    (0x18AF3, "J06,J07,J08,J09,I060,J01,J02,J03,J04,J05,J06,J07,J08"),
    (0x1AFF0, "00KATAKANA LETTER MINNAN TONE-2,S03,S04,S05"),
    (0x1AFF5, "S07,S08,N0NASALIZED TONE-1,Z0NE-2,Z0NE-3,Z0NE-4,Z0NE-5"),
    (0x1AFFD, "Z0NE-7,Z0NE-8"),
    (0x1B000, "G0ARCHAIC E,01HIRAGANA LETTER ARCHAIC Y,10ENTAIGANA LETTER A-1,K02,K03,K0WO,I0I-1"),
    (0x1B007, "K02,K03,K04,I0U-1,K02,K03,K04,K05,I0E-2,K03,K04,K05,K06,I0O-1,K02,K03,I0KA-1,L02"),
    (0x1B019, "L03,L04,L05,L06,L07,L08,L09,L010,M01,L0KE,J0I-1,L02,L03,L04,L05,L06,L07,L08,J0U-1"),
    (0x1B02C, "L02,L03,L04,L05,L06,L07,J0E-1,L02,L03,L04,L05,L06,J0O-1,L02,L03,L0KI,I0SA-1,L02"),
    (0x1B03E, "L03,L04,L05,L06,L07,L08,J0I-1,L02,L03,L04,L05,L06,J0U-1,L02,L03,L04,L05,L06,L07"),
    (0x1B051, "L08,J0E-1,L02,L03,L04,L05,J0O-1,L02,L03,L04,L05,L06,L07,I0TA-1,L02,L03,L04,J0I-1"),
    (0x1B063, "L02,L03,L04,L05,L06,L07,J0U-1,L02,L03,L04,L0TO,J0E-1,L02,L03,L04,L05,L06,L07,L08"),
    (0x1B076, "L09,J0O-1,L02,L03,L04,L05,L06,L0RA,I0NA-1,L02,L03,L04,L05,L06,L07,L08,L09,J0I-1"),
    (0x1B088, "L02,L03,L04,L05,L06,L07,L0TE,J0U-1,L02,L03,J0E-1,L02,L03,L04,L05,L06,L0KO,J0O-1"),
    (0x1B09A, "L02,L03,L04,L05,I0HA-1,L02,L03,L04,L05,L06,L07,L08,L09,L010,M01,J1I-,L02,L03,L04"),
    (0x1B0AD, "L05,L06,L07,J0U-1,L02,L03,J0E-1,L02,L03,L04,L05,L06,L07,J0O-1,L02,L03,L04,L05,L06"),
    (0x1B0C0, "L07,L08,I0MA-1,L02,L03,L04,L05,L06,L07,J0I-1,L02,L03,L04,L05,L06,L07,J0U-1,L02,L03"),
    (0x1B0D3, "L04,J0E-1,L02,L0MA,J0O-1,L02,L03,L04,L05,L06,I0YA-1,L02,L03,L04,L05,L0YO,J0U-1,L02"),
    (0x1B0E5, "L03,L04,J0O-1,L02,L03,L04,L05,L06,I0RA-1,L02,L03,L04,J0I-1,L02,L03,L04,L05,L06,L07"),
    (0x1B0F8, "J0U-1,L02,L03,L04,L05,L06,J0E-1,L02,L03,L04,J0O-1,L02,L03,L04,L05,L06,I0WA-1,L02"),
    (0x1B10A, "L03,L04,L05,J0I-1,L02,L03,L04,L05,J0E-1,L02,L03,L04,J0O-1,L02,L03,L04,L05,L06,L07"),
    (0x1B11D, "I0N-MU-MO-1,Q02,10IRAGANA LETTER ARCHAIC WU,00KATAKANA LETTER ARCHAIC YI,P0E,O0WU"),
    (0x1B150, "00HIRAGANA LETTER SMALL WI,N0E,N0O"),
    (0x1B164, "00KATAKANA LETTER SMALL WI,N0E,N0O,M0N"),
    (0x1BC00, "00DUPLOYAN LETTER H,G0X,G0P,G0T,G0F,G0K,G0L,G0B,G0D,G0V,G0G,G0R,G0P N,G0D S,G0F N"),
    (0x1BC0F, "G0K M,G0R S,G0TH,G1SLOAN D,G2,G0KK,G0SLOAN J,G0HL,G0LH,G1R,G0M,G0N,G0J,G0S,G0M N"),
    (0x1BC1E, "G0N M,G2J,G0S J,G0M WITH DOT,G9N,G9J,Q0S INSIDE AND ABOVE,G0S WITH DOT,Q0 BELOW"),
    (0x1BC27, "G0M S,G2N,G2J,G2S,G2M N,G2N M,G4J,G2S J,G0J S WITH DOT,I0N,J0 S,G0S T,J0 R,I0P"),
    (0x1BC35, "J0 R,G0T S,I2R,G0W,H0H,H0 R,G0S N,I0M,G0K R S,G4G,G0S K,J0 R,G0A,G0SLOAN OW,G0OA"),
    (0x1BC44, "H0,G0AOU,G0I,G0E,G1I,G0SHORT I,G1U,G0EE,G0SLOAN EH,G0ROMANIAN I,G0SLOAN EE"),
    (0x1BC4F, "G0LONG I,G0YE,G0U,G1E,G0XW,G0U N,G0LONG U,G2ROMANIAN,G0UH,G0SLOAN U,G0OOH,H0W,H0U"),
    (0x1BC5C, "G0WA,H0O,H0I,H1E,H0OW,G0NASAL U,M0O,M0I,M0A,G0PERNIN AN,O0M,G0SLOAN EN,M1A,M1O"),
    (0x1BC6A, "G0VOCALIC M"),
    (0x1BC70, "90AFFIX LEFT HORIZONTAL SECANT,FIMID,FIRIGHT,F9LOW VERTIC,FGMID,FGHIGH,F7ATTACHED"),
    (0x1BC77, "O7LEFT-TO-RIGHT,O2TANGE,Q0IL,O0E HOOK,O5I,O5TANGENT"),
    (0x1BC80, "F0HIGH ACUTE,K6TIGHT,K1GRAV,K6LONG,K0DOT,K0CIRCLE,K1LIN,K1WAV,K0VERTICAL"),
    (0x1BC90, "F0LOW ACUTE,J6TIGHT,J1GRAV,J6LONG,J0DOT,J0CIRCLE,J1LIN,J1WAV,J0VERTICAL,J0ARROW"),
    (0x1BC9C, "90SIGN O WITH CROSS,90THICK LETTER SELECTOR,90DOUBLE MARK"),
    (0x1BC9F, "90PUNCTUATION CHINOOK FULL STOP,01SHORTHAND FORMAT LETTER OVERLA,H8CONTINUING"),
    (0x1BCA2, "H1DOWN STE,H5UP"),
    (0x1CF00, "00ZNAMENNY COMBINING MARK GORAZDO NIZKO S KRYZHEM ON LEFT,ON,O8TSATA"),
    (0x1CF03, "O8GORAZDO NIZKO,OD,O8SREDNE,O9MALO POVYSH,OF,O8VYSOKO,O8MALO POVYSHE S KHOKHLOM,OQ"),
    (0x1CF0B, "OJVYSOKO,O1GORAZDO NIZKO S KRYZHEM ON RIGH,OO,O9TSATA,O9GORAZDO NIZKO,OE,O9SREDNE"),
    (0x1CF12, "OAMALO POVYSH,OG,O9VYSOKO,O9MALO POVYSHE S KHOKHLOM,OR,OKVYSOKO,O0TSATA S KRYZHEM"),
    (0x1CF19, "OAMALO POVYSHE,O0STRANNO MALO POVYSHE,O0POVYSHE S KRYZHEM,X0TRANNO"),
    (0x1CF1D, "O0VYSOKO S KRYZHEM,O0MALO POVYSHE STRANNO,O1GORAZDO VYSOK,O1ZEL,O0ON,O0RAVNO"),
    (0x1CF23, "O0TIKHAYA,O3BORZ,O1UDARK,O2PODVERT,O2LOM,O1KUPNAY,P1ACHK,O0ZEVOK,O0SKOBA,O1RAZSEK"),
    (0x1CF2D, "O0KRYZH ON LEFT"),
    (0x1CF30, "J0TONAL RANGE MARK MRACHNO,Z1 SVETL,Z6 TRE,J0MARK ZADERZHKA,OADEMESTVENNY,O3OTSEC"),
    (0x1CF36, "O0PODCHASHIE,Y1 WITH VERTICAL STROK,O0CHASHKA,V1 POLNAY,O0OBLACHKO"),
    (0x1CF3B, "O0SOROCHYA NOZHKA,O3TOC,O0DVOETOCHIE,J0ATTACHING VERTICAL OMET,J5MARK CURVED"),
    (0x1CF40, "O0KRYZH,J0LOWER TONAL RANGE INDICATOR,90PRIZNAK MODIFIER LEVEL-2,W03"),
    (0x1CF44, "Q0DIRECTION FLIP,Q0KRYZH,Q0ROG"),
    (0x1CF50, "90NEUME KRYUK,K0 TIKHY,F0PARAKLIT,F0DVA V CHELNU,F0KLYUCH,F0ZANOZHEK,F0STOPITSA"),
    (0x1CF57, "N0 S OCHKOM,F0PEREVODKA,O1 NEPOSTOYANNAY,F1STOPITSA WITH SOROCHYA NOZHK,F2CHELYUST"),
    (0x1CF5C, "F2PAL,F1ZAPYATAY,F0GOLUBCHIK BORZY,P1TIKH,P1MRACHN,P1SVETL,P6TRE"),
    (0x1CF63, "F0VRAKHIYA PROSTAYA,O3MRACHN,O3SVETL,O8TRE,O3KLYUCHEVAYA PROST,Z3 MRACHN,Z3 SVETL"),
    (0x1CF6A, "Z8 TRE,F3DOUBLE ZAPYAT,F1REVERSED CHELYUSTK,F1DERBITS,F0KHAMILO,F0CHASHKA"),
    (0x1CF70, "F0PODCHASHIE,F0SKAMEYTSA MRACHNAYA,P3SVETL,P8TRE,Q3IKH,F0DEMESTVENNY KLYUCH"),
    (0x1CF76, "F0SKAMEYTSA KLYUCHEVAYA SVETLAYA,W3NEPOSTOYANN,W3VAYA TIKH,P3DVOECHELNAYA PROST"),
    (0x1CF7A, "Z3YA SVETL,Z3YA NEPOSTOYANN,Z3YA KLYUCHEV,G0LOZHITIE,O0 S ZAPYATOY,P0ZAKRYTOE"),
    (0x1CF80, "P0S KRYZHEM,F0KRYZH,F0ROG,F0FITA,F1KOBYL,F1ZMEYTS,F1STATY,L0 S ZAPYATOY,O0KRYZHEM"),
    (0x1CF89, "O8ZAPYATOY I,O0KRYZHEM I ZAPYATOY,M0ZAKRYTAYA,V0 S ZAPYATOY,M0S ROGOM"),
    (0x1CF8E, "O0DVUMYA ZAPYATYMI,O0ZAPYATOY I PODCHASHIEM,F0POLKULIZMY,F0STATYA NEPOSTOYANNAYA"),
    (0x1CF92, "H3RELA PROST,M3MRACHNOTIKH,M3KRYZHEV,M3POLUPOVODN,O7,M4NEPOSTOYAN,M4KLYUCHEPOVOD"),
    (0x1CF99, "T4NEPOSTOYAN,M4TIKHAYA PUT,M4DVOECHEL,V3OKRYZHEV,W3POVODN,V3AYA KLYUCHEV,VGOPOVOD"),
    (0x1CFA0, "M3GROMNAYA WITH SINGLE ZAPYAT,QQOPOVOD,Q3N,Q4OPOVOD,Z3A WITH DOUBLE ZAPYAT"),
    (0x1CFA5, "R3KRYZHEV,Z3YA POVODN,F0MECHIK,L0 POVODNY,M1KLYUCHEVO,T1POVODN,T2NEPOSTOYAN"),
    (0x1CFAC, "F0STRELA TRYASOGLASNAYA,S4POVOD,S4STREL,F1OSOK,K1 SVETLAY,L8TRE,L8KRYUKOVAYA "),
    (0x1CFB3, "MDLYUCHE,X3NEPOSTOYANN,F3STRELA KRYUKOV,W3 POVODN,X3GROMNAYA WITH SINGLE ZAPYAT"),
    (0x1CFB8, "ZQOMOPOVOD,Z3OMN,Z4OMOPOVOD,Z3OMOPOVODNAYA WITH DOUBLE ZAPYAT,Z3OMOKRYZHEV"),
    (0x1CFBD, "Z3OMOKRYZHEVAYA POVODN,X1TRYASK,F1KUFISM,F0OBLAKO,F0DUDA,F1NEMK,F0PAUK"),
    (0x1D000, "00BYZANTINE MUSICAL SYMBOL PSILI,P0DASEIA,P0PERISPOMENI,P0OXEIA EKFONITIKON"),
    (0x1D004, "V0DIPLI,P0VAREIA EKFONITIKON,W0DIPLI,P1KATHIST,P1SYRMATIK,P4PARAKLI,P0YPOKRISIS"),
    (0x1D00B, "Y0 DIPLI,P1KREMAST,P0APESO EKFONITIKON,PDEX,P0TELEIA,P1KENTIMAT,P0APOSTROFOS"),
    (0x1D012, "Z0 DIPLI,P0SYNEVMA,P1THIT,P0OLIGON ARCHAION,PCGOR,P2PSIL,P4CHAM,P0VATHY"),
    (0x1D01A, "P0ISON ARCHAION,P9KENTIMA,WAT,P0SAXIMATA,P0PARICHON,P0STAVROS APODEXIA"),
    (0x1D020, "P0OXEIAI ARCHAION,PDVAR,P9APODERMA,S0THEMA,P2KLAS,P2REV,P0PIASMA ARCHAION"),
    (0x1D027, "P0TINAGMA,P2ANATRICHIS,P4SE,Q0YNAGMA ARCHAION,X0META STAVROU,P0OYRANISMA ARCHAION"),
    (0x1D02D, "P0THEMA,P0LEMOI,P0DYO,P0TRIA,Q1ESSER,P1KRATIMAT,P0APESO EXO NEO,P0FTHORA ARCHAION"),
    (0x1D035, "P0IMIFTHORA,P0TROMIKON ARCHAION,P2KATAVA TROMIK,P2PELAST,Q4SIFI,P0KONTEVMA"),
    (0x1D03B, "P0CHOREVMA ARCHAION,P0RAPISMA,P0PARAKALESMA ARCHAION,U9LITIKI,P1ICHADI,P0NANA"),
    (0x1D041, "P1PETASM,P0KONTEVMA ALLO,P5TROMIKON,P0STRAGGISMATA,P6GRONTH,P0ISON NEO,P6OLIG"),
    (0x1D048, "Q4XEIA,P0PETASTI,P0KOUFISMA,P8PETASTO,P9KRATIM,P0PELASTON NEO,P1KENTIMATA NEO AN"),
    (0x1D04F, "W8,P0YPSILI,P0APOSTROFOS NEO,Y6I SYNDESM,P0YPORROI,P0KRATIMOYPORROON,P2ELAFR"),
    (0x1D056, "P0CHAMILI,P0MIKRON ISON,P0VAREIA NEO,P5PIASM,Q4SIFISTON,P0OMALON,P0ANTIKENOMA"),
    (0x1D05D, "P2LYGIS,P0PARAKLITIKI NEO,U4ALESMA,P0ETERON PARAKALESMA,P3KYLI,P7ANTIKENO"),
    (0x1D063, "P0TROMIKON NEO,P0EKSTREPTON,P0SYNAGMA NEO,R0RMA,P0CHOREVMA NEO,P0EPEGERMA"),
    (0x1D069, "P0SEISMA NEO,P0XIRON KLASMA,P0TROMIKOPSIFISTON,P0PSIFISTOLYGISMA,P8TROMIK"),
    (0x1D06E, "W3PARAKALE,PCPSIFIST,P2TROMIKOSYNAG,P8PSIFIST,P0GORGOSYNTHETON,PCA,PEETERON"),
    (0x1D075, "P0OYRANISMA NEO,P1THEMATISMOS ES,Z1S EX,U0 APLOUN,S0S KAI APOTHES,P0KATAVASMA"),
    (0x1D07B, "P0ENDOFONON,P0YFEN KATO,U1AN,P0STAVROS,P0KLASMA ANO,P0DIPLI ARCHAION,P9KRATIMA"),
    (0x1D082, "Y0LLO,X1NE,P6APODER,R0LI,P3DI,P4TR,Q3ETRA,P0KORONIS,P0LEIMMA ENOS CHRONOU"),
    (0x1D08B, "W0DYO CHRONON,W8TRION,XAESSAR,W0IMISEOS CHRONOU,P0GORGON NEO ANO"),
    (0x1D090, "W0PARESTIGMENON ARISTERA,Z1ESTIGMENON DEXI,P0DIGORGON"),
    (0x1D093, "X0 PARESTIGMENON ARISTERA KATO,Z1ARESTIGMENON ARISTERA AN,Z0ARESTIGMENON DEXIA"),
    (0x1D096, "P0TRIGORGON,P4A,P5IMIDI,P7,P0AGOGI POLI ARGI,V1ARGOTER,Y1,V0METRIA,X0SI,V1GORG"),
    (0x1D0A0, "Z1OTER,V1POLI GORG,P0MARTYRIA PROTOS ICHOS,YDALLI,Y8DEYTER,YFALLI,Y8TRIT,Z1RIFONIA"),
    (0x1D0A8, "Z1ETARTOS ICHO,Z9ETARTOS LEGE,YD,Y8PLAGI,P2ISAKIA TELOUS ICHIMAT,PHAPOSTROFOI"),
    (0x1D0AE, "P1FANEROSIS TETRAFONIA,Z6MONO,Z6DI,P1MARTYRIA VARYS ICHO,YBPROTO,Z7LAGIOS TETARTO"),
    (0x1D0B4, "P0GORTHMIKON N APLOUN,Z5 N DI,P0ENARXIS KAI FTHORA VOU,P0IMIFONON,T2THOR"),
    (0x1D0B9, "P0FTHORA ARCHAION DEYTEROU ICHOU,W0DIATONIKI PA,Z1TONIKI NAN,W0NAOS ICHOS"),
    (0x1D0BD, "W0DIATONIKI DI,W3SKLIRON DIATONON,W0DIATONIKI KE,Z0TONIKI ZO,Z1TONIKI NI KAT"),
    (0x1D0C2, "Z1TONIKI NI AN,W0MALAKON CHROMA DIFONIAS,Z6AKON CHROMA MONO"),
    (0x1D0C5, "Q1HTORA SKLIRON CHROMA VASI,Q0THORA SKLIRON CHROMA SYNAFI,W0NENANO,P0CHROA ZYGOS"),
    (0x1D0C9, "V0KLITON,V0SPATHI,P0FTHORA I YFESIS TETARTIMORION,W0ENARMONIOS ANTIFONIA"),
    (0x1D0CD, "P0YFESIS TRITIMORION,PGDI,X8ETAR,W0APLI DYO DODEKATA,W9MONOGRAMMOS TESSERA"),
    (0x1D0D2, "W9DIGRAMMOS EX,W9TRIGRAMMOS OKTO,PAYFESIS APLI DY,W9MONOGRAMMOS TESSERA"),
    (0x1D0D6, "W9DIGRAMMOS EX,W9TRIGRAMMOS OKTO,P0GENIKI DIESIS,W4YF,P0DIASTOLI APLI MIKRI"),
    (0x1D0DB, "Z1PLI MEGAL,Y2DIP,Y0THESEOS,P8SIMANSIS,Z0HESEOS DISIMOU,Z6HESEOS TR,Z5HESEOS TETRA"),
    (0x1D0E2, "Y0ARSEOS,Z0RSEOS DISIMOU,Z6RSEOS TR,Z5RSEOS TETRA,P0DIGRAMMA GG,R0FTOGGOS OU"),
    (0x1D0E8, "P0STIGMA,P1ARKTIKO P,X0VOU,X0GA,X0DI,X0KE,X0ZO,X0NI,P0KENTIMATA NEO MESO,W9"),
    (0x1D0F2, "W1TA NEO KAT,W9,Q5LASMA,P5GORGON NEO"),
    (0x1D100, "00MUSICAL SYMBOL SINGLE BARLINE,FADOUB,F8FINAL,FEREVERSE,F8DASHED,F8SHORT"),
    (0x1D106, "F0LEFT REPEAT SIGN,FDRIGH,G0EPEAT DOTS,F0DAL SEGNO,H1 CAP,F1SEGN,F0CODA"),
    (0x1D10D, "F0REPEATED FIGURE-1,V02,V03,F0FERMATA,M0 BELOW,F0BREATH MARK,F0CAESURA,F0BRACE"),
    (0x1D115, "J0KET,F0ONE-LINE STAFF,FBTWO,GBHREE,FBFOUR,GBIVE,FBSIX,J0STRING FRETBOARD,FHFOUR"),
    (0x1D11E, "F0G CLEF,L0 OTTAVA ALTA,T1BASS,F0C CLEF,F5F,L0 OTTAVA ALTA,T1BASS,F0DRUM CLEF-1"),
    (0x1D126, "P02"),
    (0x1D129, "F0MULTIPLE MEASURE REST,F0DOUBLE SHARP,M0FLAT,F0FLAT UP,K0DOWN,F0NATURAL UP,N0DOWN"),
    (0x1D130, "F0SHARP UP,L0DOWN,F0QUARTER TONE SHARP,S0FLAT,F0COMMON TIME,G5UT,F0OTTAVA ALTA"),
    (0x1D137, "M1BASS,F1QUINDICESIMA ALT,S1BASS,F0MULTI REST,F5WHOLE,F5HALF,F5QUARTER,F5EIGHTH"),
    (0x1D13F, "F7SIXTEEN,F5THIRTY-SECOND,F5SIXTY-FOURTH,F7ONE HUNDRED TWENTY-EIGH,F0X NOTEHEAD"),
    (0x1D144, "F9PLUS,F9CIRCLE X,F0SQUARE NOTEHEAD WHITE,V0BLACK,F0TRIANGLE NOTEHEAD UP WHITE"),
    (0x1D149, "Z0 BLACK,X0LEFT WHITE,Z0FT BLACK,X0RIGHT WHITE,Z0GHT BLACK,X0DOWN WHITE,Z0WN BLACK"),
    (0x1D150, "X0UP RIGHT WHITE,Z0 RIGHT BLACK,F0MOON NOTEHEAD WHITE,T0BLACK"),
    (0x1D154, "F0TRIANGLE-ROUND NOTEHEAD DOWN WHITE,Z0EAD DOWN BLACK,F0PARENTHESIS NOTEHEAD"),
    (0x1D157, "F9VOID,F0NOTEHEAD BLACK,G0ULL NOTEHEAD,F0CLUSTER NOTEHEAD WHITE,W0BLACK,F0BREVE"),
    (0x1D15D, "F1WHOLE NOT,F5HALF,F5QUARTER,F5EIGHTH,F7SIXTEEN,F5THIRTY-SECOND,F5SIXTY-FOURTH"),
    (0x1D164, "F7ONE HUNDRED TWENTY-EIGH,F0COMBINING STEM,Q7PRECHGESA,P0TREMOLO-1,X02,X03"),
    (0x1D16A, "F0FINGERED TREMOLO-1,W02,W03,F0COMBINING AUGMENTATION DOT,P0FLAG-1,U02,U03,U04,U05"),
    (0x1D173, "F0BEGIN BEAM,F5END,F0BEGIN TIE,F4END,F0BEGIN SLUR,F5END,F0BEGIN PHRASE,F7END"),
    (0x1D17B, "F0COMBINING ACCENT,P0STACCATO,P2TENU,P1STACCATISSIM,P1MARCAT,W4-STAC,P9ACCENT"),
    (0x1D182, "P0LOURE,F0ARPEGGIATO UP,Q0DOWN,F0COMBINING DOIT,P0RIP,P2FL,P0SMEAR,P0BEND"),
    (0x1D18A, "P0DOUBLE TONGUE,P9TRIP,F0RINFORZANDO,F1SUBIT,F0Z,F0PIANO,F1MEZZ,F0FORTE"),
    (0x1D192, "F0CRESCENDO,F9DE,F0GRACE NOTE SLASH,Q6NO,F0TR,G0URN,F5INVERTED,F0TURN SLASH,K0UP"),
    (0x1D19B, "F0ORNAMENT STROKE-1,V02,V03,V04,V05,V06,V07,V08,V09,V010,W01,F0HAUPTSTIMME,F6NEBEN"),
    (0x1D1A8, "F6END OF ,F0DEGREE SLASH,F0COMBINING DOWN BOW,P4UP,P0HARMONIC,P0SNAP PIZZICATO"),
    (0x1D1AE, "F0PEDAL MARK,L5UP,F5HALF PEDAL,F0GLISSANDO UP,P0DOWN,F0WITH FINGERNAILS,F0DAMP"),
    (0x1D1B5, "J0 ALL,F0MAXIMA,F1LONG,F0BREVIS,F0SEMIBREVIS WHITE,Q0BLACK,F0MINIMA,L0 BLACK"),
    (0x1D1BD, "F0SEMIMINIMA WHITE,Q0BLACK,F0FUSA WHITE,K0BLACK,F0LONGA PERFECTA REST,LDIM"),
    (0x1D1C3, "F5BREVIS,FBSEMI,F5MINIMA,FBSEMI,F0TEMPUS PERFECTUM CUM PROLATIONE PERFECTA"),
    (0x1D1C8, "Z8 PROLATIONE IM,Z0 PROLATIONE PERFECTA DIMINUTION-1"),
    (0x1D1CA, "M0IMPERFECTUM CUM PROLATIONE PERFECTA,Z8UM PROLATIONE IM"),
    (0x1D1CC, "Z0UM PROLATIONE IMPERFECTA DIMINUTION-1,Z0UM PROLATIONE IMPERFECTA DIMINUTION-2"),
    (0x1D1CE, "Z0UM PROLATIONE IMPERFECTA DIMINUTION-3,F0CROIX,F0GREGORIAN C CLEF,P5F,F0SQUARE B"),
    (0x1D1D3, "F0VIRGA,F0PODATUS,F1CLIVI,F1SCANDICU,F3CLIMA,F2TORCUL,F2PORRECT,O2 FLEX,F9SCANDIC"),
    (0x1D1DC, "F2TORCULUS RESUPIN,F1PES SUBPUNCTI,F0KIEVAN C CLEF,M0END OF PIECE,M1FINAL NOT"),
    (0x1D1E1, "M0RECITATIVE MARK,M0WHOLE NOTE,M5HALF,M0QUARTER NOTE STEM DOWN,Z0STEM UP"),
    (0x1D1E6, "M0EIGHTH NOTE STEM DOWN,Z0TEM UP,M0FLAT SIGN,F0SORI,F0KORON"),
    (0x1D200, "00GREEK VOCAL NOTATION SYMBOL-1,S02,S03,S04,S05,S06,S07,S08,S09,S010,T01,T02,T03"),
    (0x1D20D, "T04,T05,T06,T07,T08,T09,S020,T01,T02,T03,T04,S050,T01,T02,T03,T04"),
    (0x1D21D, "60INSTRUMENTAL NOTATION SYMBOL-1,Z02,Z04,Z05,Z07,Z08,Z011,Z012,Z013,Z014,Z017,Z018"),
    (0x1D229, "Z019,Z023,Z024,Z025,Z026,Z027,Z029,Z030,Z032,Z036,Z037,Z038,Z039,Z040,Z042,Z043"),
    (0x1D239, "Z045,Z047,Z048,Z049,Z050,Z051,Z052,Z053,Z054,00COMBINING GREEK MUSICAL TRISEME"),
    (0x1D243, "P4ETRA,O5PENT,00GREEK MUSICAL LEIMMA"),
    (0x1D2E0, "00MAYAN NUMERAL ZERO,E0ONE,E0TWO,F0HREE,E0FOUR,F0IVE,E0SIX,F0EVEN,E0EIGHT,E0NINE"),
    (0x1D2EA, "E0TEN,E2ELEV,E0TWELVE,F0HIRTEEN,E5FOU,F4IF,E4SIX,F4EVEN,E4EIGH,E4NINE"),
    (0x1D300, "10ONOGRAM FOR EARTH,06DIGRAM FOR HEAVENLY,C6UMAN,B0EARTHLY HEAVEN,K1UMA,G0"),
    (0x1D306, "00TETRAGRAM FOR CENTRE,E1FULL CIRCL,E0MIRED,E0BARRIER,E0KEEPING SMALL"),
    (0x1D30B, "E0CONTRARIETY,E0ASCENT,E0OPPOSITION,E0BRANCHING OUT,E0DEFECTIVENESS OR DISTORTION"),
    (0x1D310, "F0IVERGENCE,E0YOUTHFULNESS,E0INCREASE,E0PENETRATION,E0REACH,E0CONTACT"),
    (0x1D316, "E0HOLDING BACK,E0WAITING,E3FOLLOW,E0ADVANCE,E1RELEAS,G1SISTANC,E1EAS,E0JOY"),
    (0x1D31E, "E0CONTENTION,E0ENDEAVOUR,E0DUTIES,E0CHANGE,E0DECISIVENESS,E0BOLD RESOLUTION"),
    (0x1D324, "E0PACKING,E0LEGION,E0CLOSENESS,E0KINSHIP,E0GATHERING,E0STRENGTH,E0PURITY"),
    (0x1D32B, "E0FULLNESS,E0RESIDENCE,E0LAW OR MODEL,E0RESPONSE,E0GOING TO MEET,E0ENCOUNTERS"),
    (0x1D331, "E0STOVE,E0GREATNESS,E0ENLARGEMENT,E0PATTERN,E0RITUAL,E0FLIGHT"),
    (0x1D337, "E0VASTNESS OR WASTING,E0CONSTANCY,E0MEASURE,E0ETERNITY,E4U,E0DIMINISHMENT"),
    (0x1D33D, "E0CLOSED MOUTH,E0GUARDEDNESS,F0ATHERING IN,E0MASSING,E0ACCUMULATION"),
    (0x1D342, "E0EMBELLISHMENT,E1DOUB,E0WATCH,E0SINKING,E0INNER,E0DEPARTURE,F0ARKENING,F3IMM"),
    (0x1D34A, "E0EXHAUSTION,E0SEVERANCE,F1TOPPAG,E0HARDNESS,E0COMPLETION,F0LOSURE,E3FAIL"),
    (0x1D351, "E0AGGRAVATION,E0COMPLIANCE,E1ON THE VERG,E0DIFFICULTIES,E0LABOURING,E4FOSTE"),
    (0x1D360, "00COUNTING ROD UNIT DIGIT ONE,O0TWO,P0HREE,O0FOUR,P0IVE,O0SIX,P0EVEN,O0EIGHT"),
    (0x1D368, "O0NINE,D2TENS DIGIT O,O0TWO,P0HREE,O0FOUR,P0IVE,O0SIX,P0EVEN,O0EIGHT,O0NINE"),
    (0x1D372, "02IDEOGRAPHIC TALLY MARK O,N0TWO,O0HREE,N0FOUR,O0IVE,01TALLY MARK ON,B1FIV"),
    (0x1D400, "00MATHEMATICAL BOLD CAPITAL A,Q0B,Q0C,Q0D,Q0E,Q0F,Q0G,Q0H,Q0I,Q0J,Q0K,Q0L,Q0M,Q0N"),
    (0x1D40E, "Q0O,Q0P,Q0Q,Q0R,Q0S,Q0T,Q0U,Q0V,Q0W,Q0X,Q0Y,Q0Z,I0SMALL A,O0B,O0C,O0D,O0E,O0F,O0G"),
    (0x1D421, "O0H,O0I,O0J,O0K,O0L,O0M,O0N,O0O,O0P,O0Q,O0R,O0S,O0T,O0U,O0V,O0W,O0X,O0Y,O0Z"),
    (0x1D434, "D0ITALIC CAPITAL A,S0B,S0C,S0D,S0E,S0F,S0G,S0H,S0I,S0J,S0K,S0L,S0M,S0N,S0O,S0P,S0Q"),
    (0x1D445, "S0R,S0S,S0T,S0U,S0V,S0W,S0X,S0Y,S0Z,K0SMALL A,Q0B,Q0C,Q0D,Q0E,Q0F,Q0G"),
    (0x1D456, "Q0I,Q0J,Q0K,Q0L,Q0M,Q0N,Q0O,Q0P,Q0Q,Q0R,Q0S,Q0T,Q0U,Q0V,Q0W,Q0X,Q0Y,Q0Z"),
    (0x1D468, "D0BOLD ITALIC CAPITAL A,X0B,X0C,X0D,X0E,X0F,X0G,X0H,X0I,X0J,X0K,X0L,X0M,X0N,X0O"),
    (0x1D477, "X0P,X0Q,X0R,X0S,X0T,X0U,X0V,X0W,X0X,X0Y,X0Z,P0SMALL A,V0B,V0C,V0D,V0E,V0F,V0G,V0H"),
    (0x1D48A, "V0I,V0J,V0K,V0L,V0M,V0N,V0O,V0P,V0Q,V0R,V0S,V0T,V0U,V0V,V0W,V0X,V0Y,V0Z"),
    (0x1D49C, "D0SCRIPT CAPITAL A"),
    (0x1D49E, "S0C,S0D"),
    (0x1D4A2, "S0G"),
    (0x1D4A5, "S0J,S0K"),
    (0x1D4A9, "S0N,S0O,S0P,S0Q"),
    (0x1D4AE, "S0S,S0T,S0U,S0V,S0W,S0X,S0Y,S0Z,K0SMALL A,Q0B,Q0C,Q0D"),
    (0x1D4BB, "Q0F"),
    (0x1D4BD, "Q0H,Q0I,Q0J,Q0K,Q0L,Q0M,Q0N"),
    (0x1D4C5, "Q0P,Q0Q,Q0R,Q0S,Q0T,Q0U,Q0V,Q0W,Q0X,Q0Y,Q0Z,D0BOLD SCRIPT CAPITAL A,X0B,X0C,X0D"),
    (0x1D4D4, "X0E,X0F,X0G,X0H,X0I,X0J,X0K,X0L,X0M,X0N,X0O,X0P,X0Q,X0R,X0S,X0T,X0U,X0V,X0W,X0X"),
    (0x1D4E8, "X0Y,X0Z,P0SMALL A,V0B,V0C,V0D,V0E,V0F,V0G,V0H,V0I,V0J,V0K,V0L,V0M,V0N,V0O,V0P,V0Q"),
    (0x1D4FB, "V0R,V0S,V0T,V0U,V0V,V0W,V0X,V0Y,V0Z,D0FRAKTUR CAPITAL A,T0B"),
    (0x1D507, "T0D,T0E,T0F,T0G"),
    (0x1D50D, "T0J,T0K,T0L,T0M,T0N,T0O,T0P,T0Q"),
    (0x1D516, "T0S,T0T,T0U,T0V,T0W,T0X,T0Y"),
    (0x1D51E, "L0SMALL A,R0B,R0C,R0D,R0E,R0F,R0G,R0H,R0I,R0J,R0K,R0L,R0M,R0N,R0O,R0P,R0Q,R0R,R0S"),
    (0x1D531, "R0T,R0U,R0V,R0W,R0X,R0Y,R0Z,D0DOUBLE-STRUCK CAPITAL A,Z0B"),
    (0x1D53B, "Z0D,Z0E,Z0F,Z0G"),
    (0x1D540, "Z0I,Z0J,Z0K,Z0L,Z0M"),
    (0x1D546, "Z0O"),
    (0x1D54A, "Z0S,Z0T,Z0U,Z0V,Z0W,Z0X,Z0Y"),
    (0x1D552, "R0SMALL A,X0B,X0C,X0D,X0E,X0F,X0G,X0H,X0I,X0J,X0K,X0L,X0M,X0N,X0O,X0P,X0Q,X0R,X0S"),
    (0x1D565, "X0T,X0U,X0V,X0W,X0X,X0Y,X0Z,D0BOLD FRAKTUR CAPITAL A,Y0B,Y0C,Y0D,Y0E,Y0F,Y0G,Y0H"),
    (0x1D574, "Y0I,Y0J,Y0K,Y0L,Y0M,Y0N,Y0O,Y0P,Y0Q,Y0R,Y0S,Y0T,Y0U,Y0V,Y0W,Y0X,Y0Y,Y0Z,Q0SMALL A"),
    (0x1D587, "W0B,W0C,W0D,W0E,W0F,W0G,W0H,W0I,W0J,W0K,W0L,W0M,W0N,W0O,W0P,W0Q,W0R,W0S,W0T,W0U"),
    (0x1D59B, "W0V,W0W,W0X,W0Y,W0Z,D0SANS-SERIF CAPITAL A,W0B,W0C,W0D,W0E,W0F,W0G,W0H,W0I,W0J,W0K"),
    (0x1D5AB, "W0L,W0M,W0N,W0O,W0P,W0Q,W0R,W0S,W0T,W0U,W0V,W0W,W0X,W0Y,W0Z,O0SMALL A,U0B,U0C,U0D"),
    (0x1D5BE, "U0E,U0F,U0G,U0H,U0I,U0J,U0K,U0L,U0M,U0N,U0O,U0P,U0Q,U0R,U0S,U0T,U0U,U0V,U0W,U0X"),
    (0x1D5D2, "U0Y,U0Z,O0BOLD CAPITAL A,Z0L B,Z0L C,Z0L D,Z0L E,Z0L F,Z0L G,Z0L H,Z0L I,Z0L J"),
    (0x1D5DE, "Z0L K,Z0L L,Z0L M,Z0L N,Z0L O,Z0L P,Z0L Q,Z0L R,Z0L S,Z0L T,Z0L U,Z0L V,Z0L W"),
    (0x1D5EB, "Z0L X,Z0L Y,Z0L Z,T0SMALL A,Z0B,Z0C,Z0D,Z0E,Z0F,Z0G,Z0H,Z0I,Z0J,Z0K,Z0L,Z0M,Z0N"),
    (0x1D5FC, "Z0O,Z0P,Z0Q,Z0R,Z0S,Z0T,Z0U,Z0V,Z0W,Z0X,Z0Y,Z0Z,O0ITALIC CAPITAL A,Z0TAL B,Z0TAL C"),
    (0x1D60B, "Z0TAL D,Z0TAL E,Z0TAL F,Z0TAL G,Z0TAL H,Z0TAL I,Z0TAL J,Z0TAL K,Z0TAL L,Z0TAL M"),
    (0x1D615, "Z0TAL N,Z0TAL O,Z0TAL P,Z0TAL Q,Z0TAL R,Z0TAL S,Z0TAL T,Z0TAL U,Z0TAL V,Z0TAL W"),
    (0x1D61F, "Z0TAL X,Z0TAL Y,Z0TAL Z,V0SMALL A,Z0L B,Z0L C,Z0L D,Z0L E,Z0L F,Z0L G,Z0L H,Z0L I"),
    (0x1D62B, "Z0L J,Z0L K,Z0L L,Z0L M,Z0L N,Z0L O,Z0L P,Z0L Q,Z0L R,Z0L S,Z0L T,Z0L U,Z0L V"),
    (0x1D638, "Z0L W,Z0L X,Z0L Y,Z0L Z,O0BOLD ITALIC CAPITAL A,Z0 CAPITAL B,Z0 CAPITAL C"),
    (0x1D63F, "Z0 CAPITAL D,Z0 CAPITAL E,Z0 CAPITAL F,Z0 CAPITAL G,Z0 CAPITAL H,Z0 CAPITAL I"),
    (0x1D645, "Z0 CAPITAL J,Z0 CAPITAL K,Z0 CAPITAL L,Z0 CAPITAL M,Z0 CAPITAL N,Z0 CAPITAL O"),
    (0x1D64B, "Z0 CAPITAL P,Z0 CAPITAL Q,Z0 CAPITAL R,Z0 CAPITAL S,Z0 CAPITAL T,Z0 CAPITAL U"),
    (0x1D651, "Z0 CAPITAL V,Z0 CAPITAL W,Z0 CAPITAL X,Z0 CAPITAL Y,Z0 CAPITAL Z,Z0 SMALL A"),
    (0x1D657, "Z0 SMALL B,Z0 SMALL C,Z0 SMALL D,Z0 SMALL E,Z0 SMALL F,Z0 SMALL G,Z0 SMALL H"),
    (0x1D65E, "Z0 SMALL I,Z0 SMALL J,Z0 SMALL K,Z0 SMALL L,Z0 SMALL M,Z0 SMALL N,Z0 SMALL O"),
    (0x1D665, "Z0 SMALL P,Z0 SMALL Q,Z0 SMALL R,Z0 SMALL S,Z0 SMALL T,Z0 SMALL U,Z0 SMALL V"),
    (0x1D66C, "Z0 SMALL W,Z0 SMALL X,Z0 SMALL Y,Z0 SMALL Z,D0MONOSPACE CAPITAL A,V0B,V0C,V0D,V0E"),
    (0x1D675, "V0F,V0G,V0H,V0I,V0J,V0K,V0L,V0M,V0N,V0O,V0P,V0Q,V0R,V0S,V0T,V0U,V0V,V0W,V0X,V0Y"),
    (0x1D689, "V0Z,N0SMALL A,T0B,T0C,T0D,T0E,T0F,T0G,T0H,T0I,T0J,T0K,T0L,T0M,T0N,T0O,T0P,T0Q,T0R"),
    (0x1D69C, "T0S,T0T,T0U,T0V,T0W,T0X,T0Y,T0Z,D0ITALIC SMALL DOTLESS I,Y0J"),
    (0x1D6A8, "D0BOLD CAPITAL ALPHA,Q1BET,Q1GAMM,Q1DELT,Q0EPSILON,Q0ZETA,Q3,Q3TH,Q2IO,Q1KAPP"),
    (0x1D6B2, "Q1LAMD,Q0MU,Q1N,Q0XI,Q0OMICRON,Q0PI,Q0RHO,Q0THETA SYMBOL,Q0SIGMA,Q0TAU,Q0UPSILON"),
    (0x1D6BD, "Q0PHI,Q2C,Q1PS,Q0OMEGA,I1NABL,I1SMALL ALPH,O1BET,O1GAMM,O1DELT,O0EPSILON,O0ZETA,O3"),
    (0x1D6C9, "O3TH,O2IO,O1KAPP,O1LAMD,O0MU,O1N,O0XI,O0OMICRON,O0PI,O0RHO,O0FINAL SIGMA,O5,O0TAU"),
    (0x1D6D6, "O0UPSILON,O0PHI,O2C,O1PS,O0OMEGA,I0PARTIAL DIFFERENTIAL,I1EPSILON SYMBO,I7THETA"),
    (0x1D6DE, "I8KAPP,I7PHI,I7RHO,I7PI,D0ITALIC CAPITAL ALPHA,S1BET,S1GAMM,S1DELT,S0EPSILON"),
    (0x1D6E7, "S0ZETA,S3,S3TH,S2IO,S1KAPP,S1LAMD,S0MU,S1N,S0XI,S0OMICRON,S0PI,S0RHO"),
    (0x1D6F3, "S0THETA SYMBOL,S0SIGMA,S0TAU,S0UPSILON,S0PHI,S2C,S1PS,S0OMEGA,K1NABL,K1SMALL ALPH"),
    (0x1D6FD, "Q1BET,Q1GAMM,Q1DELT,Q0EPSILON,Q0ZETA,Q3,Q3TH,Q2IO,Q1KAPP,Q1LAMD,Q0MU,Q1N,Q0XI"),
    (0x1D70A, "Q0OMICRON,Q0PI,Q0RHO,Q0FINAL SIGMA,Q5,Q0TAU,Q0UPSILON,Q0PHI,Q2C,Q1PS,Q0OMEGA"),
    (0x1D715, "K0PARTIAL DIFFERENTIAL,K1EPSILON SYMBO,K7THETA,K8KAPP,K7PHI,K7RHO,K7PI"),
    (0x1D71C, "D0BOLD ITALIC CAPITAL ALPHA,X1BET,X1GAMM,X1DELT,X0EPSILON,X0ZETA,X3,X3TH,X2IO"),
    (0x1D725, "X1KAPP,X1LAMD,X0MU,X1N,X0XI,X0OMICRON,X0PI,X0RHO,X0THETA SYMBOL,X0SIGMA,X0TAU"),
    (0x1D730, "X0UPSILON,X0PHI,X2C,X1PS,X0OMEGA,P1NABL,P1SMALL ALPH,V1BET,V1GAMM,V1DELT,V0EPSILON"),
    (0x1D73B, "V0ZETA,V3,V3TH,V2IO,V1KAPP,V1LAMD,V0MU,V1N,V0XI,V0OMICRON,V0PI,V0RHO,V0FINAL SIGMA"),
    (0x1D748, "V5,V0TAU,V0UPSILON,V0PHI,V2C,V1PS,V0OMEGA,P0PARTIAL DIFFERENTIAL,P1EPSILON SYMBO"),
    (0x1D751, "P7THETA,P8KAPP,P7PHI,P7RHO,P7PI,D0SANS-SERIF BOLD CAPITAL ALPHA,Z1L BET,Z1L GAMM"),
    (0x1D759, "Z1L DELT,Z0L EPSILON,Z0L ZETA,Z3L ,Z3L TH,Z2L IO,Z1L KAPP,Z1L LAMD,Z0L MU,Z1L N"),
    (0x1D763, "Z0L XI,Z0L OMICRON,Z0L PI,Z0L RHO,Z0L THETA SYMBOL,Z0L SIGMA,Z0L TAU,Z0L UPSILON"),
    (0x1D76B, "Z0L PHI,Z2L C,Z1L PS,Z0L OMEGA,T1NABL,T1SMALL ALPH,Z1BET,Z1GAMM,Z1DELT,Z0EPSILON"),
    (0x1D775, "Z0ZETA,Z3,Z3TH,Z2IO,Z1KAPP,Z1LAMD,Z0MU,Z1N,Z0XI,Z0OMICRON,Z0PI,Z0RHO,Z0FINAL SIGMA"),
    (0x1D782, "Z5,Z0TAU,Z0UPSILON,Z0PHI,Z2C,Z1PS,Z0OMEGA,T0PARTIAL DIFFERENTIAL,T1EPSILON SYMBO"),
    (0x1D78B, "T7THETA,T8KAPP,T7PHI,T7RHO,T7PI,T0ITALIC CAPITAL ALPHA,Z1 CAPITAL BET"),
    (0x1D792, "Z1 CAPITAL GAMM,Z1 CAPITAL DELT,Z0 CAPITAL EPSILON,Z0 CAPITAL ZETA,Z3 CAPITAL "),
    (0x1D797, "Z3 CAPITAL TH,Z2 CAPITAL IO,Z1 CAPITAL KAPP,Z1 CAPITAL LAMD,Z0 CAPITAL MU"),
    (0x1D79C, "Z1 CAPITAL N,Z0 CAPITAL XI,Z0 CAPITAL OMICRON,Z0 CAPITAL PI,Z0 CAPITAL RHO"),
    (0x1D7A1, "Z0 CAPITAL THETA SYMBOL,Z0 CAPITAL SIGMA,Z0 CAPITAL TAU,Z0 CAPITAL UPSILON"),
    (0x1D7A5, "Z0 CAPITAL PHI,Z2 CAPITAL C,Z1 CAPITAL PS,Z0 CAPITAL OMEGA,Z1 NABL,Z1 SMALL ALPH"),
    (0x1D7AB, "Z1 SMALL BET,Z1 SMALL GAMM,Z1 SMALL DELT,Z0 SMALL EPSILON,Z0 SMALL ZETA,Z3 SMALL "),
    (0x1D7B1, "Z3 SMALL TH,Z2 SMALL IO,Z1 SMALL KAPP,Z1 SMALL LAMD,Z0 SMALL MU,Z1 SMALL N"),
    (0x1D7B7, "Z0 SMALL XI,Z0 SMALL OMICRON,Z0 SMALL PI,Z0 SMALL RHO,Z0 SMALL FINAL SIGMA,Z7 SMAL"),
    (0x1D7BD, "Z0 SMALL TAU,Z0 SMALL UPSILON,Z0 SMALL PHI,Z2 SMALL C,Z1 SMALL PS,Z0 SMALL OMEGA"),
    (0x1D7C3, "Z0 PARTIAL DIFFERENTIAL,Z1 EPSILON SYMBO,Z7 THETA,Z8 KAPP,Z7 PHI,Z7 RHO,Z7 PI"),
    (0x1D7CA, "D0BOLD CAPITAL DIGAMMA,I9SMAL"),
    (0x1D7CE, "I0DIGIT ZERO,O0ONE,O0TWO,P0HREE,O0FOUR,P0IVE,O0SIX,P0EVEN,O0EIGHT,O0NINE"),
    (0x1D7D8, "D0DOUBLE-STRUCK DIGIT ZERO,X0ONE,X0TWO,Y0HREE,X0FOUR,Y0IVE,X0SIX,Y0EVEN,X0EIGHT"),
    (0x1D7E1, "X0NINE,D0SANS-SERIF DIGIT ZERO,U0ONE,U0TWO,V0HREE,U0FOUR,V0IVE,U0SIX,V0EVEN"),
    (0x1D7EA, "U0EIGHT,U0NINE,O0BOLD DIGIT ZERO,Z0ONE,Z0TWO,Z0THREE,Z0FOUR,Z0FIVE,Z0SIX,Z0SEVEN"),
    (0x1D7F4, "Z0EIGHT,Z0NINE,D0MONOSPACE DIGIT ZERO,T0ONE,T0TWO,U0HREE,T0FOUR,U0IVE,T0SIX,U0EVEN"),
    (0x1D7FE, "T0EIGHT,T0NINE,00SIGNWRITING HAND-FIST INDEX,H6CIRCLE,I6UP,H6OVAL,H6HINGE,H7ANGL"),
    (0x1D806, "H0FIST INDEX BENT,HBCIRCLE,HBFIST THUMB UNDER,M0INDEX RAISED KNUCKLE,S0CUPPED"),
    (0x1D80B, "S2HING,Y0 LOW,H0CIRCLE INDEX HINGE,H1FIST INDEX MIDDL,HDCIRCLE"),
    (0x1D810, "H0FIST INDEX MIDDLE BENT,Z0RAISED KNUCKLES,Z0HINGED,SEUP,S0HINGED MIDDLE UP"),
    (0x1D815, "S0MIDDLE CONJOINED,Z0CONJOINED INDEX BENT,Z5CONJOINED MIDDLE,Z0CONJOINED CUPPED"),
    (0x1D819, "Z2CONJOINED HING,Z2CROSS,HLCIRCLE,H0FIST MIDDLE BENT OVER INDEX"),
    (0x1D81D, "M0INDEX BENT OVER MIDDLE,S0MIDDLE THUMB,HJCIRCLE"),
    (0x1D820, "H0FIST INDEX MIDDLE STRAIGHT THUMB BENT,Z1BENT THUMB STRAIGH,Z1THUMB BEN"),
    (0x1D823, "Z0HINGED SPREAD THUMB SIDE,SCUP MIDDLE HINGE,Z0LE HINGED THUMB CONJOINED"),
    (0x1D826, "S0HINGED MIDDLE UP THUMB SIDE,S0MIDDLE UP SPREAD THUMB FORWARD,Z1THUMB CUPPE"),
    (0x1D829, "Z2THUMB CIRCL,Z2THUMB HOOK,Z2THUMB HING,M0THUMB BETWEEN INDEX MIDDLE STRAIGHT"),
    (0x1D82D, "M0INDEX MIDDLE CONJOINED THUMB SIDE,Z0CONJOINED THUMB SIDE CONJOINED"),
    (0x1D82F, "Z0CONJOINED THUMB SIDE BENT,M0MIDDLE THUMB HOOKED INDEX UP"),
    (0x1D831, "M3INDEX THUMB HOOKED MIDDLE,S0MIDDLE CONJOINED HINGED THUMB SIDE,ZDCROSS"),
    (0x1D834, "Z0CONJOINED THUMB FORWARD,ZGCONJOINED CUPP,M0MIDDLE THUMB CUPPED INDEX UP"),
    (0x1D837, "M3INDEX THUMB CUPPED MIDDLE,M3MIDDLE THUMB CIRCLED INDEX,Z0CIRCLED INDEX HINGED"),
    (0x1D83A, "M0INDEX THUMB ANGLED OUT MIDDLE UP,ZANGLED IN,YACIRCLED"),
    (0x1D83D, "S0MIDDLE THUMB CONJOINED HINGED,Z0THUMB ANGLED OUT,Z0THUMB ANGLED"),
    (0x1D840, "M0MIDDLE THUMB ANGLED OUT INDEX UP,Z0ANGLED OUT INDEX CROSSED,Z0ANGLED INDEX UP"),
    (0x1D843, "M0INDEX THUMB HOOKED MIDDLE HINGED,I0LAT FOUR FINGERS,Y0 BENT,Z0HINGED,Z2CONJOIN"),
    (0x1D848, "Z0CONJOINED SPLIT,H0CLAW FOUR FINGERS CONJOINED,H0FIST FOUR FINGERS CONJOINED BENT"),
    (0x1D84B, "H0HINGE FOUR FINGERS CONJOINED,H1FLAT FIVE FINGERS SPREA,MKHEEL"),
    (0x1D84E, "M0FIVE FINGERS SPREAD FOUR BENT,MUHEEL,M5FIVE FINGERS SPREAD,MPHEEL"),
    (0x1D852, "M0FIVE FINGERS SPREAD THUMB FORWARD,H1CUP FIVE FINGERS SPREA,Z0PREAD OPEN,HPHINGE"),
    (0x1D856, "H0OVAL FIVE FINGERS SPREAD,H1FLAT FIVE FINGERS SPREAD HINGE"),
    (0x1D858, "Z0SPREAD HINGED THUMB SIDE,Z0SPREAD HINGED NO THUMB,L0,L0 BETWEEN PALM FACINGS"),
    (0x1D85C, "M0HEEL,M0THUMB SIDE,MBHEEL,M0THUMB BENT,S0FORWARD,M0SPLIT INDEX THUMB SIDE,S1CENTR"),
    (0x1D863, "Y1 THUMB SID,Z0THUMB SIDE BENT,S0LITTLE,H0CLAW,L0 THUMB SIDE,M0NO THUMB"),
    (0x1D869, "M0THUMB FORWARD,H0HOOK CURLICUE,L0,H0CUP OPEN,K0,K0 OPEN THUMB SIDE,LA"),
    (0x1D870, "L0OPEN NO THUMB,L8,L0OPEN THUMB FORWARD,LD,J0RLICUE OPEN,P0,I1IRCL,H0OVAL"),
    (0x1D878, "L0 THUMB SIDE,M0NO THUMB,M0THUMB FORWARD,H0HINGE OPEN,R0 THUMB FORWARD,M0,M0 SMALL"),
    (0x1D87F, "N0OPEN THUMB SIDE,NA,N0OPEN NO THUMB,N8,N0THUMB SIDE TOUCHING INDEX"),
    (0x1D884, "T0BETWEEN MIDDLE RING,H0ANGLE,H0FIST INDEX MIDDLE RING,HICIRCLE,HJHING,HJANGL"),
    (0x1D88A, "H0HINGE LITTLE,H0FIST INDEX MIDDLE RING BENT,Z0RING CONJOINED,HSHINGE"),
    (0x1D88E, "H0FIST LITTLE DOWN,X0 RIPPLE STRAIGHT,Z0IPPLE CURVED,Y2OTHERS CIRCL,T0UP"),
    (0x1D893, "MATHUMB UNDER,HACIRCLE,HAOVAL,HAANGLE,H0FIST LITTLE RAISED KNUCKLE,T0BENT"),
    (0x1D899, "T0TOUCHES THUMB,U4,HDHINGE,H6FIST LITTLE INDEX,HJHINGE"),
    (0x1D89E, "H0ANGLE LITTLE INDEX THUMB INDEX THUMB OUT,Z0 THUMB INDEX THUMB"),
    (0x1D8A0, "H0FIST LITTLE INDEX,HDCIRCLE,HEHING,HEANGL,H0FIST INDEX MIDDLE LITTLE,HKCIRCLE"),
    (0x1D8A6, "HLHING,N0RING,H0ANGLE INDEX MIDDLE LITTLE,H7FIST INDEX MIDDLE CROSS,HQCIRCLE"),
    (0x1D8AB, "H0FIST RING DOWN,H0HINGE RING DOWN INDEX THUMB HOOK MIDDLE"),
    (0x1D8AD, "H0ANGLE RING DOWN MIDDLE THUMB INDEX CROSS,H0FIST RING UP,R0RAISED KNUCKLE,R2LITT"),
    (0x1D8B1, "HCCIRCLE,HCOVAL,HCANGLE,H2FIST RING MIDD,X0 CONJOINED,Y0RAISED KNUCKLES,R0INDEX"),
    (0x1D8B8, "R0THUMB,HBHOOK,H0FIST INDEX RING LITTLE,HICIRCLE,I0URLICUE INDEX RING LITTLE ON"),
    (0x1D8BD, "H0HOOK INDEX RING LITTLE OUT,Z0TTLE IN,Z0TTLE UNDER,H0CUP INDEX RING LITTLE"),
    (0x1D8C1, "HIHINGE,H0ANGLE INDEX RING LITTLE OUT,Z0ITTLE,H0FIST MIDDLE DOWN,H0HINGE MIDDLE"),
    (0x1D8C6, "H0FIST MIDDLE UP,HACIRCLE,H0FIST MIDDLE RAISED KNUCKLE,T1UP THUMB SID"),
    (0x1D8CA, "H0HOOK MIDDLE THUMB,H0FIST MIDDLE THUMB LITTLE,T6,T7RING,HJCIRCLE"),
    (0x1D8CF, "I0URLICUE MIDDLE RING LITTLE ON,J0P MIDDLE RING LITTLE,HJHINGE"),
    (0x1D8D2, "H0ANGLE MIDDLE RING LITTLE OUT,Z0LITTLE IN,Z0LITTLE"),
    (0x1D8D5, "H0CIRCLE MIDDLE RING LITTLE BENT,I0LAW MIDDLE RING LITTLE CONJOINED"),
    (0x1D8D7, "Z0ITTLE CONJOINED SIDE,H0HOOK MIDDLE RING LITTLE CONJOINED OUT"),
    (0x1D8D9, "Z0ITTLE CONJOINED IN,Z0ITTLE CONJOINED,I2INGE INDEX HING,H0FIST INDEX THUMB SIDE"),
    (0x1D8DD, "HHHINGE,H0FIST INDEX THUMB SIDE THUMB DIAGONAL,Z0IDE THUMB CONJOINED"),
    (0x1D8E0, "Z0IDE THUMB BENT,Z5IDE INDEX,Z5IDE BOTH,Z0IDE INDEX HINGE,Y0FORWARD INDEX STRAIGHT"),
    (0x1D8E5, "Z1ORWARD INDEX BEN,Y0HOOK,Y0CURLICUE,Z1URVE THUMB INSID,HVCLAW"),
    (0x1D8EA, "H0FIST INDEX THUMB CURVE THUMB UNDER,Z0IRCLE,H0CUP INDEX THUMB,W0 OPEN,HHHINGE"),
    (0x1D8EF, "Z0LARGE,Y0,Y0 SMALL,H0ANGLE INDEX THUMB OUT,Z0IN,Y0,H6FIST,R0 HEEL,S1SIDE DIAGONA"),
    (0x1D8F8, "X0CONJOINED,X0BENT,S0FORWARD,S0BETWEEN INDEX MIDDLE,Z0 MIDDLE RING,Z0 RING LITTLE"),
    (0x1D8FE, "S0UNDER TWO FINGERS,SEOV,S8UNDER THREE,Y8FOUR,S1OVER FOUR RAISED KNUCKLE,L0"),
    (0x1D904, "L0 HEEL,C0TOUCH SINGLE,I2MULTIP,I0BETWEEN,C0GRASP SINGLE,I2MULTIP,I0BETWEEN"),
    (0x1D90B, "C0STRIKE SINGLE,J2MULTIP,J0BETWEEN,C0BRUSH SINGLE,I2MULTIP,I0BETWEEN,C0RUB SINGLE"),
    (0x1D912, "G2MULTIP,G0BETWEEN,C0SURFACE SYMBOLS,K0BETWEEN,D0QUEEZE LARGE SINGLE,K7SMALL"),
    (0x1D918, "K2LARGE MULTIP,K9SMALL,L0EQUENTIAL,C0FLICK LARGE SINGLE,I7SMALL,I2LARGE MULTIP"),
    (0x1D91E, "I9SMALL,J0EQUENTIAL,C0SQUEEZE FLICK ALTERNATING,C0MOVEMENT-HINGE UP DOWN LARGE"),
    (0x1D922, "Z0SMALL,U1SEQUENTIA,RBDOWN,R0UP DOWN ALTERNATING LARGE,Z0ALTERNATING SMALL"),
    (0x1D927, "R0SIDE TO SIDE SCISSORS,L0WALLPLANE FINGER CONTACT,LKFLOOR"),
    (0x1D92A, "L0WALLPLANE SINGLE STRAIGHT SMALL,Z0LE STRAIGHT MEDIUM,Z0LE STRAIGHT LARGE"),
    (0x1D92D, "Z0LE STRAIGHT LARGEST,Z0LE WRIST FLEX,V0DOUBLE STRAIGHT,Z0LE WRIST FLEX"),
    (0x1D931, "Z0LE ALTERNATING,Z0LE ALTERNATING WRIST FLEX,V0CROSS,V0TRIPLE STRAIGHT MOVEMENT"),
    (0x1D935, "Z0LE WRIST FLEX,Z0LE ALTERNATING,Z0LE ALTERNATING WRIST FLEX,V0BEND SMALL"),
    (0x1D939, "Z0 MEDIUM,Z0 LARGE,V0CORNER SMALL,Z0ER MEDIUM,Z0ER LARGE,Z0ER ROTATION"),
    (0x1D93F, "W0HECK SMALL,Z0K MEDIUM,Z0K LARGE,V0BOX SMALL,Z0MEDIUM,Z0LARGE,V0ZIGZAG SMALL"),
    (0x1D946, "Z0AG MEDIUM,Z0AG LARGE,V0PEAKS SMALL,Z0S MEDIUM,Z0S LARGE"),
    (0x1D94B, "C1TRAVEL-WALLPLANE ROTATION-WALLPLANE SINGL,Z2ON-WALLPLANE DOUB"),
    (0x1D94D, "Z0ON-WALLPLANE ALTERNATING,Z0ON-FLOORPLANE SINGLE,Z2ON-FLOORPLANE DOUB"),
    (0x1D950, "Z0ON-FLOORPLANE ALTERNATING,T3SHAK,T0ARM SPIRAL SINGLE,Z2IRAL DOUB,Z2IRAL TRIP"),
    (0x1D955, "C0MOVEMENT-DIAGONAL AWAY SMALL,Z0MEDIUM,Z0LARGE,Z0LARGEST,U0TOWARDS SMALL"),
    (0x1D95A, "Z0DS MEDIUM,Z0DS LARGE,Z0DS LARGEST,U0BETWEEN AWAY SMALL,Z0EN AWAY MEDIUM"),
    (0x1D95F, "Z0EN AWAY LARGE,Z0EN AWAY LARGEST,Z0EN TOWARDS SMALL,Z0EN TOWARDS MEDIUM"),
    (0x1D963, "Z0EN TOWARDS LARGE,Z0EN TOWARDS LARGEST,L0FLOORPLANE SINGLE STRAIGHT SMALL"),
    (0x1D966, "Z0GLE STRAIGHT MEDIUM,Z0GLE STRAIGHT LARGE,Z0GLE STRAIGHT LARGEST,Z0GLE WRIST FLEX"),
    (0x1D96A, "W0DOUBLE STRAIGHT,Z0BLE WRIST FLEX,Z0BLE ALTERNATING,Z0BLE ALTERNATING WRIST FLEX"),
    (0x1D96E, "W0CROSS,W0TRIPLE STRAIGHT MOVEMENT,Z0PLE WRIST FLEX,Z0PLE ALTERNATING MOVEMENT"),
    (0x1D972, "Z0PLE ALTERNATING WRIST FLEX,W0BEND,W0CORNER SMALL,Z0NER MEDIUM,Z0NER LARGE,X0HECK"),
    (0x1D978, "W0BOX SMALL,Z0 MEDIUM,Z0 LARGE,W0ZIGZAG SMALL,Z0ZAG MEDIUM,Z0ZAG LARGE"),
    (0x1D97E, "W0PEAKS SMALL,Z0KS MEDIUM,Z0KS LARGE,C1TRAVEL-FLOORPLANE ROTATION-FLOORPLANE SINGL"),
    (0x1D982, "Z2ION-FLOORPLANE DOUB,Z0ION-FLOORPLANE ALTERNATING,Z0ION-WALLPLANE SINGLE"),
    (0x1D985, "Z2ION-WALLPLANE DOUB,Z0ION-WALLPLANE ALTERNATING,U3SHAK"),
    (0x1D988, "C0MOVEMENT-WALLPLANE CURVE QUARTER SMALL,Z0E QUARTER MEDIUM,Z0E QUARTER LARGE"),
    (0x1D98B, "Z0E QUARTER LARGEST,Z0E HALF-CIRCLE SMALL,Z0E HALF-CIRCLE MEDIUM"),
    (0x1D98E, "Z0E HALF-CIRCLE LARGE,Z0E HALF-CIRCLE LARGEST,Z0E THREE-QUARTER CIRCLE SMALL"),
    (0x1D991, "Z0E THREE-QUARTER CIRCLE MEDIUM,V0HUMP SMALL,Z0 MEDIUM,Z0 LARGE,V0LOOP SMALL"),
    (0x1D996, "Z0 MEDIUM,Z0 LARGE,Z1 SMALL DOUBL,V0WAVE CURVE DOUBLE SMALL,Z0 CURVE DOUBLE MEDIUM"),
    (0x1D99B, "Z0 CURVE DOUBLE LARGE,Z0 CURVE TRIPLE SMALL,Z0 CURVE TRIPLE MEDIUM"),
    (0x1D99E, "Z0 CURVE TRIPLE LARGE,V0CURVE THEN STRAIGHT,Z0ED CROSS SMALL,Z0ED CROSS MEDIUM"),
    (0x1D9A2, "C0ROTATION-WALLPLANE SINGLE,V2DOUB,V1ALTERNAT,C0MOVEMENT-WALLPLANE SHAKING"),
    (0x1D9A6, "V0CURVE HITTING FRONT WALL,VJHUMP,VKLOO,VJWAVE,CKROTATION-WALLPLANE SINGL,VLDOUB"),
    (0x1D9AC, "VJALTERNATING,C0MOVEMENT-WALLPLANE CURVE HITTING CHEST,VEHUMP,VFLOO,VEWAVE"),
    (0x1D9B1, "CFROTATION-WALLPLANE SINGL,VGDOUB,VEALTERNATING"),
    (0x1D9B4, "C0MOVEMENT-WALLPLANE WAVE DIAGONAL PATH SMALL,Z0 DIAGONAL PATH MEDIUM"),
    (0x1D9B6, "Z0 DIAGONAL PATH LARGE,L0FLOORPLANE CURVE HITTING CEILING SMALL"),
    (0x1D9B8, "Z0VE HITTING CEILING LARGE,W1HUMP HITTING CEILING SMALL DOUBL"),
    (0x1D9BA, "Z7P HITTING CEILING LARGE,Z2P HITTING CEILING SMALL TRIP,Z7P HITTING CEILING LARGE"),
    (0x1D9BD, "W2LOOP HITTING CEILING SMALL SING,Z7P HITTING CEILING LARGE"),
    (0x1D9BF, "Z2P HITTING CEILING SMALL DOUB,Z7P HITTING CEILING LARGE"),
    (0x1D9C1, "W0WAVE HITTING CEILING SMALL,Z0E HITTING CEILING LARGE"),
    (0x1D9C3, "C0ROTATION-FLOORPLANE SINGLE HITTING CEILING,WIDOUB,WGALTERNATING"),
    (0x1D9C6, "C0MOVEMENT-FLOORPLANE CURVE HITTING FLOOR SMALL,Z0VE HITTING FLOOR LARGE"),
    (0x1D9C8, "W1HUMP HITTING FLOOR SMALL DOUBL,Z7P HITTING FLOOR LARGE"),
    (0x1D9CA, "Z2P HITTING FLOOR TRIPLE SMALL TRIP,Z7P HITTING FLOOR TRIPLE LARGE"),
    (0x1D9CC, "W2LOOP HITTING FLOOR SMALL SING,Z7P HITTING FLOOR LARGE"),
    (0x1D9CE, "Z2P HITTING FLOOR SMALL DOUB,Z7P HITTING FLOOR LARGE,W0WAVE HITTING FLOOR SMALL"),
    (0x1D9D1, "Z0E HITTING FLOOR LARGE,C0ROTATION-FLOORPLANE SINGLE HITTING FLOOR,WGDOUB"),
    (0x1D9D4, "WEALTERNATING,C0MOVEMENT-FLOORPLANE CURVE SMALL,Z0VE MEDIUM,Z0VE LARGE"),
    (0x1D9D8, "Z0VE LARGEST,Z0VE COMBINED,W0HUMP SMALL,W7LOO,W0WAVE SNAKE,Z0E SMALL,Z0E LARGE"),
    (0x1D9DF, "C1ROTATION-FLOORPLANE SINGL,W2DOUB,W0ALTERNATING"),
    (0x1D9E2, "C0MOVEMENT-FLOORPLANE SHAKING PARALLEL,L0WALLPLANE ARM CIRCLE SMALL SINGLE"),
    (0x1D9E4, "Z7CIRCLE MEDIUM,Z2CIRCLE SMALL DOUB,Z7CIRCLE MEDIUM"),
    (0x1D9E7, "L2FLOORPLANE ARM CIRCLE HITTING WALL SMALL SING,Z7 CIRCLE HITTING WALL MEDIUM"),
    (0x1D9E9, "Z7 CIRCLE HITTING WALL LARGE,Z2 CIRCLE HITTING WALL SMALL DOUB"),
    (0x1D9EB, "Z7 CIRCLE HITTING WALL MEDIUM,Z7 CIRCLE HITTING WALL LARGE"),
    (0x1D9ED, "L2WALLPLANE WRIST CIRCLE FRONT SING,Z2T CIRCLE FRONT DOUB"),
    (0x1D9EF, "L2FLOORPLANE WRIST CIRCLE HITTING WALL SING,Z2ST CIRCLE HITTING WALL DOUB"),
    (0x1D9F1, "L2WALLPLANE FINGER CIRCLES SING,Z2ER CIRCLES DOUB"),
    (0x1D9F3, "L2FLOORPLANE FINGER CIRCLES HITTING WALL SING,Z2GER CIRCLES HITTING WALL DOUB"),
    (0x1D9F5, "C0DYNAMIC ARROWHEAD SMALL,U0LARGE,K0FAST,K0SLOW,K0TENSE,K0RELAXED,K0SIMULTANEOUS"),
    (0x1D9FC, "W0 ALTERNATING,K0EVERY OTHER TIME,K0GRADUAL,C0HEAD,G0 RIM"),
    (0x1DA01, "H0MOVEMENT-WALLPLANE STRAIGHT,Z1 TIL,Q1FLOORPLANE STRAIGH,Q0WALLPLANE CURVE"),
    (0x1DA05, "QBFLOOR,P1 CIRCL,C0FACE DIRECTION POSITION NOSE FORWARD TILTING,Z0 NOSE UP OR DOWN"),
    (0x1DA09, "Z0 NOSE UP OR DOWN TILTING,C0EYEBROWS STRAIGHT UP,U0NEUTRAL,U0DOWN"),
    (0x1DA0D, "C5DREAMY EYEBROWS NEUTRAL,S0DOWN NEUTRAL,S8UP,S0NEUTRAL UP,C0FOREHEAD NEUTRAL"),
    (0x1DA12, "L0CONTACT,L0WRINKLED,C0EYES OPEN,H0SQUEEZED,H2CLOS,F0 BLINK SINGLE,M2MULTIP"),
    (0x1DA19, "F0S HALF OPEN,H5WIDE,H0HALF CLOSED,H0WIDENING MOVEMENT,F0 WINK,F0LASHES UP,M0DOWN"),
    (0x1DA20, "M0FLUTTERING,F0GAZE-WALLPLANE STRAIGHT,Z0GHT DOUBLE,Z0GHT ALTERNATING"),
    (0x1DA24, "K0FLOORPLANE STRAIGHT,Z0IGHT DOUBLE,Z0IGHT ALTERNATING,K0WALLPLANE CURVED,KCFLOOR"),
    (0x1DA29, "K0WALLPLANE CIRCLING,C0CHEEKS PUFFED,J0NEUTRAL,J0SUCKED,C0TENSE CHEEKS HIGH"),
    (0x1DA2E, "P0MIDDLE,P0LOW,C0EARS,C0NOSE NEUTRAL,H0CONTACT,H0WRINKLES,I3IGG,C0AIR BLOWING OUT"),
    (0x1DA36, "G0SUCKING IN,G0BLOW SMALL ROTATIONS,GGSUCK,C0BREATH INHALE,J4EX"),
    (0x1DA3B, "C0MOUTH CLOSED NEUTRAL,P0FORWARD,P0CONTACT,I0SMILE,N0 WRINKLED,O0OPEN,I1FROW"),
    (0x1DA42, "N0 WRINKLED,O0OPEN,I0OPEN CIRCLE,N0FORWARD,N1WRINKLE,N0OVAL,R0 WRINKLED,S0YAWN"),
    (0x1DA4A, "N0RECTANGLE,W0 WRINKLED,X0YAWN,I0KISS,M0 FORWARD,N1WRINKLE,I0TENSE,N0 FORWARD"),
    (0x1DA52, "O1SUCKE,C0LIPS PRESSED TOGETHER,F2 LOWER OVER UPP,G2UPPER OVER LOW,C0MOUTH CORNERS"),
    (0x1DA57, "I0WRINKLES SINGLE,R2DOUB,C0TONGUE STICKING OUT FAR,J0LICKING LIPS,J5TIP BETWEEN"),
    (0x1DA5C, "N0TOUCHING INSIDE MOUTH,J0INSIDE MOUTH RELAXED,J0MOVES AGAINST CHEEK"),
    (0x1DA5F, "J0CENTRE STICKING OUT,Q0INSIDE MOUTH,D2EE,H0 MOVEMENT,I0ON TONGUE,R0 MOVEMENT"),
    (0x1DA65, "L0LIPS,P0 MOVEMENT,I0BITE LIPS,C0MOVEMENT-WALLPLANE JAW,L9FLOOR,C0NECK,C0HAIR"),
    (0x1DA6C, "C0EXCITEMENT,C0SHOULDER HIP SPINE,P0POSITIONS,C0WALLPLANE SHOULDER HIP MOVE"),
    (0x1DA70, "CNFLOOR,C0SHOULDER TILTING FROM WAIST,C0TORSO-WALLPLANE STRAIGHT STRETCH"),
    (0x1DA73, "S0CURVED BEND,I0FLOORPLANE TWISTING,C0UPPER BODY TILTING FROM HIP JOINTS"),
    (0x1DA76, "C0LIMB COMBINATION,H0LENGTH-1,O02,O03,O04,O05,O06,O07,C0FINGER"),
    (0x1DA7F, "C0LOCATION-WALLPLANE SPACE,LBFLOOR,K0 HEIGHT,L0WIDTH,L2DEP,L0HEAD NECK,L0TORSO"),
    (0x1DA86, "L0LIMBS DIGITS,C0COMMA,C0FULL STOP,C0SEMICOLON,C5,C0PARENTHESIS")
  ]

/-- Names from U+1DA9B on, below U+1FA60. -/
def namesFrom1DA9B : List (Nat × String) :=
  [
    (0x1DA9B, "00SIGNWRITING FILL MODIFIER-2,Q03,Q04,Q05,Q06"),
    (0x1DAA1, "C0ROTATION MODIFIER-2,U03,U04,U05,U06,U07,U08,U09,U010,V01,V02,V03,V04,V05,V06"),
    (0x1DF00, "00LATIN SMALL LETTER FENG DIGRAPH WITH TRILL,J0REVERSED SCRIPT G"),
    (0x1DF02, "62LETTER SMALL CAPITAL TURNED,60SMALL LETTER REVERSED K"),
    (0x1DF04, "60LETTER SMALL CAPITAL L WITH BELT,60SMALL LETTER LEZH WITH RETROFLEX HOOK"),
    (0x1DF06, "J0TURNED Y WITH BELT,J0REVERSED ENG,J0TURNED R WITH LONG LEG AND RETROFLEX HOOK"),
    (0x1DF09, "KJ WITH HOOK,6FLETTER RETROFLEX CLICK WITH,60SMALL LETTER ESH WITH DOUBLE BAR"),
    (0x1DF0C, "Z0BAR AND CURL,J5TURNED T WITH,6ALETTER INVERTED GLOTTAL STOP,DASTRETCHED C"),
    (0x1DF10, "E0MALL CAPITAL TURNED K,61SMALL LETTER L WITH FISHHOO,J4DEZH DIGRAPH WITH PALATAL "),
    (0x1DF13, "JDL WITH BELT AND,JDENG WITH,JITURNED R,JDR WITH FISHHOOK AND,JDTESH DIGRAPH WITH"),
    (0x1DF18, "JJEZ,J5DEZH DIGRAPH WITH RETROFLEX,JFI WITH STROKE AND,JFO WITH,JKTESH DIGRAPH,JKC"),
    (0x1DF1E, "J0S WITH CURL"),
    (0x1E000, "00COMBINING GLAGOLITIC LETTER AZU,S0BUKY,S0VEDE,S0GLAGOLI,S0DOBRO,S0YESTU"),
    (0x1E006, "S0ZHIVETE"),
    (0x1E008, "T0EMLJA,S0IZHE,T5NITIAL,T0,S1DJERV,S0KAKO,S0LJUDIJE,S1MYSLIT,S0NASHI,S0ONU"),
    (0x1E012, "S0POKOJI,S1RITS,S0SLOVO,S1TVRID,S0UKU,S1FRIT,S1HER"),
    (0x1E01B, "S0SHTA,S0TSI,S1CHRIV,S0SHA,S0YERU,V0I,T1AT"),
    (0x1E023, "T0U,S0SMALL YUS"),
    (0x1E026, "S0YO,S0IOTATED SMALL YUS,S4BIG,S8IOTATED,S0FITA"),
    (0x1E100, "01NYIAKENG PUACHUE HMONG LETTER M,U1TS,U1NT,U2,U1H,U1N,U1X,U1NK,U1C,U1L,U1S,U1Z"),
    (0x1E10C, "U1NC,V1TS,U1K,U1D,U1NY,V1R,U1V,U1NTX,U3,U1F,U1R,U1Q,U1Y,U1NQ,U1P,U1XY,U1NP,U1DL"),
    (0x1E11E, "U2NP,U0HAH,U0MLA,U2P,U1G,U1RR,U1,V1,U0I,U0U,U0O,V1,U0E,V1,U0W"),
    (0x1E130, "N0TONE-B,S0M,S0J,S0V,S0S,S0G,S0D,N0SIGN FOR PERSON,W0THING,W0LOCATION,W0ANIMAL"),
    (0x1E13B, "W0INVERTEBRATE,S0XW XW,O0YLLABLE LENGTHENER"),
    (0x1E140, "N0DIGIT ZERO,T0ONE,T0TWO,U0HREE,T0FOUR,U0IVE,T0SIX,U0EVEN,T0EIGHT,T0NINE"),
    (0x1E14E, "N0LOGOGRAM NYAJ,N0CIRCLED CA"),
    (0x1E290, "01TOTO LETTER P,C1B,C1T,C1D,C1K,C1G,C1M,C1N,D1G,C1S,C1CH,C1Y,C1W,C1J,C1H,C1R,C1L"),
    (0x1E2A1, "C0I,C2BREATHY,C0IU,C3BREATHY,C1,C0E,C2BREATHY,C0EO,C3BREATHY,C1,C0AE,C3BREATHY,C0A"),
    (0x1E2AE, "50SIGN RISING TONE"),
    (0x1E2C0, "00WANCHO LETTER AA,F0,E1B,E1C,E1D,E1G,E1Y,E1PH,E1L,E1N,E1P,E1T,F1H,E1F,E1S,F1H,E1J"),
    (0x1E2D1, "E1Z,E1W,E1V,E1K,E0O,E0AU,E0RA,E1M,E1KH,E2,E0E,E0I,E0NGA,E0U,E0LLHA,E1TS,F1R,E0ONG"),
    (0x1E2E3, "E2AA,F2,E2I,E0ON,E1E,E1AA,E0NYA,E0UEN,E0YIH,70TONE TUP,F0NI,C1KO,F1N,70DIGIT ZERO"),
    (0x1E2F1, "D0ONE,D0TWO,E0HREE,D0FOUR,E0IVE,D0SIX,E0EVEN,D0EIGHT,D0NINE"),
    (0x1E2FF, "70NGUN SIGN"),
    (0x1E7E0, "00ETHIOPIC SYLLABLE HHYA,L0U,L0I,L0AA,L0EE,M0,L0O"),
    (0x1E7E8, "I0GURAGE HHWA,I0HHWI,L0EE,M0"),
    (0x1E7ED, "I0GURAGE MWI,R0EE"),
    (0x1E7F0, "P0QWI,R0EE,S0,P0BWI,R0EE,P0KWI,R0EE,S0,P0GWI,R0EE,S0,P0FWI,R0EE,P0PWI,R0EE"),
    (0x1E800, "00MENDE KIKAKUI SYLLABLE M001 KI,Q02 KA,Q03 KU,P065 KEE,P195 K,P076 KOO,P148 K"),
    (0x1E807, "O0179 KUA,O0004 WI,Q05 WA,Q06 WU,O0126 WEE,P118 W,Q04 WOO,O1045 W,O0194 WUI"),
    (0x1E810, "P143 WE,O1061 WV,P049 WVA,O0139 WVE,O0007 MIN,Q18 MA,Q19 MU,P159 ME,P194 MO"),
    (0x1E819, "O1154 MUA,P189 MUE,O0010 BI,Q01 BA,Q02 BU,O0150 BEE,O1097 B,O0103 BOO,P138 B"),
    (0x1E822, "O0013 I,Q04 A,Q05 U,O0163 EE,P100 ,P065 OO,P147 ,P037 EI,Q01 IN,Q35,P195 A,P178 E"),
    (0x1E82E, "O0019 SI,P020 SA,Q01 SU,O0162 SEE,P116 S,P036 SOO,O1079 S,O0196 SIA,O0025 LI"),
    (0x1E837, "Q06 LA,Q07 LU,P084 LEE,P173 L,P054 LOO,O1153 L,P010 LONG LE,O0016 DI,Q07 DA,Q08 DU"),
    (0x1E841, "P089 DEE,O0180 DOO,Q11 D,O0022 TI,Q03 TA,Q04 TU,P091 TEE,P155 T,O0104 TOO,O1069 T"),
    (0x1E84B, "P028 JI,Q09 JA,P030 JU,O0157 JEE,P113 J,P060 JOO,O1063 J,O3175 LONG,O0031 YI"),
    (0x1E854, "Q02 YA,Q03 YU,O0109 YEE,O1080 Y,O0141 YOO,P121 Y,O0034 FI,Q05 FA,Q06 FU,P078 FEE"),
    (0x1E85E, "Q15 F,O0133 FOO,O1088 F,O0197 FUA,P001 FAN,O1037 NI,Q18 NA,Q19 NU,O1117 NE,P169 NO"),
    (0x1E868, "P076 HI,O0041 HA,O0186 HU,O0040 HEE,P196 H,P042 HOO,O1140 H,O0083 HEEI,O0128 HOOU"),
    (0x1E871, "O0053 HIN,O1130 HA,O1087 HU,P152 HE,O1193 HO,O1046 HUA,P090 NGGI,P043 NGGA"),
    (0x1E879, "P082 NGGU,O0115 NGGEE,P146 NGG,P056 NGGOO,P120 NGG,P059 NGGAA,P127 NGGU"),
    (0x1E880, "O0086 LONG NGGE,O0106 LONG NGGOO,P183 LONG NGG,P055 GI,P011 GA,P068 GU,P090 GEE"),
    (0x1E887, "P066 GUEI,Q07 GUAN,P184 NGE,O1057 NGO,O1177 NGUA,O0068 PI,P099 PA,P050 PU,P081 PEE"),
    (0x1E890, "P151 P,O0102 POO,O1066 P,O0145 MBI,O0062 MBA,O0122 MBU,O0047 MBEE,O5188,O1072 MB"),
    (0x1E899, "O0172 MBOO,Q14 MB,P087 MBUU,P061 LONG MBE,P005 LONG MBOO,P142 LONG MB,P032 KPI"),
    (0x1E8A0, "O0092 KPA,P074 KPU,P044 KPEE,O1108 KP,P012 KPOO,P158 KP,P024 GBI,O0056 GBA"),
    (0x1E8A8, "O0148 GBU,O0093 GBEE,O1107 GB,O0071 GBOO,Q10 GB,O0171 RA,P023 NDI,Q09 NDA,Q05 NDU"),
    (0x1E8B1, "P091 NDEE,P119 ND,O0067 NDOO,Q14 ND,O0152 NJA,P092 NJU,P049 NJEE,P034 NJOO,P082 VI"),
    (0x1E8BA, "Q05 VA,P051 VU,P073 VEE,O1085 V,O0144 VOO,O1077 V,O0164 NYIN,O1058 NYA,O1170 NYU"),
    (0x1E8C3, "O1098 NYE,P160 NYO"),
    (0x1E8C7, "E0DIGIT ONE,K0TWO,L0HREE,K0FOUR,L0IVE,K0SIX,L0EVEN,K0EIGHT,K0NINE"),
    (0x1E8D0, "E0COMBINING NUMBER TEENS,X2,V1HUNDRED,V2THOUSAN,WAEN,VAHUNDRED,V1MILLION"),
    (0x1E900, "00ADLAM CAPITAL LETTER ALIF,L0DAALI,L0LAAM,L1MII,L0BA,L0SINNYIIYHE,L1P,L1BH,L0RA"),
    (0x1E909, "L0E,L0FA,L0I,L0O,L0DHA,L0YHE,L0WAW,L0NUN,L0KAF,L0YA,L0U,L0JIIM,L0CHI,L0HA,L0QAAF"),
    (0x1E918, "L0GA,L1NY,L0TU,L0NHA,L1V,L1KH,L0GBE,L0ZAL,L0KPO,L0SHA,60SMALL LETTER ALIF,J0DAALI"),
    (0x1E924, "J0LAAM,J1MII,J0BA,J0SINNYIIYHE,J1P,J1BH,J0RA,J0E,J0FA,J0I,J0O,J0DHA,J0YHE,J0WAW"),
    (0x1E932, "J0NUN,J0KAF,J0YA,J0U,J0JIIM,J0CHI,J0HA,J0QAAF,J0GA,J1NY,J0TU,J0NHA,J1V,J1KH,J0GBE"),
    (0x1E941, "J0ZAL,J0KPO,J0SHA,60ALIF LENGTHENER,6BVOWEL,60GEMINATION MARK,60HAMZA"),
    (0x1E948, "60CONSONANT MODIFIER,6JGEMINATE,60NUKTA,70ASALIZATION MARK"),
    (0x1E950, "60DIGIT ZERO,C0ONE,C0TWO,D0HREE,C0FOUR,D0IVE,C0SIX,D0EVEN,C0EIGHT,C0NINE"),
    (0x1E95E, "60INITIAL EXCLAMATION MARK,E9QUES"),
    (0x1EC71, "00INDIC SIYAQ NUMBER ONE,J0TWO,K0HREE,J0FOUR,K0IVE,J0SIX,K0EVEN,J0EIGHT,J0NINE"),
    (0x1EC7A, "J0TEN,K0WENTY,K2HIR,J3FO,K2IF,J2SIX,K2EVEN,J2EIGH,J2NINE,J0ONE HUNDRED,J8TWO"),
    (0x1EC85, "K8HREE,J8FOUR,K8IVE,J8SIX,K8EVEN,J8EIGHT,J8NINE,J1ONE THOUSAN,J9TWO,K9HREE,J9FOUR"),
    (0x1EC90, "K9IVE,J9SIX,K9EVEN,J9EIGHT,J9NINE,J9TEN,K9WENTY,KBHIR,JCFO,KBIF,JBSIX,KBEVEN"),
    (0x1EC9C, "JBEIGH,JBNINE,J0LAKH,N0AN,C0LAKH MARK,C0NUMBER KAROR,O0AN,J0PREFIXED ONE,S0TWO"),
    (0x1ECA5, "T0HREE,S0FOUR,T0IVE,S0SIX,T0EVEN,S0EIGHT,S0NINE,C0PLACEHOLDER,C2FRACTION ONE QUART"),
    (0x1ECAE, "P0HALF,L0THREE QUARTERS,C0RUPEE MARK,C0NUMBER ALTERNATE ONE,T0TWO,U0EN THOUSAND"),
    (0x1ECB4, "C0ALTERNATE LAKH MARK"),
    (0x1ED01, "00OTTOMAN SIYAQ NUMBER ONE,L0TWO,M0HREE,L0FOUR,M0IVE,L0SIX,M0EVEN,L0EIGHT,L0NINE"),
    (0x1ED0A, "L0TEN,M0WENTY,M2HIR,L3FO,M2IF,L2SIX,M2EVEN,L2EIGH,L2NINE,L0ONE HUNDRED,L8TWO"),
    (0x1ED15, "M8HREE,L8FOUR,M8IVE,L8SIX,M8EVEN,L8EIGHT,L8NINE,L1ONE THOUSAN,L9TWO,M9HREE,L9FOUR"),
    (0x1ED20, "M9IVE,L9SIX,M9EVEN,L9EIGHT,L9NINE,L9TEN,M9WENTY,MBHIR,LCFO,MBIF,LBSIX,MBEVEN"),
    (0x1ED2C, "LBEIGH,LBNINE,E0MARRATAN,E0ALTERNATE NUMBER TWO,W0HREE,V0FOUR,W0IVE,V0SIX,W0EVEN"),
    (0x1ED35, "V0EIGHT,V0NINE,V0TEN,V0FOUR HUNDRED,V8SIX,V1TWO THOUSAN,W9EN,E0FRACTION ONE HALF"),
    (0x1ED3D, "R0SIXTH"),
    (0x1EE00, "00ARABIC MATHEMATICAL ALEF,K0BEH,K0JEEM,K0DAL"),
    (0x1EE05, "K0WAW,K0ZAIN,K0HAH,K2T,K1YE,K0KAF,K0LAM,K1MEE,K0NOON,K1SEE,K1AI,K0FEH,K0SAD,K0QAF"),
    (0x1EE13, "K0REH,K0SHEEN,K0TEH,L2H,K1KHA,K0THAL,K0DAD,K0ZAH,K0GHAIN,K0DOTLESS BEH,S0NOON"),
    (0x1EE1E, "S0FEH,S0QAF"),
    (0x1EE21, "K0INITIAL BEH,S0JEEM"),
    (0x1EE24, "S0HEH"),
    (0x1EE27, "T1A"),
    (0x1EE29, "S1YE,S0KAF,S0LAM,S1MEE,S0NOON,S1SEE,S1AI,S0FEH,S0SAD,S0QAF"),
    (0x1EE34, "S0SHEEN,S0TEH,T2H,S1KHA"),
    (0x1EE39, "S0DAD"),
    (0x1EE3B, "S0GHAIN"),
    (0x1EE42, "K0TAILED JEEM"),
    (0x1EE47, "R0HAH"),
    (0x1EE49, "R1YE"),
    (0x1EE4B, "R0LAM"),
    (0x1EE4D, "R0NOON,R1SEE,R1AI"),
    (0x1EE51, "R0SAD,R0QAF"),
    (0x1EE54, "R0SHEEN"),
    (0x1EE57, "R0KHAH"),
    (0x1EE59, "R0DAD"),
    (0x1EE5B, "R0GHAIN"),
    (0x1EE5D, "R1DOTLESS NOO"),
    (0x1EE5F, "Z0QAF"),
    (0x1EE61, "K0STRETCHED BEH,U0JEEM"),
    (0x1EE64, "U0HEH"),
    (0x1EE67, "V1A,U2T,U1YE,U0KAF"),
    (0x1EE6C, "U0MEEM,U0NOON,U1SEE,U1AI,U0FEH,U0SAD,U0QAF"),
    (0x1EE74, "U0SHEEN,U0TEH,V2H,U1KHA"),
    (0x1EE79, "U0DAD,U0ZAH,U0GHAIN,U0DOTLESS BEH"),
    (0x1EE7E, "Z2SS F"),
    (0x1EE80, "K0LOOPED ALEF,R0BEH,R0JEEM,R0DAL,R0HEH,R0WAW,R0ZAIN,R0HAH,R2T,R1YE"),
    (0x1EE8B, "R0LAM,R1MEE,R0NOON,R1SEE,R1AI,R0FEH,R0SAD,R0QAF,R0REH,R0SHEEN,R0TEH,S2H,R1KHA"),
    (0x1EE98, "R0THAL,R0DAD,R0ZAH,R0GHAIN"),
    (0x1EEA1, "K0DOUBLE-STRUCK BEH,Y0JEEM,Y0DAL"),
    (0x1EEA5, "Y0WAW,Y0ZAIN,Y0HAH,Y2T,Y1YE"),
    (0x1EEAB, "Y0LAM,Y1MEE,Y0NOON,Y1SEE,Y1AI,Y0FEH,Y0SAD,Y0QAF,Y0REH,Y0SHEEN,Y0TEH,Z2H,Y1KHA"),
    (0x1EEB8, "Y0THAL,Y0DAD,Y0ZAH,Y0GHAIN"),
    (0x1EEF0, "K0OPERATOR MEEM WITH HAH WITH TATWEEL,T1HAH WITH DA"),
    (0x1F000, "00MAHJONG TILE EAST WIND,D5SOUTH,D5WEST,D5NORTH,D0RED DRAGON,D7GREEN,D7WHITE"),
    (0x1F007, "D0ONE OF CHARACTERS,DETWO,EEHREE,DEFOUR,EEIVE,DESIX,EEEVEN,DEEIGHT,DENINE"),
    (0x1F010, "D1ONE OF BAMBOO,DBTWO,EBHREE,DBFOUR,EBIVE,DBSIX,EBEVEN,DBEIGHT,DBNINE"),
    (0x1F019, "D1ONE OF CIRCLE,DBTWO,EBHREE,DBFOUR,EBIVE,DBSIX,EBEVEN,DBEIGHT,DBNINE,D0PLUM"),
    (0x1F023, "D0ORCHID,D0BAMBOO,D0CHRYSANTHEMUM,D0SPRING,E0UMMER,D0AUTUMN,D0WINTER,D2JOK,D0BACK"),
    (0x1F030, "05DOMINO TILE HORIZONTAL,M0-00-00,R01,R02,R03,R04,R05,R06,O01-00,R01,R02,R03,R04"),
    (0x1F03D, "R05,R06,O02-00,R01,R02,R03,R04,R05,R06,O03-00,R01,R02,R03,R04,R05,R06,O04-00,R01"),
    (0x1F04F, "R02,R03,R04,R05,R06,O05-00,R01,R02,R03,R04,R05,R06,O06-00,R01,R02,R03,R04,R05,R06"),
    (0x1F062, "C0VERTICAL BACK,K0-00-00,P01,P02,P03,P04,P05,P06,M01-00,P01,P02,P03,P04,P05,P06"),
    (0x1F071, "M02-00,P01,P02,P03,P04,P05,P06,M03-00,P01,P02,P03,P04,P05,P06,M04-00,P01,P02,P03"),
    (0x1F083, "P04,P05,P06,M05-00,P01,P02,P03,P04,P05,P06,M06-00,P01,P02,P03,P04,P05,P06"),
    (0x1F0A0, "00PLAYING CARD BACK,D0ACE OF SPADES,DATWO,EAHREE,DAFOUR,EAIVE,DASIX,EAEVEN,DAEIGHT"),
    (0x1F0A9, "DANINE,DATEN,DAJACK,DAKNIGHT,DAQUEEN,DAKING"),
    (0x1F0B1, "D1ACE OF HEART,DATWO,EAHREE,DAFOUR,EAIVE,DASIX,EAEVEN,DAEIGHT,DANINE,DATEN,DAJACK"),
    (0x1F0BC, "DAKNIGHT,DAQUEEN,DAKING,D0RED JOKER"),
    (0x1F0C1, "D0ACE OF DIAMONDS,DCTWO,ECHREE,DCFOUR,ECIVE,DCSIX,ECEVEN,DCEIGHT,DCNINE,DCTEN"),
    (0x1F0CB, "DCJACK,DCKNIGHT,DCQUEEN,DCKING,D0BLACK JOKER"),
    (0x1F0D1, "D0ACE OF CLUBS,D9TWO,E9HREE,D9FOUR,E9IVE,D9SIX,E9EVEN,D9EIGHT,D9NINE,D9TEN,D9JACK"),
    (0x1F0DC, "D9KNIGHT,D9QUEEN,D9KING,D0WHITE JOKER,D0FOOL,D0TRUMP-1,J02,J03,J04,J05,J06,J07,J08"),
    (0x1F0E9, "J09,J010,K01,K02,K03,K04,K05,K06,K07,K08,K09,J020,K01"),
    (0x1F100, "00DIGIT ZERO FULL STOP,B0COMMA,66ONE,66TWO,76HREE,66FOUR,76IVE,66SIX,76EVEN"),
    (0x1F109, "66EIGHT,66NINE,20NGBAT CIRCLED SANS-SERIF DIGIT ZERO,8UNEGATIVE"),
    (0x1F10D, "00CIRCLED ZERO WITH SLASH,80ANTICLOCKWISE ARROW"),
    (0x1F10F, "80DOLLAR SIGN WITH OVERLAID BACKSLASH,00PARENTHESIZED LATIN CAPITAL LETTER A,Z0B"),
    (0x1F112, "Z0C,Z0D,Z0E,Z0F,Z0G,Z0H,Z0I,Z0J,Z0K,Z0L,Z0M,Z0N,Z0O,Z0P,Z0Q,Z0R,Z0S,Z0T,Z0U,Z0V"),
    (0x1F126, "Z0W,Z0X,Z0Y,Z0Z,00TORTOISE SHELL BRACKETED LATIN CAPITAL LETTER S"),
    (0x1F12B, "00CIRCLED ITALIC LATIN CAPITAL LETTER C,Z0 R,80CD,80WZ,10OPYLEFT SYMBOL"),
    (0x1F130, "00SQUARED LATIN CAPITAL LETTER A,T0B,T0C,T0D,T0E,T0F,T0G,T0H,T0I,T0J,T0K,T0L,T0M"),
    (0x1F13D, "T0N,T0O,T0P,T0Q,T0R,T0S,T0T,T0U,T0V,T0W,T0X,T0Y,T0Z,80HV,81M,80SD,90S,80PPV,80WC"),
    (0x1F150, "00NEGATIVE CIRCLED LATIN CAPITAL LETTER A,Z0ER B,Z0ER C,Z0ER D,Z0ER E,Z0ER F"),
    (0x1F156, "Z0ER G,Z0ER H,Z0ER I,Z0ER J,Z0ER K,Z0ER L,Z0ER M,Z0ER N,Z0ER O,Z0ER P,Z0ER Q"),
    (0x1F161, "Z0ER R,Z0ER S,Z0ER T,Z0ER U,Z0ER V,Z0ER W,Z0ER X,Z0ER Y,Z0ER Z,00RAISED MC SIGN"),
    (0x1F16B, "85D,85R,00CIRCLED CC,90 WITH OVERLAID BACKSLASH,80HUMAN FIGURE"),
    (0x1F170, "00NEGATIVE SQUARED LATIN CAPITAL LETTER A,Z0ER B,Z0ER C,Z0ER D,Z0ER E,Z0ER F"),
    (0x1F176, "Z0ER G,Z0ER H,Z0ER I,Z0ER J,Z0ER K,Z0ER L,Z0ER M,Z0ER N,Z0ER O,Z0ER P,Z0ER Q"),
    (0x1F181, "Z0ER R,Z0ER S,Z0ER T,Z0ER U,Z0ER V,Z0ER W,Z0ER X,Z0ER Y,Z0ER Z"),
    (0x1F18A, "00CROSSED NEGATIVE SQUARED LATIN CAPITAL LETTER P,00NEGATIVE SQUARED IC,H0PA,H1S"),
    (0x1F18E, "H0AB,H0WC,00SQUARE DJ,60D CL,91OO,80FREE,80ID,80NEW,90G,80OK,80SOS"),
    (0x1F199, "80UP WITH EXCLAMATION MARK,80VS,80THREE D,80SECOND SCREEN,80TWO K,82FOUR,82EIGHT"),
    (0x1F1A0, "80FIVE POINT ONE,8ASEVEN,80TWENTY-TWO POINT TWO,80SIXTY P,84ONE HUNDRED TWEN"),
    (0x1F1A5, "80LATIN SMALL LETTER D,80HC,90DR,90I-RES,81LOSSLES,80SHV,80UHD,81VO"),
    (0x1F1AD, "00MASK WORK SYMBOL"),
    (0x1F1E6, "00REGIONAL INDICATOR SYMBOL LETTER A,X0B,X0C,X0D,X0E,X0F,X0G,X0H,X0I,X0J,X0K,X0L"),
    (0x1F1F2, "X0M,X0N,X0O,X0P,X0Q,X0R,X0S,X0T,X0U,X0V,X0W,X0X,X0Y,X0Z,00SQUARE HIRAGANA HOKA"),
    (0x1F201, "60D KATAKANA KOKO,H0SA"),
    (0x1F210, "80CJK UNIFIED IDEOGRAPH-624B,U05B57,V03CC,80KATAKANA DE"),
    (0x1F214, "80CJK UNIFIED IDEOGRAPH-4E8C,U0591A,U089E3,U05929,U04EA4,U06620,U07121,U06599"),
    (0x1F21C, "U0524D,V0F8C,V018D,U065B0,U0521D,U07D42,V051F,U08CA9,U058F0,V0439,U06F14,V0295"),
    (0x1F228, "V135,U04E00,X09,U0904A,U05DE6,U04E2D,U053F3,U06307,U08D70,U06253,U07981,V0A7A"),
    (0x1F234, "U05408,U06E80,V0709,X08,U07533,U05272,V05B6,U0914D"),
    (0x1F240, "00TORTOISE SHELL BRACKETED CJK UNIFIED IDEOGRAPH-672C,Z0D IDEOGRAPH-4E09"),
    (0x1F242, "Z0D IDEOGRAPH-4E8C,Z0D IDEOGRAPH-5B89,Z1D IDEOGRAPH-70B,Z0D IDEOGRAPH-6253"),
    (0x1F246, "Z0D IDEOGRAPH-76D7,Z0D IDEOGRAPH-52DD,Z0D IDEOGRAPH-6557"),
    (0x1F250, "00CIRCLED IDEOGRAPH ADVANTAGE,J0CCEPT"),
    (0x1F260, "00ROUNDED SYMBOL FOR FU,J1L,J1SHO,J0XI,J2SHUANG,J1CA"),
    (0x1F300, "00CYCLONE,00FOGGY,00CLOSED UMBRELLA,00NIGHT WITH STARS,01SUNRISE OVER MOUNTAIN,70"),
    (0x1F306, "00CITYSCAPE AT DUSK,00SUNSET OVER BUILDINGS,00RAINBOW,00BRIDGE AT NIGHT"),
    (0x1F30A, "00WATER WAVE,00VOLCANO,00MILKY WAY,00EARTH GLOBE EUROPE-AFRICA,C0AMERICAS"),
    (0x1F30F, "D0SIA-AUSTRALIA,00GLOBE WITH MERIDIANS,00NEW MOON SYMBOL,0CWAXING CRESCENT"),
    (0x1F313, "0CFIRST QUARTER,0CWAXING GIBBOUS,0CFULL,0CWANING GIBBOUS,0CLAST QUARTER"),
    (0x1F318, "0CWANING CRESCENT,00CRESCENT MOON,00NEW MOON WITH FACE,0FFIRST QUARTER,0PLA,0FFULL"),
    (0x1F31E, "0BSU,00GLOWING STAR,08SHOOT,01THERMOMETE,00BLACK DROPLET,00WHITE SUN"),
    (0x1F324, "90 WITH SMALL CLOUD,A6BEHIND,M0 WITH RAIN,0F,B0SNOW,B0LIGHTNING,B0TORNADO,00FOG"),
    (0x1F32C, "00WIND BLOWING FACE,00HOT DOG,00TACO,01BURRIT,00CHESTNUT,00SEEDLING"),
    (0x1F332, "00EVERGREEN TREE,05DECIDUOUS,05PALM,00CACTUS,00HOT PEPPER,00TULIP,00CHERRY BLOSSOM"),
    (0x1F339, "00ROSE,00HIBISCUS,00SUNFLOWER,00BLOSSOM,00EAR OF MAIZE,71RIC,00HERB"),
    (0x1F340, "00FOUR LEAF CLOVER,00MAPLE LEAF,05FALLEN,00LEAF FLUTTERING IN WIND,00MUSHROOM"),
    (0x1F345, "00TOMATO,00AUBERGINE,00GRAPES,00MELON,05WATER,00TANGERINE,00LEMON,00BANANA"),
    (0x1F34D, "00PINEAPPLE,05RED ,06GREEN,00PEAR,30CH,00CHERRIES,00STRAWBERRY,00HAMBURGER"),
    (0x1F355, "00SLICE OF PIZZA,00MEAT ON BONE,00POULTRY LEG,00RICE CRACKER,50BALL,00COOKED RICE"),
    (0x1F35B, "16URRY AN,00STEAMING BOWL,10PAGHETTI,00BREAD,00FRENCH FRIES,00ROASTED SWEET POTATO"),
    (0x1F361, "01DANG,00ODEN,00SUSHI,00FRIED SHRIMP,10ISH CAKE WITH SWIRL DESIGN,00SOFT ICE CREAM"),
    (0x1F367, "10HAVED ICE,00ICE CREAM,00DOUGHNUT,00COOKIE,10HOCOLATE BAR,10ANDY,00LOLLIPOP"),
    (0x1F36E, "00CUSTARD,00HONEY POT,00SHORTCAKE,00BENTO BOX,00POT OF FOOD,00COOKING"),
    (0x1F374, "00FORK AND KNIFE,01TEACUP WITHOUT HANDL,00SAKE BOTTLE AND CUP,00WINE GLASS"),
    (0x1F378, "06COCKTAIL,00TROPICAL DRINK,00BEER MUG,00CLINKING BEER MUGS,00BABY BOTTLE"),
    (0x1F37D, "01FORK AND KNIFE WITH PLAT,00BOTTLE WITH POPPING CORK,00POPCORN,01RIBBO"),
    (0x1F381, "00WRAPPED PRESENT,00BIRTHDAY CAKE,00JACK-O-LANTERN,00CHRISTMAS TREE"),
    (0x1F385, "00FATHER CHRISTMAS,11IREWORK,80 SPARKLER,00BALLOON,00PARTY POPPER,00CONFETTI BALL"),
    (0x1F38B, "00TANABATA TREE,00CROSSED FLAGS,00PINE DECORATION,00JAPANESE DOLLS,00CARP STREAMER"),
    (0x1F390, "00WIND CHIME,00MOON VIEWING CEREMONY,00SCHOOL SATCHEL,00GRADUATION CAP"),
    (0x1F394, "00HEART WITH TIP ON THE LEFT,00BOUQUET OF FLOWERS,00MILITARY MEDAL"),
    (0x1F397, "00REMINDER RIBBON,00MUSICAL KEYBOARD WITH JACKS,00STUDIO MICROPHONE,00LEVEL SLIDER"),
    (0x1F39B, "00CONTROL KNOBS,01BEAMED ASCENDING MUSICAL NOTE,7MDE,02FILM FRAM"),
    (0x1F39F, "01ADMISSION TICKET,00CAROUSEL HORSE,00FERRIS WHEEL,00ROLLER COASTER"),
    (0x1F3A3, "00FISHING POLE AND FISH,00MICROPHONE,10OVIE CAMERA,01CINEM,00HEADPHONE"),
    (0x1F3A8, "01ARTIST PALETT,00TOP HAT,01CIRCUS TEN,01TICKE,00CLAPPER BOARD,00PERFORMING ARTS"),
    (0x1F3AE, "00VIDEO GAME,00DIRECT HIT,00SLOT MACHINE,00BILLIARDS,00GAME DIE,00BOWLING"),
    (0x1F3B4, "00FLOWER PLAYING CARDS,00MUSICAL NOTE,20LTIPLE MUSICAL NOTES,00SAXOPHONE,00GUITAR"),
    (0x1F3B9, "00MUSICAL KEYBOARD,00TRUMPET,00VIOLIN,00MUSICAL SCORE,00RUNNING SHIRT WITH SASH"),
    (0x1F3BE, "00TENNIS RACQUET AND BALL,00SKI AND SKI BOOT,00BASKETBALL AND HOOP"),
    (0x1F3C1, "00CHEQUERED FLAG,00SNOWBOARDER,02RUNN,02SURF,10PORTS MEDAL,00TROPHY,00HORSE RACING"),
    (0x1F3C8, "00AMERICAN FOOTBALL,09RUGBY,00SWIMMER,02WEIGHT LIFT,02GOLF,00RACING MOTORCYCLE"),
    (0x1F3CE, "70CAR,00CRICKET BAT AND BALL,04VOLLEY,04FIELD HOCKEY STICK AND "),
    (0x1F3D2, "00ICE HOCKEY STICK AND PUCK,00TABLE TENNIS PADDLE AND BALL,00SNOW CAPPED MOUNTAIN"),
    (0x1F3D5, "00CAMPING,00BEACH WITH UMBRELLA,10UILDING CONSTRUCTION,00HOUSE BUILDINGS"),
    (0x1F3D9, "00CITYSCAPE,00DERELICT HOUSE BUILDING,09CLASSICAL,00DESERT,60 ISLAND"),
    (0x1F3DE, "00NATIONAL PARK,00STADIUM,00HOUSE BUILDING,60WITH GARDEN,00OFFICE BUILDING"),
    (0x1F3E3, "00JAPANESE POST OFFICE,0CEUROPEAN,00HOSPITAL,00BANK,00AUTOMATED TELLER MACHINE"),
    (0x1F3E8, "00HOTEL,05LOVE ,00CONVENIENCE STORE,00SCHOOL,00DEPARTMENT STORE,00FACTORY"),
    (0x1F3EE, "00IZAKAYA LANTERN,00JAPANESE CASTLE,07EUROPEAN,00WHITE PENNANT,08BLACK"),
    (0x1F3F3, "00WAVING WHITE FLAG,75BLACK,00ROSETTE,07BLACK ,00LABEL"),
    (0x1F3F8, "00BADMINTON RACQUET AND SHUTTLECOCK,10OW AND ARROW,00AMPHORA"),
    (0x1F3FB, "00EMOJI MODIFIER FITZPATRICK TYPE-1-2,W03,W04,W05,W06,00RAT,00MOUSE,00OX"),
    (0x1F403, "00WATER BUFFALO,00COW,00TIGER,00LEOPARD,00RABBIT,01CA,00DRAGON,00CROCODILE,02WHA"),
    (0x1F40C, "00SNAIL,30KE,01HORS,00RAM,00GOAT,00SHEEP,00MONKEY,00ROOSTER,00CHICKEN,00DOG,01PI"),
    (0x1F417, "00BOAR,00ELEPHANT,00OCTOPUS,00SPIRAL SHELL,00BUG,00ANT,00HONEYBEE,01LADY BEETL"),
    (0x1F41F, "00FISH,04TROPICAL ,04BLOW,00TURTLE,00HATCHING CHICK,06BABY,0AFRONT-FACING ,00BIRD"),
    (0x1F427, "00PENGUIN,00KOALA,00POODLE,00DROMEDARY CAMEL,06BACTRIAN,00DOLPHIN,00MOUSE FACE"),
    (0x1F42E, "05COW,05TIGER,05RABBIT,06CA,05DRAGON,01SPOUTING WHAL,01HORSE FAC,05MONKEY,05DOG"),
    (0x1F437, "06PI,06FRO,05HAMSTER,05WOLF,05BEAR,05PANDA,11IG NOS,10AW PRINTS,00CHIPMUNK,00EYES"),
    (0x1F441, "30,10AR,00NOSE,00MOUTH,00TONGUE,00WHITE UP POINTING BACKHAND INDEX,6ODOWN,6OLEFT"),
    (0x1F449, "6PRIGH,00FISTED HAND SIGN,0AWAVING,0AOK,05THUMBS UP,75DOWN,05CLAPPING HANDS,0BOPEN"),
    (0x1F451, "01CROW,00WOMANS HAT,00EYEGLASSES,00NECKTIE,00T-SHIRT,00JEANS,01DRES,00KIMONO"),
    (0x1F459, "00BIKINI,00WOMANS CLOTHES,00PURSE,00HANDBAG,00POUCH,00MANS SHOE,05ATHLETIC"),
    (0x1F460, "05HIGH-HEELED,00WOMANS SANDAL,70BOOTS,02FOOTPRIN,00BUST IN SILHOUETTE,4ES,10OY"),
    (0x1F467, "00GIRL,00MAN,03WO,00FAMILY,00MAN AND WOMAN HOLDING HANDS,0FTWO ME,4HWO"),
    (0x1F46E, "00POLICE OFFICER,00WOMAN WITH BUNNY EARS,00BRIDE WITH VEIL"),
    (0x1F471, "00PERSON WITH BLOND HAIR,00MAN WITH GUA PI MAO,90TURBAN,02OLDER M,63WO,00BABY"),
    (0x1F477, "00CONSTRUCTION WORKER,00PRINCESS,00JAPANESE OGRE,90GOBLIN,00GHOST,00BABY ANGEL"),
    (0x1F47D, "00EXTRATERRESTRIAL ALIEN,00ALIEN MONSTER,00IMP,00SKULL,00INFORMATION DESK PERSON"),
    (0x1F482, "01GUARDSMA,00DANCER,00LIPSTICK,00NAIL POLISH,00FACE MASSAGE,00HAIRCUT"),
    (0x1F488, "00BARBER POLE,01SYRING,00PILL,00KISS MARK,00LOVE LETTER,00RING,00GEM STONE,00KISS"),
    (0x1F490, "00BOUQUET,01COUPLE WITH HEAR,00WEDDING,00BEATING HEART,16ROKEN,00TWO HEARTS"),
    (0x1F496, "00SPARKLING HEART,09GROW,00HEART WITH ARROW,00BLUE HEART,06GREEN,06YELLOW,06PURPLE"),
    (0x1F49D, "00HEART WITH RIBBON,00REVOLVING HEARTS,00HEART DECORATION"),
    (0x1F4A0, "00DIAMOND SHAPE WITH A DOT INSIDE,00ELECTRIC LIGHT BULB,00ANGER SYMBOL,00BOMB"),
    (0x1F4A4, "00SLEEPING SYMBOL,07COLLISION,07SPLASHING SWEAT,00DROPLET,10ASH SYMBOL"),
    (0x1F4A9, "00PILE OF POO,00FLEXED BICEPS,00DIZZY SYMBOL,00SPEECH BALLOON,08THOUGHT"),
    (0x1F4AE, "00WHITE FLOWER,00HUNDRED POINTS SYMBOL,00MONEY BAG,00CURRENCY EXCHANGE"),
    (0x1F4B2, "00HEAVY DOLLAR SIGN,00CREDIT CARD,00BANKNOTE WITH YEN SIGN,E5DOLLAR,E5EURO,E5POUND"),
    (0x1F4B8, "00MONEY WITH WINGS,00CHART WITH UPWARDS TREND AND YEN SIGN,00SEAT"),
    (0x1F4BB, "00PERSONAL COMPUTER,00BRIEFCASE,00MINIDISC,00FLOPPY DISK,00OPTICAL DISC,00DVD"),
    (0x1F4C1, "00FILE FOLDER,0BOPEN ,00PAGE WITH CURL,50FACING UP,00CALENDAR,08TEAR-OFF "),
    (0x1F4C7, "00CARD INDEX,10HART WITH UPWARDS TREND,BBDOWN,00BAR CHART,00CLIPBOARD,00PUSHPIN"),
    (0x1F4CD, "07ROUND ,00PAPERCLIP,00STRAIGHT RULER,06TRIANGULAR,00BOOKMARK TABS,00LEDGER"),
    (0x1F4D3, "00NOTEBOOK,80 WITH DECORATIVE COVER,00CLOSED BOOK,05OPEN,07GRE,05BLUE,06ORANG"),
    (0x1F4DA, "00BOOKS,00NAME BADGE,00SCROLL,00MEMO,00TELEPHONE RECEIVER,02PAG,00FAX MACHINE"),
    (0x1F4E1, "00SATELLITE ANTENNA,00PUBLIC ADDRESS LOUDSPEAKER,00CHEERING MEGAPHONE"),
    (0x1F4E4, "00OUTBOX TRAY,08IN,00PACKAGE,00E-MAIL SYMBOL,00INCOMING ENVELOPE"),
    (0x1F4E9, "01ENVELOPE WITH DOWNWARDS ARROW ABOV,00CLOSED MAILBOX WITH LOWERED FLAG,K7RAIS"),
    (0x1F4EC, "0POPEN,I7LOWER,00POSTBOX,40AL HORN,00NEWSPAPER,00MOBILE PHONE"),
    (0x1F4F2, "C0 WITH RIGHTWARDS ARROW AT LEFT,00VIBRATION MODE,00MOBILE PHONE OFF"),
    (0x1F4F5, "00NO MOBILE PHONES,01ANTENNA WITH BAR,00CAMERA,60 WITH FLASH,00VIDEO CAMERA"),
    (0x1F4FA, "00TELEVISION,00RADIO,00VIDEOCASSETTE,00FILM PROJECTOR,00PORTABLE STEREO"),
    (0x1F4FF, "10RAYER BEADS,01TWISTED RIGHTWARDS ARROW"),
    (0x1F501, "07CLOCKWISE RIGHTWARDS AND LEFTWARDS OPEN CIRCLE"),
    (0x1F502, "Z0OPEN CIRCLE ARROWS WITH CIRCLED ONE OVERLAY"),
    (0x1F503, "A0DOWNWARDS AND UPWARDS OPEN CIRCLE ARROWS,0ZANTICLOCKWISE DOWNW"),
    (0x1F505, "00LOW BRIGHTNESS SYMBOL,0IHIGH,00SPEAKER WITH CANCELLATION STROKE,70"),
    (0x1F509, "70 WITH ONE SOUND WAVE,D0THREE SOUND WAVES,00BATTERY,00ELECTRIC PLUG"),
    (0x1F50D, "00LEFT-POINTING MAGNIFYING GLASS,0RRIGH,00LOCK WITH INK PEN,00CLOSED LOCK WITH KEY"),
    (0x1F511, "03,00LOCK,04OPEN ,00BELL,40 WITH CANCELLATION STROKE,10OOKMARK,00LINK SYMBOL"),
    (0x1F518, "00RADIO BUTTON,00BACK WITH LEFTWARDS ARROW ABOVE,0REND"),
    (0x1F51B, "0CON WITH EXCLAMATION MARK WITH LEFT RIGHT,0CSOON WITH RIGHTWARDS,0HTOP WITH UP"),
    (0x1F51E, "00NO ONE UNDER EIGHTEEN SYMBOL,00KEYCAP TEN"),
    (0x1F520, "00INPUT SYMBOL FOR LATIN CAPITAL LETTERS,N9SMAL,H3NUMB,H1SYMBOL,H1LATIN LETTER"),
    (0x1F525, "00FIRE,00ELECTRIC TORCH,02WREN,00HAMMER,00NUT AND BOLT,00HOCHO,00PISTOL"),
    (0x1F52C, "00MICROSCOPE,05TELE,00CRYSTAL BALL,00SIX POINTED STAR WITH MIDDLE DOT"),
    (0x1F530, "00JAPANESE SYMBOL FOR BEGINNER,00TRIDENT EMBLEM,00BLACK SQUARE BUTTON,0EWHITE"),
    (0x1F534, "00LARGE RED CIRCLE,67BLUE,60ORANGE DIAMOND,69BLU,09SMALL ORANG,69BLU"),
    (0x1F53A, "00UP-POINTING RED TRIANGLE,0MDOWN,0DUP-POINTING SMALL,0SDOWN"),
    (0x1F53E, "02LOWER RIGHT SHADOWED WHITE CIRC,0UUPP,01CIRCLED CROSS POMME"),
    (0x1F541, "10ROSS POMMEE WITH HALF-CIRCLE BELOW,C0,00NOTCHED LEFT SEMICIRCLE WITH THREE DOTS"),
    (0x1F544, "8SRIGH,00SYMBOL FOR MARKS CHAPTER,00WHITE LATIN CROSS,0CHEAVY,06CELTIC,00OM SYMBOL"),
    (0x1F54A, "00DOVE OF PEACE,00KAABA,00MOSQUE,02SYNAGOG,00MENORAH WITH NINE BRANCHES"),
    (0x1F54F, "00BOWL OF HYGIEIA,00CLOCK FACE ONE OCLOCK,B7TWO,C7HREE,B7FOUR,C7IVE,B7SIX,C7EVEN"),
    (0x1F557, "B7EIGHT,B7NINE,B7TEN,B9ELEV,B7TWELVE,B0ONE-THIRTY,B7TWO,C7HREE,B7FOUR,C7IVE,B7SIX"),
    (0x1F562, "C7EVEN,B7EIGHT,B7NINE,B7TEN,B9ELEV,B7TWELVE,00RIGHT SPEAKER,D0 WITH ONE SOUND WAVE"),
    (0x1F56A, "J0THREE SOUND WAVES,00BULLHORN,80 WITH SOUND WAVES,00RINGING BELL,00BOOK,00CANDLE"),
    (0x1F570, "00MANTELPIECE CLOCK,00BLACK SKULL AND CROSSBONES,00NO PIRACY,00HOLE"),
    (0x1F574, "00MAN IN BUSINESS SUIT LEVITATING,00SLEUTH OR SPY,00DARK SUNGLASSES,00SPIDER"),
    (0x1F578, "60 WEB,00JOYSTICK,00MAN DANCING,00LEFT HAND TELEPHONE RECEIVER"),
    (0x1F57C, "00TELEPHONE RECEIVER WITH PAGE,00RIGHT HAND TELEPHONE RECEIVER"),
    (0x1F57E, "00WHITE TOUCHTONE TELEPHONE,0KBLACK,00TELEPHONE ON TOP OF MODEM"),
    (0x1F581, "00CLAMSHELL MOBILE PHONE,01BACK OF ENVELOP,09STAMPED,00ENVELOPE WITH LIGHTNING"),
    (0x1F585, "00FLYING ENVELOPE,09PEN OVER STAMPED,00LINKED PAPERCLIPS,00BLACK PUSHPIN"),
    (0x1F589, "00LOWER LEFT PENCIL,B0BALLPOINT PEN,B4FOUNTAIN,B0PAINTBRUSH,B0CRAYON"),
    (0x1F58E, "10EFT WRITING HAND,00TURNED OK HAND SIGN,00RAISED HAND WITH FINGERS SPLAYED"),
    (0x1F591, "1WEVERSED ,90THUMBS UP SIGN,G5DOWN,90VICTORY HAND"),
    (0x1F595, "91HAND WITH MIDDLE FINGER EXTENDE"),
    (0x1F596, "10AISED HAND WITH PART BETWEEN MIDDLE AND RING FINGERS"),
    (0x1F597, "00WHITE DOWN POINTING LEFT HAND INDEX,06SIDEWAYS WHITE LEFT POINTING,FGRIGH"),
    (0x1F59A, "9GBLACK LEF,FGRIGH,06BLACK LEFT POINTING BACKHAND,6PRIGH"),
    (0x1F59E, "06SIDEWAYS WHITE UP POINTING,FFDOWN,9FBLACK UP,FFDOWN,06BLACK UP POINTING BACKHAND"),
    (0x1F5A3, "6ODOWN,60HEART,00DESKTOP COMPUTER,00KEYBOARD AND MOUSE,00THREE NETWORKED COMPUTERS"),
    (0x1F5A8, "00PRINTER,11OCKET CALCULATO,00BLACK HARD SHELL FLOPPY DISK,0NWHITE,0ISOFT"),
    (0x1F5AD, "00TAPE CARTRIDGE,00WIRED KEYBOARD,00ONE BUTTON MOUSE,0DTWO,1DHREE,10RACKBALL"),
    (0x1F5B3, "00OLD PERSONAL COMPUTER,00HARD DISK,00SCREEN,01PRINTER ICO,05FAX,05OPTICAL DISC"),
    (0x1F5B9, "00DOCUMENT WITH TEXT,I0 AND PICTURE,E7,0DFRAME,B0TILES,B0AN X,00BLACK FOLDER,06"),
    (0x1F5C1, "06OPEN ,00CARD INDEX DIVIDERS,50FILE BOX,00FILE CABINET,00EMPTY NOTE,A1 PAG,D0D"),
    (0x1F5C8, "00NOTE,41 PAG,70D,00EMPTY DOCUMENT,60PAGE,A0S,00DOCUMENT,00PAGE,40S,00WASTEBASKET"),
    (0x1F5D2, "00SPIRAL NOTE PAD,74CALENDAR,00DESKTOP WINDOW,00MINIMIZE,15AX,00OVERLAP"),
    (0x1F5D8, "00CLOCKWISE RIGHT AND LEFT SEMICIRCLE ARROWS,10ANCELLATION X"),
    (0x1F5DA, "00INCREASE FONT SIZE SYMBOL,0NDE,00COMPRESSION,00OLD KEY,00ROLLED-UP NEWSPAPER"),
    (0x1F5DF, "00PAGE WITH CIRCLED TEXT,01STOCK CHAR,00DAGGER KNIFE,00LIPS"),
    (0x1F5E3, "00SPEAKING HEAD IN SILHOUETTE,01THREE RAYS ABOV,B0BELOW,B0LEFT,B1RIGH"),
    (0x1F5E8, "00LEFT SPEECH BUBBLE,0FRIGH,00TWO SPEECH BUBBLES,1FHREE,00LEFT THOUGHT BUBBLE"),
    (0x1F5ED, "0GRIGH,07LEFT ANGER,0ERIGH,07MOOD,0BLIGHTNING ,E0,00BALLOT BOX WITH BALLOT"),
    (0x1F5F4, "70SCRIPT X,79BOX WITH,99LD,9EX WITH,00LIGHT CHECK MARK,01BALLOT BOX WITH BOLD CHEC"),
    (0x1F5FA, "00WORLD MAP,00MOUNT FUJI,00TOKYO TOWER,00STATUE OF LIBERTY,10ILHOUETTE OF JAPAN"),
    (0x1F5FF, "00MOYAI,00GRINNING FACE,D0 WITH SMILING EYES,00FACE WITH TEARS OF JOY"),
    (0x1F603, "00SMILING FACE WITH OPEN MOUTH,S0 AND SMILING EYES,X0COLD SWEAT"),
    (0x1F606, "X0TIGHTLY-CLOSED EYES,I0HALO,J0ORNS,00WINKING FACE"),
    (0x1F60A, "00SMILING FACE WITH SMILING EYES,00FACE SAVOURING DELICIOUS FOOD,00RELIEVED FACE"),
    (0x1F60D, "00SMILING FACE WITH HEART-SHAPED EYES,I2SUNGLASS,30RKING FACE,05NEUTRAL"),
    (0x1F611, "05EXPRESSIONLESS,05UNAMUSED,00FACE WITH COLD SWEAT,00PENSIVE FACE,05CONFUSED"),
    (0x1F616, "47OUND,05KISSING,00FACE THROWING A KISS,01KISSING FACE WITH SMILING EYE,I5CLOSED"),
    (0x1F61B, "00FACE WITH STUCK-OUT TONGUE,Q1 AND WINKING EY,V0TIGHTLY-CLOSED EYES"),
    (0x1F61E, "00DISAPPOINTED FACE,07WORRI,05ANGRY,05POUTING,08CRY,08PERSEVER"),
    (0x1F624, "00FACE WITH LOOK OF TRIUMPH,00DISAPPOINTED BUT RELIEVED FACE"),
    (0x1F626, "00FROWNING FACE WITH OPEN MOUTH,00ANGUISHED FACE,05FEARFUL,05WEARY,06SLEEP,05TIRED"),
    (0x1F62C, "05GRIMACING,08LOUDLY CRY,00FACE WITH OPEN MOUTH,00HUSHED FACE"),
    (0x1F630, "00FACE WITH OPEN MOUTH AND COLD SWEAT,50SCREAMING IN FEAR,00ASTONISHED FACE,09FLU"),
    (0x1F634, "05SLEEPING,05DIZZY,00FACE WITHOUT MOUTH,90 MEDICAL MASK"),
    (0x1F638, "00GRINNING CAT FACE WITH SMILING EYES,00CAT FACE WITH TEARS OF JOY"),
    (0x1F63A, "00SMILING CAT FACE WITH OPEN MOUTH,M0HEART-SHAPED EYES,00CAT FACE WITH WRY SMILE"),
    (0x1F63D, "00KISSING CAT FACE WITH CLOSED EYES,00POUTING CAT FACE,0CCRY,09WEARY"),
    (0x1F641, "05SLIGHTLY FROWNING,98SMIL,05UPSIDE-DOWN,00FACE WITH ROLLING EYES"),
    (0x1F645, "A0NO GOOD GESTURE,A8OK,00PERSON BOWING DEEPLY,01SEE-NO-EVIL MONKE,0FHEAR,0FSPEAK"),
    (0x1F64B, "00HAPPY PERSON RAISING ONE HAND,00PERSON RAISING BOTH HANDS IN CELEBRATION"),
    (0x1F64D, "70FROWNING,70WITH POUTING FACE,C0FOLDED HANDS,00NORTH WEST POINTING LEAF,0LSOU"),
    (0x1F652, "0GNORTH EA,0LSOU,0GTURNED NORTH WE,7LSOU,7GNORTH EA,7LSOU"),
    (0x1F658, "05NORTH WEST POINTING VINE,0QSOU,0LNORTH EA,0QSOU,0LHEAVY NORTH WE,6QSOU"),
    (0x1F65E, "6LNORTH EA,6QSOU,00NORTH WEST POINTING BUD,0KSOU,0FNORTH EA,0KSOU,0FHEAVY NORTH WE"),
    (0x1F665, "6KSOU,6FNORTH EA,6KSOU,10OLLOW QUILT SQUARE ORNAMENT,S0 IN BLACK SQUARE"),
    (0x1F66A, "00SOLID QUILT SQUARE ORNAMENT,R0 IN BLACK SQUARE,00LEFTWARDS ROCKET,0CUP,0CRIGHT"),
    (0x1F66F, "0CDOWN,01SCRIPT LIGATURE ET ORNAMEN,0RHEAVY ,0CLIGATURE OPEN,0PHEAVY ,69AMPERSAND"),
    (0x1F675, "0JSWASH,19ANS-SERIF HEAVY DOUBLE TURNED COMMA QUOTATION MARK,OT,HZLOW D"),
    (0x1F679, "09HEAVY INTERROBANG,0LSANS-SERIF,0VHEAVY ,00VERY HEAVY SOLIDUS,B8REVERSE"),
    (0x1F67E, "00CHECKER BOARD,0DREVERSE ,10OCKET,00HELICOPTER,00STEAM LOCOMOTIVE,00RAILWAY CAR"),
    (0x1F684, "00HIGH-SPEED TRAIN,G0 WITH BULLET NOSE,00TRAIN,00METRO,00LIGHT RAIL,00STATION"),
    (0x1F68A, "00TRAM,40 CAR,00BUS,03ONCOMING ,03TROLLEY,00BUS STOP,00MINIBUS,00AMBULANCE"),
    (0x1F692, "01FIRE ENGIN,00POLICE CAR,0AONCOMING ,00TAXI,04ONCOMING ,00AUTOMOBILE,0AONCOMING "),
    (0x1F699, "02RECREATIONAL VEHIC,00DELIVERY TRUCK,00ARTICULATED LORRY,00TRACTOR,00MONORAIL"),
    (0x1F69E, "20UNTAIN RAILWAY,09SUSPENSIO,03MOUNTAIN CABLE,03AERIAL TRAM,00SHIP,00ROWBOAT"),
    (0x1F6A4, "04SPEED,01HORIZONTAL TRAFFIC LIGH,0GVERTIC,00CONSTRUCTION SIGN"),
    (0x1F6A8, "00POLICE CARS REVOLVING LIGHT,01TRIANGULAR FLAG ON POS,00DOOR,00NO ENTRY SIGN"),
    (0x1F6AC, "00SMOKING SYMBOL,0ENO ,07PUT LITTER IN ITS PLACE,07DO NOT LITTER,0APOTABLE WA"),
    (0x1F6B1, "0KNON-,00BICYCLE,00NO BICYCLES,00BICYCLIST,09MOUNTAIN ,00PEDESTRIAN"),
    (0x1F6B7, "00NO PEDESTRIANS,00CHILDREN CROSSING,00MENS SYMBOL,0BWO,00RESTROOM,00BABY SYMBOL"),
    (0x1F6BD, "00TOILET,02WATER CLOS,00SHOWER,00BATH,40TUB,00PASSPORT CONTROL,00CUSTOMS"),
    (0x1F6C4, "00BAGGAGE CLAIM,00LEFT LUGGAGE,00TRIANGLE WITH ROUNDED CORNERS,00PROHIBITED SIGN"),
    (0x1F6C8, "00CIRCLED INFORMATION SOURCE,00BOYS SYMBOL,08GIRL,00COUCH AND LAMP"),
    (0x1F6CC, "00SLEEPING ACCOMMODATION,10HOPPING BAGS,00BELLHOP BELL,20D,00PLACE OF WORSHIP"),
    (0x1F6D1, "00OCTAGONAL SIGN,00SHOPPING TROLLEY,10TUPA,01PAGOD,00HINDU TEMPLE,10UT,00ELEVATOR"),
    (0x1F6DD, "00PLAYGROUND SLIDE,00WHEEL,00RING BUOY,00HAMMER AND WRENCH,00SHIELD,00OIL DRUM"),
    (0x1F6E3, "00MOTORWAY,00RAILWAY TRACK,00MOTOR BOAT,00UP-POINTING MILITARY AIRPLANE,C8,C9SMALL"),
    (0x1F6E9, "0E,09NORTHEAST-POINTING,01AIRPLANE DEPARTUR,90ARRIVING"),
    (0x1F6F0, "00SATELLITE,01ONCOMING FIRE ENGIN,01DIESEL LOCOMOTIV,00PASSENGER SHIP,00SCOOTER"),
    (0x1F6F5, "07MOTOR ,00CANOE,00SLED,00FLYING SAUCER,00SKATEBOARD,00AUTO RICKSHAW"),
    (0x1F6FB, "00PICKUP TRUCK,00ROLLER SKATE"),
    (0x1F700, "01ALCHEMICAL SYMBOL FOR QUINTESSENC,M0AIR,M0FIRE,M0EARTH,M0WATER,M0AQUAFORTIS"),
    (0x1F706, "Q0 REGIA,W0-2,R0VITAE,W0-2,M0VINEGAR,T0-2,U03,M0SULFUR,M7PHILOSOPHERS,M7BLACK"),
    (0x1F710, "M0MERCURY SUBLIMATE,Z0MATE-2,Z0MATE-3,M0CINNABAR,M0SALT,M0NITRE,M0VITRIOL,T0-2"),
    (0x1F718, "M0ROCK SALT,V0-2,M0GOLD,M0SILVER,M0IRON ORE,U0-2,M0CROCUS OF IRON,MAREGUL"),
    (0x1F720, "M0COPPER ORE,MAIRON-,M0SUBLIMATE OF COPPER,MACROCUS,Z0PER-2,N0OPPER ANTIMONIATE"),
    (0x1F726, "MJSALT OF,N0UBLIMATE OF SALT OF COPPER,M0VERDIGRIS,M0TIN ORE,M4LEAD,M4ANTIMONY"),
    (0x1F72C, "M0SUBLIMATE OF ANTIMONY,NCALT,NHUBLIMATE OF,MCVINEGAR,MCREGULUS,Z0TIMONY-2,T0,T0-2"),
    (0x1F734, "U03,U04,M0ALKALI,S0-2,M0MARCASITE,M0SAL-AMMONIAC,M1ARSENI,M0REALGAR,T0-2"),
    (0x1F73D, "M0AURIPIGMENT,M0BISMUTH ORE,M0TARTAR,S0-2,M0QUICK LIME,M0BORAX,R0-2,S03,M0ALUM"),
    (0x1F746, "M0OIL,M0SPIRIT,M0TINCTURE,M0GUM,M0WAX,M0POWDER,M0CALX,M0TUTTY,M0CAPUT MORTUUM"),
    (0x1F74F, "M0SCEPTER OF JOVE,M0CADUCEUS,M0TRIDENT,M8STARRED,M0LODESTONE,M0SOAP,M0URINE"),
    (0x1F756, "M0HORSE DUNG,M0ASHES,M6POT,M0BRICK,M6POWDERED,M0AMALGAM,M1STRATUM SUPER STRATU"),
    (0x1F75D, "Z0 STRATUM-2,N0UBLIMATION,M0PRECIPITATE,M0DISTILL,P0SOLVE,U0-2,M0PURIFY"),
    (0x1F764, "O0TREFACTION,M0CRUCIBLE,U0-2,V03,V04,V05,M0ALEMBIC,M0BATH OF MARY,U0VAPOURS"),
    (0x1F76D, "M0RETORT,M0HOUR,M0NIGHT,M5DAY-,M0MONTH,M0HALF DRAM,R0OUNCE"),
    (0x1F780, "01BLACK LEFT-POINTING ISOSCELES RIGHT TRIANGL,6YUP,6YRIGHT,6YDOWN"),
    (0x1F784, "62SLIGHTLY SMALL CIRC,07MEDIUM BOLD WHITE,0H,0DHEAVY,0IVERY ,0KEXTREMEL"),
    (0x1F78A, "07WHITE CIRCLE CONTAINING BLACK SMALL,00ROUND TARGET,00BLACK TINY SQUARE"),
    (0x1F78D, "67SLIGHTLY SMALL,07LIGHT WHITE,0DMEDIUM,0DBOLD,0DHEAVY,0IVERY ,0KEXTREMEL"),
    (0x1F794, "07WHITE SQUARE CONTAINING BLACK VERY SMALL,U7MEDIUM,00SQUARE TARGET"),
    (0x1F797, "00BLACK TINY DIAMOND,68VERY SMALL,6EMEDIUM,0EWHITE DIAMOND CONTAINING BLACK VERY"),
    (0x1F79B, "V8MEDIUM,00DIAMOND TARGET,00BLACK TINY LOZENGE,68VERY SMALL,6EMEDIUM"),
    (0x1F7A0, "0EWHITE LOZENGE CONTAINING BLACK,00THIN GREEK CROSS,0CLIGHT,0CMEDIUM,0CBOLD"),
    (0x1F7A5, "0GVERY ,5CHEAVY,0JEXTREMEL,00THIN SALTIRE,08LIGHT,08MEDIUM,08BOLD,08HEAVY,0DVERY "),
    (0x1F7AE, "0FEXTREMEL,00LIGHT FIVE SPOKED ASTERISK,0LMEDIUM,0LBOLD,0LHEAVY,0QVERY ,0SEXTREMEL"),
    (0x1F7B5, "0GLIGHT SIX,0KMEDIUM,0KBOLD,0KHEAVY,0PVERY ,0REXTREMEL,0GLIGHT EIGHT,0MMEDIUM"),
    (0x1F7BD, "0MBOLD,0MHEAVY,0RVERY ,00LIGHT THREE POINTED BLACK STAR,0PMEDIUM,0O"),
    (0x1F7C3, "05MEDIUM THREE POINTED PINWHEEL,05LIGHT FOUR POINTED BLACK,0OMEDIUM,0N"),
    (0x1F7C7, "05MEDIUM FOUR POINTED PINWHEEL,0RREVERSE LIGHT,05LIGHT FIVE POINTED BLACK,0OHEAVY"),
    (0x1F7CB, "0JMEDIUM SIX,0NHEAVY,05SIX POINTED PINWHEEL,05MEDIUM EIGHT POINTED BLACK,0PHEAVY"),
    (0x1F7D0, "0UVERY ,05HEAVY EIGHT POINTED PINWHEEL,05LIGHT TWELVE POINTED BLACK,0QHEAVY"),
    (0x1F7D4, "L5PINWHEEL,00CIRCLED TRIANGLE,0GNEGATIVE ,01CIRCLED SQUAR,0ENEGATIVE "),
    (0x1F7E0, "01LARGE ORANGE CIRCL,67YELLOW,67GREEN,67PURPLE,67BROWN,61RED SQUAR,67BLUE,68ORANG"),
    (0x1F7E8, "67YELLOW,67GREEN,67PURPLE,67BROWN"),
    (0x1F7F0, "00HEAVY EQUALS SIGN"),
    (0x1F800, "00LEFTWARDS ARROW WITH SMALL TRIANGLE ARROWHEAD,0ZUPWARDS ,0ZRIGHTWARDS "),
    (0x1F803, "0ZDOWNWARDS ,0JLEFTWARDS ARROW WITH MEDIUM,0ZUPWARDS A,0ZRIGHTWARDS A"),
    (0x1F807, "0ZDOWNWARDS A,0JLEFTWARDS ARROW WITH LARGE,0ZUPWARDS ,0ZRIGHTWARDS ,0ZDOWNWARDS "),
    (0x1F810, "0ALEFTWARDS ARROW WITH SMALL EQUILATERAL,0ZUPWARDS ARR,0ZRIGHTWARDS ARR"),
    (0x1F813, "0ZDOWNWARDS ARR,0MLEFTWARDS ARROW WITH,0ZUPWAR,0ZRIGHTWAR,0ZDOWNWAR"),
    (0x1F818, "0ZHEAVY LEFTWAR,6ZUPWAR,6ZRIGHTWAR,6ZDOWNWAR,6MLEFTWARDS ARROW WITH LARGE"),
    (0x1F81D, "6ZUPWARDS ARR,6ZRIGHTWARDS ARR,6ZDOWNWARDS ARR"),
    (0x1F820, "00LEFTWARDS TRIANGLE-HEADED ARROW WITH NARROW SHAFT,0ZUPWARDS TRIA"),
    (0x1F822, "0ZRIGHTWARDS TRIA,0ZDOWNWARDS TRIA,06LEFTWARDS TRIANGLE-HEADED ARROW WITH MEDIUM"),
    (0x1F825, "0ZUPWARDS TRIA,0ZRIGHTWARDS TRIA,0ZDOWNWARDS TRIA"),
    (0x1F828, "06LEFTWARDS TRIANGLE-HEADED ARROW WITH BOLD,0ZUPWARDS TR,0ZRIGHTWARDS TR"),
    (0x1F82B, "0ZDOWNWARDS TR,06LEFTWARDS TRIANGLE-HEADED ARROW WITH HEAVY,0ZUPWARDS TRI"),
    (0x1F82E, "0ZRIGHTWARDS TRI,0ZDOWNWARDS TRI,0CLEFTWARDS TRIANGLE-HEADED ARROW WITH VERY"),
    (0x1F831, "0ZUPWARDS TRIANGLE,0ZRIGHTWARDS TRIANGLE,0ZDOWNWARDS TRIANGLE"),
    (0x1F834, "00LEFTWARDS FINGER-POST ARROW,0NUP,0NRIGHT,0NDOWN,06LEFTWARDS SQUARED,0JUP,0JRIGHT"),
    (0x1F83B, "0JDOWN,08LEFTWARDS COMPRESS,0MUP,0MRIGHT,0MDOWN,0HLEFTWARDS HEAVY,0SUP,0SRIGHT"),
    (0x1F843, "0SDOWN,06LEFTWARDS HEAVY,0HUP,0HRIGHT,0HDOWN"),
    (0x1F850, "06LEFTWARDS SANS-SERIF,0MUP,0MRIGHT,0MDOWN,0HNORTH WEST,6JEA,0OSOU,6JWE"),
    (0x1F858, "0ILEFT RIGH,0HUP DOWN"),
    (0x1F860, "06WIDE-HEADED LEFTWARDS LIGHT BARB,CMUP,CMRIGHT,CMDOWN,CHNORTH WEST,IJEA,COSOU"),
    (0x1F867, "IJWE,CBLEFTWARDS,CGUP,CGRIGHT,CGDOWN,CBNORTH WEST,IDEA,CISOU,IDWE"),
    (0x1F870, "CBLEFTWARDS MEDIUM,CNUP,CNRIGHT,CNDOWN,CINORTH WEST,IKEA,CPSOU,IKWE"),
    (0x1F878, "CBLEFTWARDS HEAVY,CMUP,CMRIGHT,CMDOWN,CHNORTH WEST,IJEA,COSOU,IJWE"),
    (0x1F880, "CHLEFTWARDS VERY,CRUP,CRRIGHT,CRDOWN,CMNORTH WEST,IOEA,CTSOU,IOWE"),
    (0x1F890, "00LEFTWARDS TRIANGLE ARROWHEAD,0OUP,0ORIGHT,0ODOWN,0JLEFTWARDS WHITE ARROW WITHIN"),
    (0x1F895, "0ZUPWARDS WH,0ZRIGHTWARDS WH,0ZDOWNWARDS WH,00LEFTWARDS ARROW WITH NOTCHED TAIL"),
    (0x1F899, "0TUP,0TRIGHT,0TDOWN,00HEAVY ARROW SHAFT WIDTH ONE,O0TWO THIRDS,O0ONE HALF,S0THIRD"),
    (0x1F8A0, "00LEFTWARDS BOTTOM-SHADED WHITE ARROW,0IRIGHTWARDS BOTTOM ,0JLEFTWARDS TOP,0TRIGH"),
    (0x1F8A4, "0ILEFTWARDS LEFT-,0KRIGHTWARDS RIGH,0VLEF,0KRIGHTWARDS LEF"),
    (0x1F8A8, "0ELEFTWARDS BACK-TILTED SHADOW,0ZRIGHTWAR,0SLEFTWARDS FRONT,0ZRIGHTWARD"),
    (0x1F8AC, "00WHITE ARROW SHAFT WIDTH ONE,O0TWO THIRDS"),
    (0x1F8B0, "00ARROW POINTING UPWARDS THEN NORTH WEST,F7RIGHTWARDS THEN CURVING SOU"),
    (0x1F900, "00CIRCLED CROSS FORMEE WITH FOUR DOTS,Q5TWO,K0,00LEFT HALF CIRCLE WITH FOUR DOTS"),
    (0x1F904, "M5THREE,N5WO,M0DOT,G0,00DOWNWARD FACING HOOK,G5NOTCHED,G0HOOK WITH DOT,GENOTCHED"),
    (0x1F90C, "00PINCHED FINGERS,00WHITE HEART,06BROWN,00PINCHING HAND,00ZIPPER-MOUTH FACE"),
    (0x1F911, "0BMONEY,00FACE WITH THERMOMETER,00NERD FACE,05THINKING,01FACE WITH HEAD-BANDAG"),
    (0x1F916, "01ROBOT FAC,05HUGGING,00SIGN OF THE HORNS,00CALL ME HAND,05RAISED BACK OF"),
    (0x1F91B, "00LEFT-FACING FIST,0DRIGH,00HANDSHAKE,40 WITH INDEX AND MIDDLE FINGERS CROSSED"),
    (0x1F91F, "00I LOVE YOU HAND SIGN,00FACE WITH COWBOY HAT,00CLOWN FACE,05NAUSEATED"),
    (0x1F923, "00ROLLING ON THE FLOOR LAUGHING,00DROOLING FACE,08LY,00FACE PALM,00SNEEZING FACE"),
    (0x1F928, "00FACE WITH ONE EYEBROW RAISED,00GRINNING FACE WITH STAR EYES"),
    (0x1F92A, "J0ONE LARGE AND ONE SMALL EYE,00FACE WITH FINGER COVERING CLOSED LIPS"),
    (0x1F92C, "00SERIOUS FACE WITH SYMBOLS COVERING MOUTH"),
    (0x1F92D, "1FMILING FACE WITH SMILING EYES AND HAND,00FACE WITH OPEN MOUTH VOMITING"),
    (0x1F92F, "00SHOCKED FACE WITH EXPLODING HEAD,00PREGNANT WOMAN,00BREAST-FEEDING"),
    (0x1F932, "00PALMS UP TOGETHER,00SELFIE,01PRINC,00MAN IN TUXEDO,10OTHER CHRISTMAS,00SHRUG"),
    (0x1F938, "00PERSON DOING CARTWHEEL,00JUGGLING,00FENCER,00MODERN PENTATHLON,00WRESTLERS"),
    (0x1F93D, "10ATER POLO,00HANDBALL,00DIVING MASK,00WILTED FLOWER,00DRUM WITH DRUMSTICKS"),
    (0x1F942, "01CLINKING GLASSE,01TUMBLER GLAS,00SPOON,00GOAL NET,00RIFLE,00FIRST PLACE MEDAL"),
    (0x1F948, "0CSECOND,0DTHIR,00BOXING GLOVE,00MARTIAL ARTS UNIFORM,00CURLING STONE"),
    (0x1F94D, "00LACROSSE STICK AND BALL,04SOFT,00FLYING DISC,00CROISSANT,00AVOCADO,00CUCUMBER"),
    (0x1F953, "00BACON,00POTATO,00CARROT,00BAGUETTE BREAD,02GREEN SAL,01SHALLOW PAN OF FOO"),
    (0x1F959, "11TUFFED FLATBREA,00EGG,00GLASS OF MILK,00PEANUTS,00KIWIFRUIT,00PANCAKES"),
    (0x1F95F, "00DUMPLING,00FORTUNE COOKIE,00TAKEOUT BOX,00CHOPSTICKS,00BOWL WITH SPOON"),
    (0x1F964, "00CUP WITH STRAW,10OCONUT,00BROCCOLI,00PIE,10RETZEL,00CUT OF MEAT,00SANDWICH"),
    (0x1F96B, "00CANNED FOOD,00LEAFY GREEN,00MANGO,10OON CAKE,00BAGEL"),
    (0x1F970, "00SMILING FACE WITH SMILING EYES AND THREE HEARTS,00YAWNING FACE"),
    (0x1F972, "00SMILING FACE WITH TEAR,00FACE WITH PARTY HORN AND PARTY HAT"),
    (0x1F974, "A0UNEVEN EYES AND WAVY MOUTH,00OVERHEATED FACE,05FREEZING,00NINJA,00DISGUISED FACE"),
    (0x1F979, "00FACE HOLDING BACK TEARS,51WITH PLEADING EYE,00SARI,00LAB COAT,00GOGGLES"),
    (0x1F97E, "00HIKING BOOT,00FLAT SHOE,00CRAB,00LION FACE,00SCORPION,00TURKEY,00UNICORN FACE"),
    (0x1F985, "01EAGL,00DUCK,00BAT,00SHARK,00OWL,00FOX FACE,00BUTTERFLY,00DEER,00GORILLA,00LIZARD"),
    (0x1F98F, "00RHINOCEROS,00SHRIMP,10QUID,00GIRAFFE FACE,05ZEBRA,00HEDGEHOG,00SAUROPOD,00T-REX"),
    (0x1F997, "00CRICKET,00KANGAROO,00LLAMA,00PEACOCK,00HIPPOPOTAMUS,00PARROT,00RACCOON,00LOBSTER"),
    (0x1F99F, "00MOSQUITO,10ICROBE,00BADGER,00SWAN,00MAMMOTH,00DODO,00SLOTH,00OTTER,10RANGUTAN"),
    (0x1F9A8, "00SKUNK,00FLAMINGO,00OYSTER,02BEAV,10ISON,00SEAL,00GUIDE DOG,00PROBING CANE"),
    (0x1F9B0, "00EMOJI COMPONENT RED HAIR,G5CURLY,G0BALD,G0WHITE HAIR,00BONE,00LEG,00FOOT,00TOOTH"),
    (0x1F9B8, "00SUPERHERO,50VILLAIN,10AFETY VEST,00EAR WITH HEARING AID,00MOTORIZED WHEELCHAIR"),
    (0x1F9BD, "1BANUAL,10ECHANICAL ARM,B0LEG,00CHEESE WEDGE,11UPCAK,00SALT SHAKER,00BEVERAGE BOX"),
    (0x1F9C4, "00GARLIC,00ONION,00FALAFEL,00WAFFLE,00BUTTER,00MATE DRINK,00ICE CUBE,00BUBBLE TEA"),
    (0x1F9CC, "00TROLL,00STANDING PERSON,0AKNEEL,07DEAF,00FACE WITH MONOCLE,00ADULT,00CHILD"),
    (0x1F9D3, "00OLDER ADULT,00BEARDED PERSON,00PERSON WITH HEADSCARF,70IN STEAMY ROOM,70CLIMBING"),
    (0x1F9D8, "70IN LOTUS POSITION,00MAGE,00FAIRY,00VAMPIRE,00MERPERSON,00ELF,00GENIE,02ZOMB"),
    (0x1F9E0, "00BRAIN,00ORANGE HEART,00BILLED CAP,00SCARF,00GLOVES,00COAT,00SOCKS"),
    (0x1F9E7, "00RED GIFT ENVELOPE,00FIRECRACKER,00JIGSAW PUZZLE PIECE,01TEST TUB,00PETRI DISH"),
    (0x1F9EC, "00DNA DOUBLE HELIX,00COMPASS,01ABACU,00FIRE EXTINGUISHER,00TOOLBOX,00BRICK"),
    (0x1F9F2, "00MAGNET,00LUGGAGE,11OTION BOTTL,00SPOOL OF THREAD,00BALL OF YARN,01SAFETY PI"),
    (0x1F9F8, "00TEDDY BEAR,00BROOM,10ASKET,00ROLL OF PAPER,00BAR OF SOAP,00SPONGE,00RECEIPT"),
    (0x1F9FF, "01NAZAR AMULE,10EUTRAL CHESS KING,E0QUEEN,E0ROOK,E0BISHOP,E0KNIGHT,E0PAWN"),
    (0x1FA06, "00WHITE CHESS KNIGHT ROTATED FORTY-FIVE DEGREES,0ZBLACK CHES,0ZNEUTRAL CHES"),
    (0x1FA09, "08WHITE CHESS KING ROTATED NINETY,CNQUEEN,CNROOK,CNBISHOP,CNKNIGHT,CNPAWN"),
    (0x1FA0F, "0NBLACK CHESS KING,CNQUEEN,CNROOK,CNBISHOP,CNKNIGHT,CNPAWN,0NNEUTRAL CHESS KING"),
    (0x1FA16, "ENQUEEN,ENROOK,ENBISHOP,ENKNIGHT,ENPAWN"),
    (0x1FA1B, "08WHITE CHESS KNIGHT ROTATED ONE HUNDRED THIRTY-FIVE,0ZBLACK CHESS KNIGHT ROTA"),
    (0x1FA1D, "0ZNEUTRAL CHESS KNIGHT ROTA,00WHITE CHESS TURNED KING,J0QUEEN,J0ROOK,J0BISHOP"),
    (0x1FA22, "J0KNIGHT,J0PAWN,00BLACK CHESS TURNED KING,J0QUEEN,J0ROOK,J0BISHOP,J0KNIGHT,J0PAWN"),
    (0x1FA2A, "00NEUTRAL CHESS TURNED KING,L0QUEEN,L0ROOK,L0BISHOP,L0KNIGHT,L0PAWN"),
    (0x1FA30, "00WHITE CHESS KNIGHT ROTATED TWO HUNDRED TWENTY-FIVE DEGREES"),
    (0x1FA31, "0ZBLACK CHESS KNIGHT ROTA,0ZNEUTRAL CHESS KNIGHT ROTA"),
    (0x1FA33, "08WHITE CHESS KING ROTATED TWO HUNDRED SEVENTY,CZQUEEN ,CZROOK ,CZBISHOP "),
    (0x1FA37, "CZKNIGHT ,CZPAWN ,0ZBLACK CHESS KING ,CZQUEEN ,CZROOK ,CZBISHOP ,CZKNIGHT ,CZPAWN "),
    (0x1FA3F, "0ZNEUTRAL CHESS KING ,EZQUEEN ,EZROOK ,EZBISHOP ,EZKNIGHT ,EZPAWN "),
    (0x1FA45, "08WHITE CHESS KNIGHT ROTATED THREE HUNDRED FIFTEEN,0ZBLACK CHESS KNIGHT RO"),
    (0x1FA47, "0ZNEUTRAL CHESS KNIGHT RO,00WHITE CHESS EQUIHOPPER,0HBLACK,0HNEUTRAL"),
    (0x1FA4B, "00WHITE CHESS EQUIHOPPER ROTATED NINETY DEGREES,0ZBLACK CHES,0ZNEUTRAL CHES"),
    (0x1FA4E, "00WHITE CHESS KNIGHT-QUEEN,J0ROOK,J0BISHOP,00BLACK CHESS KNIGHT-QUEEN,J0ROOK"),
    (0x1FA53, "J0BISHOP")
  ]

/-- Names from U+1FA60 on. -/
def namesFrom1FA60 : List (Nat × String) :=
  [
    (0x1FA60, "00XIANGQI RED GENERAL,C0MANDARIN,C0ELEPHANT,C0HORSE,C0CHARIOT,D0ANNON,C0SOLDIER"),
    (0x1FA67, "80BLACK GENERAL,E0MANDARIN,E0ELEPHANT,E0HORSE,E0CHARIOT,F0ANNON,E0SOLDIER"),
    (0x1FA70, "00BALLET SHOES,00ONE-PIECE SWIMSUIT,00BRIEFS,01SHORT,00THONG SANDAL"),
    (0x1FA78, "00DROP OF BLOOD,00ADHESIVE BANDAGE,01STETHOSCOP,00X-RAY,00CRUTCH"),
    (0x1FA80, "00YO-YO,00KITE,02PARACHU,00BOOMERANG,00MAGIC WAND,00PINATA,00NESTING DOLLS"),
    (0x1FA90, "00RINGED PLANET,00CHAIR,01RAZO,00AXE,00DIYA LAMP,00BANJO,00MILITARY HELMET"),
    (0x1FA97, "00ACCORDION,00LONG DRUM,00COIN,10ARPENTRY SAW,00SCREWDRIVER,02LADD,00HOOK,00MIRROR"),
    (0x1FA9F, "00WINDOW,00PLUNGER,00SEWING NEEDLE,00KNOT,01BUCKE,00MOUSE TRAP,00TOOTHBRUSH"),
    (0x1FAA6, "00HEADSTONE,00PLACARD,00ROCK,00MIRROR BALL,00IDENTIFICATION CARD,00LOW BATTERY"),
    (0x1FAAC, "00HAMSA"),
    (0x1FAB0, "00FLY,00WORM,00BEETLE,00COCKROACH,00POTTED PLANT,00WOOD,00FEATHER,00LOTUS,00CORAL"),
    (0x1FAB9, "00EMPTY NEST,00NEST WITH EGGS"),
    (0x1FAC0, "00ANATOMICAL HEART,00LUNGS,00PEOPLE HUGGING,10REGNANT MAN,91PERSO"),
    (0x1FAC5, "11ERSON WITH CROW"),
    (0x1FAD0, "00BLUEBERRIES,10ELL PEPPER,00OLIVE,00FLATBREAD,00TAMALE,01FONDU,00TEAPOT"),
    (0x1FAD7, "00POURING LIQUID,00BEANS,00JAR"),
    (0x1FAE0, "00MELTING FACE,09SALU,00FACE WITH OPEN EYES AND HAND OVER MOUTH,A0PEEKING EYE"),
    (0x1FAE4, "A0DIAGONAL MOUTH,00DOTTED LINE FACE,00BITING LIP,10UBBLES"),
    (0x1FAF0, "00HAND WITH INDEX FINGER AND THUMB CROSSED,01RIGHTWARDS HAN,0BLEF,05PALM DOWN,55UP"),
    (0x1FAF5, "00INDEX POINTING AT THE VIEWER,00HEART HANDS"),
    (0x1FB00, "00BLOCK SEXTANT-1,E02,E11,E03,E11,E12,E21,E04,E11,E12,E21,E13,E21,E22,E31,E05,E11"),
    (0x1FB11, "E12,E21,E13,E22,E31,E14,E21,E22,E31,E23,E31,E32,E41,E06,E11,E12,E21,E13,E21,E22"),
    (0x1FB25, "E31,E14,E21,F22,E23,E31,E32,E41,E15,E21,E22,E31,E23,E31,E32,E41,E24,E31,E32,E41"),
    (0x1FB39, "E33,E41,E42,00LOWER LEFT BLOCK DIAGONAL LOWER MIDDLE LEFT TO LOWER CENTRE"),
    (0x1FB3D, "Z0DLE LEFT TO LOWER RIGHT,Q0UPPER MIDDLE LEFT TO LOWER CENTRE"),
    (0x1FB3F, "Z0DLE LEFT TO LOWER RIGHT,W0LEFT TO LOWER CENTRE"),
    (0x1FB41, "69RIGHT BLOCK DIAGONAL UPPER MIDDLE LEFT TO UPP,Z0DDLE LEFT TO UPPER RIGHT"),
    (0x1FB43, "R0LOWER MIDDLE LEFT TO UPPER CENTRE,Z0DDLE LEFT TO UPPER RIGHT"),
    (0x1FB45, "X0LEFT TO UPPER CENTRE,X0MIDDLE LEFT TO UPPER MIDDLE RIGHT,XFCENTRE TO LOW,XMLEFT"),
    (0x1FB49, "XFCENTRE TO UPP,XMLEFT,X6CENTRE TO UPPER"),
    (0x1FB4C, "66LEFT BLOCK DIAGONAL UPPER CENTRE TO UPPER MIDDLE,WMLEFT,WFCENTRE TO LOW,WMLEFT"),
    (0x1FB50, "W6CENTRE TO LOWER,W6MIDDLE LEFT TO LOWER MIDDLE"),
    (0x1FB52, "00UPPER RIGHT BLOCK DIAGONAL LOWER MIDDLE LEFT TO LOWER CENTRE"),
    (0x1FB53, "Z0DDLE LEFT TO LOWER RIGHT,R0UPPER MIDDLE LEFT TO LOWER CENTRE"),
    (0x1FB55, "Z0DDLE LEFT TO LOWER RIGHT,X0LEFT TO LOWER CENTRE"),
    (0x1FB57, "69LEFT BLOCK DIAGONAL UPPER MIDDLE LEFT TO UPP,Z0DLE LEFT TO UPPER RIGHT"),
    (0x1FB59, "Q0LOWER MIDDLE LEFT TO UPPER CENTRE,Z0DLE LEFT TO UPPER RIGHT"),
    (0x1FB5B, "W0LEFT TO UPPER CENTRE,W0MIDDLE LEFT TO UPPER MIDDLE RIGHT,WFCENTRE TO LOW,WMLEFT"),
    (0x1FB5F, "WFCENTRE TO UPP,WMLEFT,W6CENTRE TO UPPER"),
    (0x1FB62, "66RIGHT BLOCK DIAGONAL UPPER CENTRE TO UPPER MIDDLE,XMLEFT,XFCENTRE TO LOW,XMLEFT"),
    (0x1FB66, "X6CENTRE TO LOWER,X6MIDDLE LEFT TO LOWER MIDDLE"),
    (0x1FB68, "60AND RIGHT AND LOWER TRIANGULAR THREE QUARTERS BLOCK,0WLEFT AND LOWER AND RIGHT"),
    (0x1FB6A, "0WUPPER AND LEFT AND LOWER,0WLEFT AND UPPER AND RIGHT,56TRIANGULAR ONE QUARTER"),
    (0x1FB6D, "0TUPPER,0TRIGHT,0TLOWER,00VERTICAL ONE EIGHTH BLOCK-2,Q03,Q04,Q05,Q06,Q07"),
    (0x1FB76, "00HORIZONTAL ONE EIGHTH BLOCK-2,S03,S04,S05,S06,S07"),
    (0x1FB7C, "00LEFT AND LOWER ONE EIGHTH BLOCK,9JUPP,0SRIGH,AJLOW,0RUPPER"),
    (0x1FB81, "00HORIZONTAL ONE EIGHTH BLOCK-1358,00UPPER ONE QUARTER BLOCK,66THREE EIGHTHS,6FFIV"),
    (0x1FB85, "67THREE QUARTER,67SEVEN EIGHTH,06RIGHT ONE QUARTER,66THREE EIGHTHS,6FFIV"),
    (0x1FB8A, "67THREE QUARTER,67SEVEN EIGHTH,00LEFT HALF MEDIUM SHADE,0JRIGH,0IUPPER,0KLOW"),
    (0x1FB90, "0DINVERSE,0KUPPER HALF BLOCK AND LOWER HALF "),
    (0x1FB92, "B0INVERSE MEDIUM SHADE AND LOWER HALF BLOCK"),
    (0x1FB94, "0BLEFT HALF INVERSE MEDIUM SHADE AND RIGHT,00CHECKER BOARD FILL,0IINVERSE "),
    (0x1FB97, "05HEAVY HORIZONTAL,05UPPER LEFT TO LOWER RIGHT,66RIGHT TO LOWER LEF"),
    (0x1FB9A, "60AND LOWER TRIANGULAR HALF BLOCK,0MLEFT AND RIGHT"),
    (0x1FB9C, "00UPPER LEFT TRIANGULAR MEDIUM SHADE,6PRIGH,0WLOW,6PLEF"),
    (0x1FBA0, "00BOX DRAWINGS LIGHT DIAGONAL UPPER CENTRE TO MIDDLE LEFT,Z1ENTRE TO MIDDLE RIGH"),
    (0x1FBA2, "S0MIDDLE LEFT TO LOWER CENTRE,ZHRIGH,SHUPPER CENTRE TO MIDDLE LEF"),
    (0x1FBA5, "ZHENTRE TO MIDDLE RIGH,S0MIDDLE LEFT TO LOWER CENTRE TO MIDDLE RIGHT,ZPLEFT TO UPP"),
    (0x1FBA8, "S0UPPER CENTRE TO MIDDLE LEFT AND MIDDLE RIGHT TO LOWER CENTRE"),
    (0x1FBA9, "ZHENTRE TO MIDDLE RIGHT AND MIDDLE LEF"),
    (0x1FBAA, "Z0ENTRE TO MIDDLE RIGHT TO LOWER CENTRE TO MIDDLE LEFT"),
    (0x1FBAB, "Z1ENTRE TO MIDDLE LEFT TO LOWER CENTRE TO MIDDLE RIGH"),
    (0x1FBAC, "S0MIDDLE LEFT TO UPPER CENTRE TO MIDDLE RIGHT TO LOWER CENTRE"),
    (0x1FBAD, "ZHRIGHT TO UPPER CENTRE TO MIDDLE LEF,S0DIAMOND,J0HORIZONTAL WITH VERTICAL STROKE"),
    (0x1FBB0, "00ARROWHEAD-SHAPED POINTER,00INVERSE CHECK MARK,00LEFT HALF RUNNING MAN,0IRIGH"),
    (0x1FBB4, "00INVERSE DOWNWARDS ARROW WITH TIP LEFTWARDS"),
    (0x1FBB5, "00LEFTWARDS ARROW AND UPPER AND LOWER ONE EIGHTH BLOCK,0ZRIGHTWARDS ARROW A"),
    (0x1FBB7, "0HDOWNWARDS ARROW AND RIGHT,0ZUPWAR,00LEFT HALF FOLDER,0DRIGH,00VOIDED GREEK CROSS"),
    (0x1FBBC, "00RIGHT OPEN SQUARED DOT,00NEGATIVE DIAGONAL CROSS,I0MIDDLE RIGHT TO LOWER CENTRE"),
    (0x1FBBF, "I0DIAMOND,00WHITE HEAVY SALTIRE WITH ROUNDED CORNERS"),
    (0x1FBC1, "00LEFT THIRD WHITE RIGHT POINTING INDEX,0XMIDDLE,0XRIGHT"),
    (0x1FBC4, "00NEGATIVE SQUARED QUESTION MARK,00STICK FIGURE,C0 WITH ARMS RAISED,D0LEANING LEFT"),
    (0x1FBC8, "L1RIGH,D0WITH DRESS,00WHITE UP-POINTING CHEVRON"),
    (0x1FBF0, "00SEGMENTED DIGIT ZERO,G0ONE,G0TWO,H0HREE,G0FOUR,H0IVE,G0SIX,H0EVEN,G0EIGHT,G0NINE"),
    (0xE0001, "00LANGUAGE TAG"),
    (0xE0020, "00TAG SPACE,40EXCLAMATION MARK,4AQUOT,40NUMBER SIGN,46DOLLA,45PERCENT,40AMPERSAND"),
    (0xE0027, "50POSTROPHE,40LEFT PARENTHESIS,4DRIGH,40ASTERISK,40PLUS SIGN,40COMMA"),
    (0xE002D, "40HYPHEN-MINUS,40FULL STOP,40SOLIDUS,40DIGIT ZERO,A0ONE,A0TWO,B0HREE,A0FOUR,B0IVE"),
    (0xE0036, "A0SIX,B0EVEN,A0EIGHT,A0NINE,40COLON,45SEMI,41LESS-THAN SIG,45EQUALS,45GREATER-THAN"),
    (0xE003F, "40QUESTION MARK,40COMMERCIAL AT,40LATIN CAPITAL LETTER A,P0B,P0C,P0D,P0E,P0F,P0G"),
    (0xE0048, "P0H,P0I,P0J,P0K,P0L,P0M,P0N,P0O,P0P,P0Q,P0R,P0S,P0T,P0U,P0V,P0W,P0X,P0Y,P0Z"),
    (0xE005B, "50EFT SQUARE BRACKET,40REVERSE SOLIDUS,50IGHT SQUARE BRACKET,41CIRCUMFLEX ACCEN"),
    (0xE005F, "40LOW LINE,40GRAVE ACCENT,40LATIN SMALL LETTER A,N0B,N0C,N0D,N0E,N0F,N0G,N0H,N0I"),
    (0xE006A, "N0J,N0K,N0L,N0M,N0N,N0O,N0P,N0Q,N0R,N0S,N0T,N0U,N0V,N0W,N0X,N0Y,N0Z"),
    (0xE007B, "50EFT CURLY BRACKET,40VERTICAL LINE,40RIGHT CURLY BRACKET,40TILDE,00CANCEL TAG"),
    (0xE0100, "00VARIATION SELECTOR-17,K08,K09,J020,K01,K02,K03,K04,K05,K06,K07,K08,K09,J030,K01"),
    (0xE010F, "K02,K03,K04,K05,K06,K07,K08,K09,J040,K01,K02,K03,K04,K05,K06,K07,K08,K09,J050,K01"),
    (0xE0123, "K02,K03,K04,K05,K06,K07,K08,K09,J060,K01,K02,K03,K04,K05,K06,K07,K08,K09,J070,K01"),
    (0xE0137, "K02,K03,K04,K05,K06,K07,K08,K09,J080,K01,K02,K03,K04,K05,K06,K07,K08,K09,J090,K01"),
    (0xE014B, "K02,K03,K04,K05,K06,K07,K08,K09,J0100,L01,L02,L03,L04,L05,L06,L07,L08,L09,K010,L01"),
    (0xE015F, "L02,L03,L04,L05,L06,L07,L08,L09,K020,L01,L02,L03,L04,L05,L06,L07,L08,L09,K030,L01"),
    (0xE0173, "L02,L03,L04,L05,L06,L07,L08,L09,K040,L01,L02,L03,L04,L05,L06,L07,L08,L09,K050,L01"),
    (0xE0187, "L02,L03,L04,L05,L06,L07,L08,L09,K060,L01,L02,L03,L04,L05,L06,L07,L08,L09,K070,L01"),
    (0xE019B, "L02,L03,L04,L05,L06,L07,L08,L09,K080,L01,L02,L03,L04,L05,L06,L07,L08,L09,K090,L01"),
    (0xE01AF, "L02,L03,L04,L05,L06,L07,L08,L09,J0200,L01,L02,L03,L04,L05,L06,L07,L08,L09,K010,L01"),
    (0xE01C3, "L02,L03,L04,L05,L06,L07,L08,L09,K020,L01,L02,L03,L04,L05,L06,L07,L08,L09,K030,L01"),
    (0xE01D7, "L02,L03,L04,L05,L06,L07,L08,L09,K040,L01,L02,L03,L04,L05,L06,L07,L08,L09,K050,L01"),
    (0xE01EB, "L02,L03,L04,L05,L06")
  ]

/-- All names of the table. -/
def nameTables : List (List (Nat × String)) :=
  [namesFrom0020, namesFrom0B2A, namesFrom1F18, namesFrom2B76, namesFromA8CE, namesFrom109BC,
    namesFrom13430, namesFrom1DA9B, namesFrom1FA60]

/-! ## Aliases -/

/-- Further names of characters. -/
def nameAliases : List (Nat × String) :=
  [
    (0x0, "NUL"), (0x0, "NULL"), (0x1, "SOH"), (0x1, "START OF HEADING"), (0x2, "START OF TEXT"),
    (0x2, "STX"), (0x3, "END OF TEXT"), (0x3, "ETX"), (0x4, "END OF TRANSMISSION"), (0x4, "EOT"),
    (0x5, "ENQ"), (0x5, "ENQUIRY"), (0x6, "ACK"), (0x6, "ACKNOWLEDGE"), (0x7, "ALERT"),
    (0x7, "BEL"), (0x8, "BACKSPACE"), (0x8, "BS"), (0x9, "CHARACTER TABULATION"),
    (0x9, "HORIZONTAL TABULATION"), (0x9, "HT"), (0x9, "TAB"), (0xA, "END OF LINE"), (0xA, "EOL"),
    (0xA, "LF"), (0xA, "LINE FEED"), (0xA, "NEW LINE"), (0xA, "NL"), (0xB, "LINE TABULATION"),
    (0xB, "VERTICAL TABULATION"), (0xB, "VT"), (0xC, "FF"), (0xC, "FORM FEED"),
    (0xD, "CARRIAGE RETURN"), (0xD, "CR"), (0xE, "LOCKING-SHIFT ONE"), (0xE, "SHIFT OUT"),
    (0xE, "SO"), (0xF, "LOCKING-SHIFT ZERO"), (0xF, "SHIFT IN"), (0xF, "SI"),
    (0x10, "DATA LINK ESCAPE"), (0x10, "DLE"), (0x11, "DC1"), (0x11, "DEVICE CONTROL ONE"),
    (0x12, "DC2"), (0x12, "DEVICE CONTROL TWO"), (0x13, "DC3"), (0x13, "DEVICE CONTROL THREE"),
    (0x14, "DC4"), (0x14, "DEVICE CONTROL FOUR"), (0x15, "NAK"), (0x15, "NEGATIVE ACKNOWLEDGE"),
    (0x16, "SYN"), (0x16, "SYNCHRONOUS IDLE"), (0x17, "END OF TRANSMISSION BLOCK"), (0x17, "ETB"),
    (0x18, "CAN"), (0x18, "CANCEL"), (0x19, "END OF MEDIUM"), (0x19, "EOM"), (0x1A, "SUB"),
    (0x1A, "SUBSTITUTE"), (0x1B, "ESC"), (0x1B, "ESCAPE"), (0x1C, "FILE SEPARATOR"), (0x1C, "FS"),
    (0x1C, "INFORMATION SEPARATOR FOUR"), (0x1D, "GROUP SEPARATOR"), (0x1D, "GS"),
    (0x1D, "INFORMATION SEPARATOR THREE"), (0x1E, "INFORMATION SEPARATOR TWO"),
    (0x1E, "RECORD SEPARATOR"), (0x1E, "RS"), (0x1F, "INFORMATION SEPARATOR ONE"),
    (0x1F, "UNIT SEPARATOR"), (0x1F, "US"), (0x20, "SP"), (0x7F, "DEL"), (0x7F, "DELETE"),
    (0x80, "PAD"), (0x80, "PADDING CHARACTER"), (0x81, "HIGH OCTET PRESET"), (0x81, "HOP"),
    (0x82, "BPH"), (0x82, "BREAK PERMITTED HERE"), (0x83, "NBH"), (0x83, "NO BREAK HERE"),
    (0x84, "IND"), (0x84, "INDEX"), (0x85, "NEL"), (0x85, "NEXT LINE"), (0x86, "SSA"),
    (0x86, "START OF SELECTED AREA"), (0x87, "END OF SELECTED AREA"), (0x87, "ESA"),
    (0x88, "CHARACTER TABULATION SET"), (0x88, "HORIZONTAL TABULATION SET"), (0x88, "HTS"),
    (0x89, "CHARACTER TABULATION WITH JUSTIFICATION"),
    (0x89, "HORIZONTAL TABULATION WITH JUSTIFICATION"), (0x89, "HTJ"),
    (0x8A, "LINE TABULATION SET"), (0x8A, "VERTICAL TABULATION SET"), (0x8A, "VTS"),
    (0x8B, "PARTIAL LINE DOWN"), (0x8B, "PARTIAL LINE FORWARD"), (0x8B, "PLD"),
    (0x8C, "PARTIAL LINE BACKWARD"), (0x8C, "PARTIAL LINE UP"), (0x8C, "PLU"),
    (0x8D, "REVERSE INDEX"), (0x8D, "REVERSE LINE FEED"), (0x8D, "RI"), (0x8E, "SINGLE SHIFT TWO"),
    (0x8E, "SINGLE-SHIFT-2"), (0x8E, "SS2"), (0x8F, "SINGLE SHIFT THREE"), (0x8F, "SINGLE-SHIFT-3"),
    (0x8F, "SS3"), (0x90, "DCS"), (0x90, "DEVICE CONTROL STRING"), (0x91, "PRIVATE USE ONE"),
    (0x91, "PRIVATE USE-1"), (0x91, "PU1"), (0x92, "PRIVATE USE TWO"), (0x92, "PRIVATE USE-2"),
    (0x92, "PU2"), (0x93, "SET TRANSMIT STATE"), (0x93, "STS"), (0x94, "CANCEL CHARACTER"),
    (0x94, "CCH"), (0x95, "MESSAGE WAITING"), (0x95, "MW"), (0x96, "SPA"),
    (0x96, "START OF GUARDED AREA"), (0x96, "START OF PROTECTED AREA"),
    (0x97, "END OF GUARDED AREA"), (0x97, "END OF PROTECTED AREA"), (0x97, "EPA"), (0x98, "SOS"),
    (0x98, "START OF STRING"), (0x99, "SGC"), (0x99, "SINGLE GRAPHIC CHARACTER INTRODUCER"),
    (0x9A, "SCI"), (0x9A, "SINGLE CHARACTER INTRODUCER"), (0x9B, "CONTROL SEQUENCE INTRODUCER"),
    (0x9B, "CSI"), (0x9C, "ST"), (0x9C, "STRING TERMINATOR"), (0x9D, "OPERATING SYSTEM COMMAND"),
    (0x9D, "OSC"), (0x9E, "PM"), (0x9E, "PRIVACY MESSAGE"), (0x9F, "APC"),
    (0x9F, "APPLICATION PROGRAM COMMAND"), (0xA0, "NBSP"), (0xAD, "SHY"),
    (0x1A2, "LATIN CAPITAL LETTER GHA"), (0x1A3, "LATIN SMALL LETTER GHA"), (0x34F, "CGJ"),
    (0x61C, "ALM"), (0x709, "SYRIAC SUBLINEAR COLON SKEWED LEFT"), (0xCDE, "KANNADA LETTER LLLA"),
    (0xE9D, "LAO LETTER FO FON"), (0xE9F, "LAO LETTER FO FAY"), (0xEA3, "LAO LETTER RO"),
    (0xEA5, "LAO LETTER LO"), (0xFD0, "TIBETAN MARK BKA- SHOG GI MGO RGYAN"),
    (0x11EC, "HANGUL JONGSEONG YESIEUNG-KIYEOK"), (0x11ED, "HANGUL JONGSEONG YESIEUNG-SSANGKIYEOK"),
    (0x11EE, "HANGUL JONGSEONG SSANGYESIEUNG"), (0x11EF, "HANGUL JONGSEONG YESIEUNG-KHIEUKH"),
    (0x180B, "FVS1"), (0x180C, "FVS2"), (0x180D, "FVS3"), (0x180E, "MVS"), (0x180F, "FVS4"),
    (0x200B, "ZWSP"), (0x200C, "ZWNJ"), (0x200D, "ZWJ"), (0x200E, "LRM"), (0x200F, "RLM"),
    (0x202A, "LRE"), (0x202B, "RLE"), (0x202C, "PDF"), (0x202D, "LRO"), (0x202E, "RLO"),
    (0x202F, "NNBSP"), (0x205F, "MMSP"), (0x2060, "WJ"), (0x2066, "LRI"), (0x2067, "RLI"),
    (0x2068, "FSI"), (0x2069, "PDI"), (0x2118, "WEIERSTRASS ELLIPTIC FUNCTION"),
    (0x2448, "MICR ON US SYMBOL"), (0x2449, "MICR DASH SYMBOL"),
    (0x2B7A, "LEFTWARDS TRIANGLE-HEADED ARROW WITH DOUBLE VERTICAL STROKE"),
    (0x2B7C, "RIGHTWARDS TRIANGLE-HEADED ARROW WITH DOUBLE VERTICAL STROKE"),
    (0xA015, "YI SYLLABLE ITERATION MARK"), (0xAA6E, "MYANMAR LETTER KHAMTI LLA"), (0xFE00, "VS1"),
    (0xFE01, "VS2"), (0xFE02, "VS3"), (0xFE03, "VS4"), (0xFE04, "VS5"), (0xFE05, "VS6"),
    (0xFE06, "VS7"), (0xFE07, "VS8"), (0xFE08, "VS9"), (0xFE09, "VS10"), (0xFE0A, "VS11"),
    (0xFE0B, "VS12"), (0xFE0C, "VS13"), (0xFE0D, "VS14"), (0xFE0E, "VS15"), (0xFE0F, "VS16"),
    (0xFE18, "PRESENTATION FORM FOR VERTICAL RIGHT WHITE LENTICULAR BRACKET"), (0xFEFF, "BOM"),
    (0xFEFF, "BYTE ORDER MARK"), (0xFEFF, "ZWNBSP"), (0x122D4, "CUNEIFORM SIGN NU11 TENU"),
    (0x122D5, "CUNEIFORM SIGN NU11 OVER NU11 BUR OVER BUR"),
    (0x16E56, "MEDEFAIDRIN CAPITAL LETTER H"), (0x16E57, "MEDEFAIDRIN CAPITAL LETTER NG"),
    (0x16E76, "MEDEFAIDRIN SMALL LETTER H"), (0x16E77, "MEDEFAIDRIN SMALL LETTER NG"),
    (0x1B001, "HENTAIGANA LETTER E-1"),
    (0x1D0C5, "BYZANTINE MUSICAL SYMBOL FTHORA SKLIRON CHROMA VASIS"), (0xE0100, "VS17"),
    (0xE0101, "VS18"), (0xE0102, "VS19"), (0xE0103, "VS20"), (0xE0104, "VS21"), (0xE0105, "VS22"),
    (0xE0106, "VS23"), (0xE0107, "VS24"), (0xE0108, "VS25"), (0xE0109, "VS26"), (0xE010A, "VS27"),
    (0xE010B, "VS28"), (0xE010C, "VS29"), (0xE010D, "VS30"), (0xE010E, "VS31"), (0xE010F, "VS32"),
    (0xE0110, "VS33"), (0xE0111, "VS34"), (0xE0112, "VS35"), (0xE0113, "VS36"), (0xE0114, "VS37"),
    (0xE0115, "VS38"), (0xE0116, "VS39"), (0xE0117, "VS40"), (0xE0118, "VS41"), (0xE0119, "VS42"),
    (0xE011A, "VS43"), (0xE011B, "VS44"), (0xE011C, "VS45"), (0xE011D, "VS46"), (0xE011E, "VS47"),
    (0xE011F, "VS48"), (0xE0120, "VS49"), (0xE0121, "VS50"), (0xE0122, "VS51"), (0xE0123, "VS52"),
    (0xE0124, "VS53"), (0xE0125, "VS54"), (0xE0126, "VS55"), (0xE0127, "VS56"), (0xE0128, "VS57"),
    (0xE0129, "VS58"), (0xE012A, "VS59"), (0xE012B, "VS60"), (0xE012C, "VS61"), (0xE012D, "VS62"),
    (0xE012E, "VS63"), (0xE012F, "VS64"), (0xE0130, "VS65"), (0xE0131, "VS66"), (0xE0132, "VS67"),
    (0xE0133, "VS68"), (0xE0134, "VS69"), (0xE0135, "VS70"), (0xE0136, "VS71"), (0xE0137, "VS72"),
    (0xE0138, "VS73"), (0xE0139, "VS74"), (0xE013A, "VS75"), (0xE013B, "VS76"), (0xE013C, "VS77"),
    (0xE013D, "VS78"), (0xE013E, "VS79"), (0xE013F, "VS80"), (0xE0140, "VS81"), (0xE0141, "VS82"),
    (0xE0142, "VS83"), (0xE0143, "VS84"), (0xE0144, "VS85"), (0xE0145, "VS86"), (0xE0146, "VS87"),
    (0xE0147, "VS88"), (0xE0148, "VS89"), (0xE0149, "VS90"), (0xE014A, "VS91"), (0xE014B, "VS92"),
    (0xE014C, "VS93"), (0xE014D, "VS94"), (0xE014E, "VS95"), (0xE014F, "VS96"), (0xE0150, "VS97"),
    (0xE0151, "VS98"), (0xE0152, "VS99"), (0xE0153, "VS100"), (0xE0154, "VS101"),
    (0xE0155, "VS102"), (0xE0156, "VS103"), (0xE0157, "VS104"), (0xE0158, "VS105"),
    (0xE0159, "VS106"), (0xE015A, "VS107"), (0xE015B, "VS108"), (0xE015C, "VS109"),
    (0xE015D, "VS110"), (0xE015E, "VS111"), (0xE015F, "VS112"), (0xE0160, "VS113"),
    (0xE0161, "VS114"), (0xE0162, "VS115"), (0xE0163, "VS116"), (0xE0164, "VS117"),
    (0xE0165, "VS118"), (0xE0166, "VS119"), (0xE0167, "VS120"), (0xE0168, "VS121"),
    (0xE0169, "VS122"), (0xE016A, "VS123"), (0xE016B, "VS124"), (0xE016C, "VS125"),
    (0xE016D, "VS126"), (0xE016E, "VS127"), (0xE016F, "VS128"), (0xE0170, "VS129"),
    (0xE0171, "VS130"), (0xE0172, "VS131"), (0xE0173, "VS132"), (0xE0174, "VS133"),
    (0xE0175, "VS134"), (0xE0176, "VS135"), (0xE0177, "VS136"), (0xE0178, "VS137"),
    (0xE0179, "VS138"), (0xE017A, "VS139"), (0xE017B, "VS140"), (0xE017C, "VS141"),
    (0xE017D, "VS142"), (0xE017E, "VS143"), (0xE017F, "VS144"), (0xE0180, "VS145"),
    (0xE0181, "VS146"), (0xE0182, "VS147"), (0xE0183, "VS148"), (0xE0184, "VS149"),
    (0xE0185, "VS150"), (0xE0186, "VS151"), (0xE0187, "VS152"), (0xE0188, "VS153"),
    (0xE0189, "VS154"), (0xE018A, "VS155"), (0xE018B, "VS156"), (0xE018C, "VS157"),
    (0xE018D, "VS158"), (0xE018E, "VS159"), (0xE018F, "VS160"), (0xE0190, "VS161"),
    (0xE0191, "VS162"), (0xE0192, "VS163"), (0xE0193, "VS164"), (0xE0194, "VS165"),
    (0xE0195, "VS166"), (0xE0196, "VS167"), (0xE0197, "VS168"), (0xE0198, "VS169"),
    (0xE0199, "VS170"), (0xE019A, "VS171"), (0xE019B, "VS172"), (0xE019C, "VS173"),
    (0xE019D, "VS174"), (0xE019E, "VS175"), (0xE019F, "VS176"), (0xE01A0, "VS177"),
    (0xE01A1, "VS178"), (0xE01A2, "VS179"), (0xE01A3, "VS180"), (0xE01A4, "VS181"),
    (0xE01A5, "VS182"), (0xE01A6, "VS183"), (0xE01A7, "VS184"), (0xE01A8, "VS185"),
    (0xE01A9, "VS186"), (0xE01AA, "VS187"), (0xE01AB, "VS188"), (0xE01AC, "VS189"),
    (0xE01AD, "VS190"), (0xE01AE, "VS191"), (0xE01AF, "VS192"), (0xE01B0, "VS193"),
    (0xE01B1, "VS194"), (0xE01B2, "VS195"), (0xE01B3, "VS196"), (0xE01B4, "VS197"),
    (0xE01B5, "VS198"), (0xE01B6, "VS199"), (0xE01B7, "VS200"), (0xE01B8, "VS201"),
    (0xE01B9, "VS202"), (0xE01BA, "VS203"), (0xE01BB, "VS204"), (0xE01BC, "VS205"),
    (0xE01BD, "VS206"), (0xE01BE, "VS207"), (0xE01BF, "VS208"), (0xE01C0, "VS209"),
    (0xE01C1, "VS210"), (0xE01C2, "VS211"), (0xE01C3, "VS212"), (0xE01C4, "VS213"),
    (0xE01C5, "VS214"), (0xE01C6, "VS215"), (0xE01C7, "VS216"), (0xE01C8, "VS217"),
    (0xE01C9, "VS218"), (0xE01CA, "VS219"), (0xE01CB, "VS220"), (0xE01CC, "VS221"),
    (0xE01CD, "VS222"), (0xE01CE, "VS223"), (0xE01CF, "VS224"), (0xE01D0, "VS225"),
    (0xE01D1, "VS226"), (0xE01D2, "VS227"), (0xE01D3, "VS228"), (0xE01D4, "VS229"),
    (0xE01D5, "VS230"), (0xE01D6, "VS231"), (0xE01D7, "VS232"), (0xE01D8, "VS233"),
    (0xE01D9, "VS234"), (0xE01DA, "VS235"), (0xE01DB, "VS236"), (0xE01DC, "VS237"),
    (0xE01DD, "VS238"), (0xE01DE, "VS239"), (0xE01DF, "VS240"), (0xE01E0, "VS241"),
    (0xE01E1, "VS242"), (0xE01E2, "VS243"), (0xE01E3, "VS244"), (0xE01E4, "VS245"),
    (0xE01E5, "VS246"), (0xE01E6, "VS247"), (0xE01E7, "VS248"), (0xE01E8, "VS249"),
    (0xE01E9, "VS250"), (0xE01EA, "VS251"), (0xE01EB, "VS252"), (0xE01EC, "VS253"),
    (0xE01ED, "VS254"), (0xE01EE, "VS255"), (0xE01EF, "VS256")
  ]

end HttpScript.Text
