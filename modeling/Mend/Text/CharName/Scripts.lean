namespace Mend.Text.CharName

def scripts : List (Nat × List String) := [
  (0x20, ["SPACE;EXCLAMATION MARK;QUOTATION MARK;NUMBER SIGN;DOLLAR SIGN;PERCENT SIGN;",
    "AMPERSAND;APOSTROPHE;LEFT PARENTHESIS;RIGHT PARENTHESIS;ASTERISK;PLUS SIGN;COMMA;",
    "HYPHEN-MINUS;FULL STOP;SOLIDUS;DIGIT [ZERO;ONE;TWO;THREE;FOUR;FIVE;SIX;SEVEN;EIGHT;NINE];",
    "COLON;SEMICOLON;LESS-THAN SIGN;EQUALS SIGN;GREATER-THAN SIGN;QUESTION MARK;COMMERCIAL AT;",
    "LATIN CAPITAL LETTER [A;B;C;D;E;F;G;H;I;J;K;L;M;N;O;P;Q;R;S;T;U;V;W;X;Y;Z];LEFT SQUARE ",
    "BRACKET;REVERSE SOLIDUS;RIGHT SQUARE BRACKET;CIRCUMFLEX ACCENT;LOW LINE;GRAVE ACCENT;",
    "LATIN SMALL LETTER [A;B;C;D;E;F;G;H;I;J;K;L;M;N;O;P;Q;R;S;T;U;V;W;X;Y;Z];LEFT CURLY ",
    "BRACKET;VERTICAL LINE;RIGHT CURLY BRACKET;TILDE"]),
  (0xa0, ["NO-BREAK SPACE;INVERTED EXCLAMATION MARK;CENT SIGN;POUND SIGN;CURRENCY SIGN;YEN ",
    "SIGN;BROKEN BAR;SECTION SIGN;DIAERESIS;COPYRIGHT SIGN;FEMININE ORDINAL INDICATOR;",
    "LEFT-POINTING DOUBLE ANGLE QUOTATION MARK;NOT SIGN;SOFT HYPHEN;REGISTERED SIGN;MACRON;",
    "DEGREE SIGN;PLUS-MINUS SIGN;SUPERSCRIPT [TWO;THREE];ACUTE ACCENT;MICRO SIGN;PILCROW SIGN;",
    "MIDDLE DOT;CEDILLA;SUPERSCRIPT ONE;MASCULINE ORDINAL INDICATOR;RIGHT-POINTING DOUBLE ",
    "ANGLE QUOTATION MARK;VULGAR FRACTION [ONE [QUARTER;HALF];THREE QUARTERS];INVERTED ",
    "QUESTION MARK;LATIN CAPITAL LETTER [A WITH [GRAVE;ACUTE;CIRCUMFLEX;TILDE;DIAERESIS;RING ",
    "ABOVE];AE;C WITH CEDILLA;E WITH [GRAVE;ACUTE;CIRCUMFLEX;DIAERESIS];I WITH [GRAVE;ACUTE;",
    "CIRCUMFLEX;DIAERESIS];ETH;N WITH TILDE;O WITH [GRAVE;ACUTE;CIRCUMFLEX;TILDE;DIAERESIS]];",
    "MULTIPLICATION SIGN;LATIN [CAPITAL LETTER [O WITH STROKE;U WITH [GRAVE;ACUTE;CIRCUMFLEX;",
    "DIAERESIS];Y WITH ACUTE;THORN];SMALL LETTER [SHARP S;A WITH [GRAVE;ACUTE;CIRCUMFLEX;TILDE;",
    "DIAERESIS;RING ABOVE];AE;C WITH CEDILLA;E WITH [GRAVE;ACUTE;CIRCUMFLEX;DIAERESIS];I WITH [",
    "GRAVE;ACUTE;CIRCUMFLEX;DIAERESIS];ETH;N WITH TILDE;O WITH [GRAVE;ACUTE;CIRCUMFLEX;TILDE;",
    "DIAERESIS]]];DIVISION SIGN;LATIN [SMALL LETTER [O WITH STROKE;U WITH [GRAVE;ACUTE;",
    "CIRCUMFLEX;DIAERESIS];Y WITH ACUTE;THORN;Y WITH DIAERESIS];CAPITAL LETTER A WITH MACRON;",
    "SMALL LETTER A WITH MACRON;CAPITAL LETTER A WITH BREVE;SMALL LETTER A WITH BREVE;CAPITAL ",
    "LETTER A WITH OGONEK;SMALL LETTER A WITH OGONEK;CAPITAL LETTER C WITH ACUTE;SMALL LETTER ",
    "C WITH ACUTE;CAPITAL LETTER C WITH CIRCUMFLEX;SMALL LETTER C WITH CIRCUMFLEX;CAPITAL ",
    "LETTER C WITH DOT ABOVE;SMALL LETTER C WITH DOT ABOVE;CAPITAL LETTER C WITH CARON;SMALL ",
    "LETTER C WITH CARON;CAPITAL LETTER D WITH CARON;SMALL LETTER D WITH CARON;CAPITAL LETTER ",
    "D WITH STROKE;SMALL LETTER D WITH STROKE;CAPITAL LETTER E WITH MACRON;SMALL LETTER E WITH ",
    "MACRON;CAPITAL LETTER E WITH BREVE;SMALL LETTER E WITH BREVE;CAPITAL LETTER E WITH DOT ",
    "ABOVE;SMALL LETTER E WITH DOT ABOVE;CAPITAL LETTER E WITH OGONEK;SMALL LETTER E WITH ",
    "OGONEK;CAPITAL LETTER E WITH CARON;SMALL LETTER E WITH CARON;CAPITAL LETTER G WITH ",
    "CIRCUMFLEX;SMALL LETTER G WITH CIRCUMFLEX;CAPITAL LETTER G WITH BREVE;SMALL LETTER G WITH ",
    "BREVE;CAPITAL LETTER G WITH DOT ABOVE;SMALL LETTER G WITH DOT ABOVE;CAPITAL LETTER G WITH ",
    "CEDILLA;SMALL LETTER G WITH CEDILLA;CAPITAL LETTER H WITH CIRCUMFLEX;SMALL LETTER H WITH ",
    "CIRCUMFLEX;CAPITAL LETTER H WITH STROKE;SMALL LETTER H WITH STROKE;CAPITAL LETTER I WITH ",
    "TILDE;SMALL LETTER I WITH TILDE;CAPITAL LETTER I WITH MACRON;SMALL LETTER I WITH MACRON;",
    "CAPITAL LETTER I WITH BREVE;SMALL LETTER I WITH BREVE;CAPITAL LETTER I WITH OGONEK;SMALL ",
    "LETTER I WITH OGONEK;CAPITAL LETTER I WITH DOT ABOVE;SMALL LETTER DOTLESS I;CAPITAL ",
    "LIGATURE IJ;SMALL LIGATURE IJ;CAPITAL LETTER J WITH CIRCUMFLEX;SMALL LETTER J WITH ",
    "CIRCUMFLEX;CAPITAL LETTER K WITH CEDILLA;SMALL LETTER [K WITH CEDILLA;KRA];CAPITAL LETTER ",
    "L WITH ACUTE;SMALL LETTER L WITH ACUTE;CAPITAL LETTER L WITH CEDILLA;SMALL LETTER L WITH ",
    "CEDILLA;CAPITAL LETTER L WITH CARON;SMALL LETTER L WITH CARON;CAPITAL LETTER L WITH ",
    "MIDDLE DOT;SMALL LETTER L WITH MIDDLE DOT;CAPITAL LETTER L WITH STROKE;SMALL LETTER L ",
    "WITH STROKE;CAPITAL LETTER N WITH ACUTE;SMALL LETTER N WITH ACUTE;CAPITAL LETTER N WITH ",
    "CEDILLA;SMALL LETTER N WITH CEDILLA;CAPITAL LETTER N WITH CARON;SMALL LETTER N [WITH ",
    "CARON;PRECEDED BY APOSTROPHE];CAPITAL LETTER ENG;SMALL LETTER ENG;CAPITAL LETTER O WITH ",
    "MACRON;SMALL LETTER O WITH MACRON;CAPITAL LETTER O WITH BREVE;SMALL LETTER O WITH BREVE;",
    "CAPITAL LETTER O WITH DOUBLE ACUTE;SMALL LETTER O WITH DOUBLE ACUTE;CAPITAL LIGATURE OE;",
    "SMALL LIGATURE OE;CAPITAL LETTER R WITH ACUTE;SMALL LETTER R WITH ACUTE;CAPITAL LETTER R ",
    "WITH CEDILLA;SMALL LETTER R WITH CEDILLA;CAPITAL LETTER R WITH CARON;SMALL LETTER R WITH ",
    "CARON;CAPITAL LETTER S WITH ACUTE;SMALL LETTER S WITH ACUTE;CAPITAL LETTER S WITH ",
    "CIRCUMFLEX;SMALL LETTER S WITH CIRCUMFLEX;CAPITAL LETTER S WITH CEDILLA;SMALL LETTER S ",
    "WITH CEDILLA;CAPITAL LETTER S WITH CARON;SMALL LETTER S WITH CARON;CAPITAL LETTER T WITH ",
    "CEDILLA;SMALL LETTER T WITH CEDILLA;CAPITAL LETTER T WITH CARON;SMALL LETTER T WITH CARON;",
    "CAPITAL LETTER T WITH STROKE;SMALL LETTER T WITH STROKE;CAPITAL LETTER U WITH TILDE;SMALL ",
    "LETTER U WITH TILDE;CAPITAL LETTER U WITH MACRON;SMALL LETTER U WITH MACRON;CAPITAL ",
    "LETTER U WITH BREVE;SMALL LETTER U WITH BREVE;CAPITAL LETTER U WITH RING ABOVE;SMALL ",
    "LETTER U WITH RING ABOVE;CAPITAL LETTER U WITH DOUBLE ACUTE;SMALL LETTER U WITH DOUBLE ",
    "ACUTE;CAPITAL LETTER U WITH OGONEK;SMALL LETTER U WITH OGONEK;CAPITAL LETTER W WITH ",
    "CIRCUMFLEX;SMALL LETTER W WITH CIRCUMFLEX;CAPITAL LETTER Y WITH CIRCUMFLEX;SMALL LETTER Y ",
    "WITH CIRCUMFLEX;CAPITAL LETTER [Y WITH DIAERESIS;Z WITH ACUTE];SMALL LETTER Z WITH ACUTE;",
    "CAPITAL LETTER Z WITH DOT ABOVE;SMALL LETTER Z WITH DOT ABOVE;CAPITAL LETTER Z WITH CARON;",
    "SMALL LETTER [Z WITH CARON;LONG S;B WITH STROKE];CAPITAL LETTER B WITH [HOOK;TOPBAR];",
    "SMALL LETTER B WITH TOPBAR;CAPITAL LETTER TONE SIX;SMALL LETTER TONE SIX;CAPITAL LETTER [",
    "OPEN O;C WITH HOOK];SMALL LETTER C WITH HOOK;CAPITAL LETTER [AFRICAN D;D WITH [HOOK;",
    "TOPBAR]];SMALL LETTER [D WITH TOPBAR;TURNED DELTA];CAPITAL LETTER [REVERSED E;SCHWA;OPEN ",
    "E;F WITH HOOK];SMALL LETTER F WITH HOOK;CAPITAL LETTER [G WITH HOOK;GAMMA];SMALL LETTER ",
    "HV;CAPITAL LETTER [IOTA;I WITH STROKE;K WITH HOOK];SMALL LETTER [K WITH HOOK;L WITH BAR;",
    "LAMBDA WITH STROKE];CAPITAL LETTER [TURNED M;N WITH LEFT HOOK];SMALL LETTER N WITH LONG ",
    "RIGHT LEG;CAPITAL LETTER O WITH [MIDDLE TILDE;HORN];SMALL LETTER O WITH HORN;CAPITAL ",
    "LETTER OI;SMALL LETTER OI;CAPITAL LETTER P WITH HOOK;SMALL LETTER P WITH HOOK;LETTER YR;",
    "CAPITAL LETTER TONE TWO;SMALL LETTER TONE TWO;CAPITAL LETTER ESH;LETTER REVERSED ESH LOOP;",
    "SMALL LETTER T WITH PALATAL HOOK;CAPITAL LETTER T WITH HOOK;SMALL LETTER T WITH HOOK;",
    "CAPITAL LETTER [T WITH RETROFLEX HOOK;U WITH HORN];SMALL LETTER U WITH HORN;CAPITAL ",
    "LETTER [UPSILON;V WITH HOOK;Y WITH HOOK];SMALL LETTER Y WITH HOOK;CAPITAL LETTER Z WITH ",
    "STROKE;SMALL LETTER Z WITH STROKE;CAPITAL LETTER [EZH;EZH REVERSED];SMALL LETTER EZH [",
    "REVERSED;WITH TAIL];LETTER TWO WITH STROKE;CAPITAL LETTER TONE FIVE;SMALL LETTER TONE ",
    "FIVE;LETTER [INVERTED GLOTTAL STOP WITH STROKE;WYNN;DENTAL CLICK;LATERAL CLICK;ALVEOLAR ",
    "CLICK;RETROFLEX CLICK];CAPITAL LETTER [DZ WITH CARON;D WITH SMALL LETTER Z WITH CARON];",
    "SMALL LETTER DZ WITH CARON;CAPITAL LETTER [LJ;L WITH SMALL LETTER J];SMALL LETTER LJ;",
    "CAPITAL LETTER [NJ;N WITH SMALL LETTER J];SMALL LETTER NJ;CAPITAL LETTER A WITH CARON;",
    "SMALL LETTER A WITH CARON;CAPITAL LETTER I WITH CARON;SMALL LETTER I WITH CARON;CAPITAL ",
    "LETTER O WITH CARON;SMALL LETTER O WITH CARON;CAPITAL LETTER U WITH CARON;SMALL LETTER U ",
    "WITH CARON;CAPITAL LETTER U WITH DIAERESIS AND MACRON;SMALL LETTER U WITH DIAERESIS AND ",
    "MACRON;CAPITAL LETTER U WITH DIAERESIS AND ACUTE;SMALL LETTER U WITH DIAERESIS AND ACUTE;",
    "CAPITAL LETTER U WITH DIAERESIS AND CARON;SMALL LETTER U WITH DIAERESIS AND CARON;CAPITAL ",
    "LETTER U WITH DIAERESIS AND GRAVE;SMALL LETTER [U WITH DIAERESIS AND GRAVE;TURNED E];",
    "CAPITAL LETTER A WITH DIAERESIS AND MACRON;SMALL LETTER A WITH DIAERESIS AND MACRON;",
    "CAPITAL LETTER A WITH DOT ABOVE AND MACRON;SMALL LETTER A WITH DOT ABOVE AND MACRON;",
    "CAPITAL LETTER AE WITH MACRON;SMALL LETTER AE WITH MACRON;CAPITAL LETTER G WITH STROKE;",
    "SMALL LETTER G WITH STROKE;CAPITAL LETTER G WITH CARON;SMALL LETTER G WITH CARON;CAPITAL ",
    "LETTER K WITH CARON;SMALL LETTER K WITH CARON;CAPITAL LETTER O WITH OGONEK;SMALL LETTER O ",
    "WITH OGONEK;CAPITAL LETTER O WITH OGONEK AND MACRON;SMALL LETTER O WITH OGONEK AND MACRON;",
    "CAPITAL LETTER EZH WITH CARON;SMALL LETTER [EZH WITH CARON;J WITH CARON];CAPITAL LETTER [",
    "DZ;D WITH SMALL LETTER Z];SMALL LETTER DZ;CAPITAL LETTER G WITH ACUTE;SMALL LETTER G WITH ",
    "ACUTE;CAPITAL LETTER [HWAIR;WYNN;N WITH GRAVE];SMALL LETTER N WITH GRAVE;CAPITAL LETTER A ",
    "WITH RING ABOVE AND ACUTE;SMALL LETTER A WITH RING ABOVE AND ACUTE;CAPITAL LETTER AE WITH ",
    "ACUTE;SMALL LETTER AE WITH ACUTE;CAPITAL LETTER O WITH STROKE AND ACUTE;SMALL LETTER O ",
    "WITH STROKE AND ACUTE;CAPITAL LETTER A WITH DOUBLE GRAVE;SMALL LETTER A WITH DOUBLE GRAVE;",
    "CAPITAL LETTER A WITH INVERTED BREVE;SMALL LETTER A WITH INVERTED BREVE;CAPITAL LETTER E ",
    "WITH DOUBLE GRAVE;SMALL LETTER E WITH DOUBLE GRAVE;CAPITAL LETTER E WITH INVERTED BREVE;",
    "SMALL LETTER E WITH INVERTED BREVE;CAPITAL LETTER I WITH DOUBLE GRAVE;SMALL LETTER I WITH ",
    "DOUBLE GRAVE;CAPITAL LETTER I WITH INVERTED BREVE;SMALL LETTER I WITH INVERTED BREVE;",
    "CAPITAL LETTER O WITH DOUBLE GRAVE;SMALL LETTER O WITH DOUBLE GRAVE;CAPITAL LETTER O WITH ",
    "INVERTED BREVE;SMALL LETTER O WITH INVERTED BREVE;CAPITAL LETTER R WITH DOUBLE GRAVE;",
    "SMALL LETTER R WITH DOUBLE GRAVE;CAPITAL LETTER R WITH INVERTED BREVE;SMALL LETTER R WITH ",
    "INVERTED BREVE;CAPITAL LETTER U WITH DOUBLE GRAVE;SMALL LETTER U WITH DOUBLE GRAVE;",
    "CAPITAL LETTER U WITH INVERTED BREVE;SMALL LETTER U WITH INVERTED BREVE;CAPITAL LETTER S ",
    "WITH COMMA BELOW;SMALL LETTER S WITH COMMA BELOW;CAPITAL LETTER T WITH COMMA BELOW;SMALL ",
    "LETTER T WITH COMMA BELOW;CAPITAL LETTER YOGH;SMALL LETTER YOGH;CAPITAL LETTER H WITH ",
    "CARON;SMALL LETTER H WITH CARON;CAPITAL LETTER N WITH LONG RIGHT LEG;SMALL LETTER D WITH ",
    "CURL;CAPITAL LETTER OU;SMALL LETTER OU;CAPITAL LETTER Z WITH HOOK;SMALL LETTER Z WITH ",
    "HOOK;CAPITAL LETTER A WITH DOT ABOVE;SMALL LETTER A WITH DOT ABOVE;CAPITAL LETTER E WITH ",
    "CEDILLA;SMALL LETTER E WITH CEDILLA;CAPITAL LETTER O WITH DIAERESIS AND MACRON;SMALL ",
    "LETTER O WITH DIAERESIS AND MACRON;CAPITAL LETTER O WITH TILDE AND MACRON;SMALL LETTER O ",
    "WITH TILDE AND MACRON;CAPITAL LETTER O WITH DOT ABOVE;SMALL LETTER O WITH DOT ABOVE;",
    "CAPITAL LETTER O WITH DOT ABOVE AND MACRON;SMALL LETTER O WITH DOT ABOVE AND MACRON;",
    "CAPITAL LETTER Y WITH MACRON;SMALL LETTER [Y WITH MACRON;L WITH CURL;N WITH CURL;T WITH ",
    "CURL;DOTLESS J;DB DIGRAPH;QP DIGRAPH];CAPITAL LETTER [A WITH STROKE;C WITH STROKE];SMALL ",
    "LETTER C WITH STROKE;CAPITAL LETTER [L WITH BAR;T WITH DIAGONAL STROKE];SMALL LETTER [S ",
    "WITH SWASH TAIL;Z WITH SWASH TAIL];CAPITAL LETTER GLOTTAL STOP;SMALL LETTER GLOTTAL STOP;",
    "CAPITAL LETTER [B WITH STROKE;U BAR;TURNED V;E WITH STROKE];SMALL LETTER E WITH STROKE;",
    "CAPITAL LETTER J WITH STROKE;SMALL LETTER J WITH STROKE;CAPITAL LETTER SMALL Q WITH HOOK ",
    "TAIL;SMALL LETTER Q WITH HOOK TAIL;CAPITAL LETTER R WITH STROKE;SMALL LETTER R WITH ",
    "STROKE;CAPITAL LETTER Y WITH STROKE;SMALL LETTER [Y WITH STROKE;TURNED A;ALPHA;TURNED ",
    "ALPHA;B WITH HOOK;OPEN O;C WITH CURL;D WITH [TAIL;HOOK];REVERSED E;SCHWA;SCHWA WITH HOOK;",
    "OPEN E;REVERSED OPEN [E;E WITH HOOK];CLOSED REVERSED OPEN E;DOTLESS J WITH STROKE;G WITH ",
    "HOOK;SCRIPT G];LETTER SMALL CAPITAL G;SMALL LETTER [GAMMA;RAMS HORN;TURNED H;H WITH HOOK;",
    "HENG WITH HOOK;I WITH STROKE;IOTA];LETTER SMALL CAPITAL I;SMALL LETTER [L WITH [MIDDLE ",
    "TILDE;BELT;RETROFLEX HOOK];LEZH;TURNED [M;M WITH LONG LEG];M WITH HOOK;N WITH [LEFT HOOK;",
    "RETROFLEX HOOK]];LETTER SMALL CAPITAL N;SMALL LETTER BARRED O;LETTER SMALL CAPITAL OE;",
    "SMALL LETTER [CLOSED OMEGA;PHI;TURNED [R;R WITH [LONG LEG;HOOK]];R WITH [LONG LEG;TAIL;",
    "FISHHOOK];REVERSED R WITH FISHHOOK];LETTER SMALL CAPITAL [R;INVERTED R];SMALL LETTER [S ",
    "WITH HOOK;ESH;DOTLESS J WITH STROKE AND HOOK;SQUAT REVERSED ESH;ESH WITH CURL;TURNED T;T ",
    "WITH RETROFLEX HOOK;U BAR;UPSILON;V WITH HOOK;TURNED [V;W;Y]];LETTER SMALL CAPITAL Y;",
    "SMALL LETTER [Z WITH [RETROFLEX HOOK;CURL];EZH;EZH WITH CURL];LETTER [GLOTTAL STOP;",
    "PHARYNGEAL VOICED FRICATIVE;INVERTED GLOTTAL STOP;STRETCHED C;BILABIAL CLICK;SMALL ",
    "CAPITAL B];SMALL LETTER CLOSED OPEN E;LETTER SMALL CAPITAL [G WITH HOOK;H];SMALL LETTER [",
    "J WITH CROSSED-TAIL;TURNED K];LETTER SMALL CAPITAL L;SMALL LETTER Q WITH HOOK;LETTER [",
    "GLOTTAL STOP WITH STROKE;REVERSED GLOTTAL STOP WITH STROKE];SMALL LETTER [DZ DIGRAPH;DEZH ",
    "DIGRAPH;DZ DIGRAPH WITH CURL;TS DIGRAPH;TESH DIGRAPH;TC DIGRAPH WITH CURL;FENG DIGRAPH;LS ",
    "DIGRAPH;LZ DIGRAPH];LETTER [BILABIAL PERCUSSIVE;BIDENTAL PERCUSSIVE];SMALL LETTER TURNED ",
    "H WITH [FISHHOOK;FISHHOOK AND TAIL]];MODIFIER LETTER [SMALL [H;H WITH HOOK;J;R;TURNED [R;",
    "R WITH HOOK];CAPITAL INVERTED R;W;Y];PRIME;DOUBLE PRIME;TURNED COMMA;APOSTROPHE;REVERSED ",
    "COMMA;RIGHT HALF RING;LEFT HALF RING;GLOTTAL STOP;REVERSED GLOTTAL STOP;LEFT ARROWHEAD;",
    "RIGHT ARROWHEAD;UP ARROWHEAD;DOWN ARROWHEAD;CIRCUMFLEX ACCENT];CARON;MODIFIER LETTER [",
    "VERTICAL LINE;MACRON;ACUTE ACCENT;GRAVE ACCENT;LOW [VERTICAL LINE;MACRON;GRAVE ACCENT;",
    "ACUTE ACCENT];TRIANGULAR COLON;HALF TRIANGULAR COLON;CENTRED [RIGHT HALF RING;LEFT HALF ",
    "RING];UP TACK;DOWN TACK;PLUS SIGN;MINUS SIGN];BREVE;DOT ABOVE;RING ABOVE;OGONEK;SMALL ",
    "TILDE;DOUBLE ACUTE ACCENT;MODIFIER LETTER [RHOTIC HOOK;CROSS ACCENT;SMALL [GAMMA;L;S;X;",
    "REVERSED GLOTTAL STOP];EXTRA-HIGH TONE BAR;HIGH TONE BAR;MID TONE BAR;LOW TONE BAR;",
    "EXTRA-LOW TONE BAR;YIN DEPARTING TONE MARK;YANG DEPARTING TONE MARK;VOICING;UNASPIRATED;",
    "DOUBLE APOSTROPHE;LOW [DOWN ARROWHEAD;UP ARROWHEAD;LEFT ARROWHEAD;RIGHT ARROWHEAD;RING];",
    "MIDDLE [GRAVE ACCENT;DOUBLE [GRAVE ACCENT;ACUTE ACCENT]];LOW TILDE;RAISED COLON;BEGIN ",
    "HIGH TONE;END HIGH TONE;BEGIN LOW TONE;END LOW TONE;SHELF;OPEN SHELF;LOW LEFT ARROW];",
    "COMBINING [GRAVE ACCENT;ACUTE ACCENT;CIRCUMFLEX ACCENT;TILDE;MACRON;OVERLINE;BREVE;DOT ",
    "ABOVE;DIAERESIS;HOOK ABOVE;RING ABOVE;DOUBLE ACUTE ACCENT;CARON;VERTICAL LINE ABOVE;",
    "DOUBLE [VERTICAL LINE ABOVE;GRAVE ACCENT];CANDRABINDU;INVERTED BREVE;TURNED COMMA ABOVE;",
    "COMMA ABOVE;REVERSED COMMA ABOVE;COMMA ABOVE RIGHT;GRAVE ACCENT BELOW;ACUTE ACCENT BELOW;",
    "LEFT TACK BELOW;RIGHT TACK BELOW;LEFT ANGLE ABOVE;HORN;LEFT HALF RING BELOW;UP TACK BELOW;",
    "DOWN TACK BELOW;PLUS SIGN BELOW;MINUS SIGN BELOW;PALATALIZED HOOK BELOW;RETROFLEX HOOK ",
    "BELOW;DOT BELOW;DIAERESIS BELOW;RING BELOW;COMMA BELOW;CEDILLA;OGONEK;VERTICAL LINE BELOW;",
    "BRIDGE BELOW;INVERTED DOUBLE ARCH BELOW;CARON BELOW;CIRCUMFLEX ACCENT BELOW;BREVE BELOW;",
    "INVERTED BREVE BELOW;TILDE BELOW;MACRON BELOW;LOW LINE;DOUBLE LOW LINE;TILDE OVERLAY;",
    "SHORT STROKE OVERLAY;LONG STROKE OVERLAY;SHORT SOLIDUS OVERLAY;LONG SOLIDUS OVERLAY;RIGHT ",
    "HALF RING BELOW;INVERTED BRIDGE BELOW;SQUARE BELOW;SEAGULL BELOW;X ABOVE;VERTICAL TILDE;",
    "DOUBLE OVERLINE;GRAVE TONE MARK;ACUTE TONE MARK;GREEK [PERISPOMENI;KORONIS;DIALYTIKA ",
    "TONOS;YPOGEGRAMMENI];BRIDGE ABOVE;EQUALS SIGN BELOW;DOUBLE VERTICAL LINE BELOW;LEFT ANGLE ",
    "BELOW;NOT TILDE ABOVE;HOMOTHETIC ABOVE;ALMOST EQUAL TO ABOVE;LEFT RIGHT ARROW BELOW;",
    "UPWARDS ARROW BELOW;GRAPHEME JOINER;RIGHT ARROWHEAD ABOVE;LEFT HALF RING ABOVE;FERMATA;X ",
    "BELOW;LEFT ARROWHEAD BELOW;RIGHT ARROWHEAD [BELOW;AND UP ARROWHEAD BELOW];RIGHT HALF RING ",
    "ABOVE;DOT ABOVE RIGHT;ASTERISK BELOW;DOUBLE RING BELOW;ZIGZAG ABOVE;DOUBLE [BREVE BELOW;",
    "BREVE;MACRON;MACRON BELOW;TILDE;INVERTED BREVE;RIGHTWARDS ARROW BELOW];LATIN SMALL LETTER ",
    "[A;E;I;O;U;C;D;H;M;R;T;V;X]];GREEK [CAPITAL LETTER HETA;SMALL LETTER HETA;CAPITAL LETTER ",
    "ARCHAIC SAMPI;SMALL LETTER ARCHAIC SAMPI;NUMERAL SIGN;LOWER NUMERAL SIGN;CAPITAL LETTER ",
    "PAMPHYLIAN DIGAMMA;SMALL LETTER PAMPHYLIAN DIGAMMA;=;=;YPOGEGRAMMENI;SMALL [REVERSED ",
    "LUNATE SIGMA SYMBOL;DOTTED LUNATE SIGMA SYMBOL;REVERSED DOTTED LUNATE SIGMA SYMBOL];",
    "QUESTION MARK;CAPITAL LETTER YOT;=;=;=;=;TONOS;DIALYTIKA TONOS;CAPITAL LETTER ALPHA WITH ",
    "TONOS;ANO TELEIA;CAPITAL LETTER [EPSILON WITH TONOS;ETA WITH TONOS;IOTA WITH TONOS;=;",
    "OMICRON WITH TONOS;=;UPSILON WITH TONOS;OMEGA WITH TONOS];SMALL LETTER IOTA WITH ",
    "DIALYTIKA AND TONOS;CAPITAL LETTER [ALPHA;BETA;GAMMA;DELTA;EPSILON;ZETA;ETA;THETA;IOTA;",
    "KAPPA;LAMDA;MU;NU;XI;OMICRON;PI;RHO;=;SIGMA;TAU;UPSILON;PHI;CHI;PSI;OMEGA;IOTA WITH ",
    "DIALYTIKA;UPSILON WITH DIALYTIKA];SMALL LETTER [ALPHA WITH TONOS;EPSILON WITH TONOS;ETA ",
    "WITH TONOS;IOTA WITH TONOS;UPSILON WITH DIALYTIKA AND TONOS;ALPHA;BETA;GAMMA;DELTA;",
    "EPSILON;ZETA;ETA;THETA;IOTA;KAPPA;LAMDA;MU;NU;XI;OMICRON;PI;RHO;FINAL SIGMA;SIGMA;TAU;",
    "UPSILON;PHI;CHI;PSI;OMEGA;IOTA WITH DIALYTIKA;UPSILON WITH DIALYTIKA;OMICRON WITH TONOS;",
    "UPSILON WITH TONOS;OMEGA WITH TONOS];CAPITAL KAI SYMBOL;BETA SYMBOL;THETA SYMBOL;UPSILON ",
    "WITH [HOOK SYMBOL;ACUTE AND HOOK SYMBOL;DIAERESIS AND HOOK SYMBOL];PHI SYMBOL;PI SYMBOL;",
    "KAI SYMBOL;LETTER ARCHAIC KOPPA;SMALL LETTER ARCHAIC KOPPA;LETTER STIGMA;SMALL LETTER ",
    "STIGMA;LETTER DIGAMMA;SMALL LETTER DIGAMMA;LETTER KOPPA;SMALL LETTER KOPPA;LETTER SAMPI;",
    "SMALL LETTER SAMPI];COPTIC [CAPITAL LETTER SHEI;SMALL LETTER SHEI;CAPITAL LETTER FEI;",
    "SMALL LETTER FEI;CAPITAL LETTER KHEI;SMALL LETTER KHEI;CAPITAL LETTER HORI;SMALL LETTER ",
    "HORI;CAPITAL LETTER GANGIA;SMALL LETTER GANGIA;CAPITAL LETTER SHIMA;SMALL LETTER SHIMA;",
    "CAPITAL LETTER DEI;SMALL LETTER DEI];GREEK [KAPPA SYMBOL;RHO SYMBOL;LUNATE SIGMA SYMBOL;",
    "LETTER YOT;CAPITAL THETA SYMBOL;LUNATE EPSILON SYMBOL;REVERSED LUNATE EPSILON SYMBOL;",
    "CAPITAL LETTER SHO;SMALL LETTER SHO;CAPITAL [LUNATE SIGMA SYMBOL;LETTER SAN];SMALL LETTER ",
    "SAN;RHO WITH STROKE SYMBOL;CAPITAL [REVERSED LUNATE SIGMA SYMBOL;DOTTED LUNATE SIGMA ",
    "SYMBOL;REVERSED DOTTED LUNATE SIGMA SYMBOL]];CYRILLIC [CAPITAL LETTER [IE WITH GRAVE;IO;",
    "DJE;GJE;UKRAINIAN IE;DZE;BYELORUSSIAN-UKRAINIAN I;YI;JE;LJE;NJE;TSHE;KJE;I WITH GRAVE;",
    "SHORT U;DZHE;A;BE;VE;GHE;DE;IE;ZHE;ZE;I;SHORT I;KA;EL;EM;EN;O;PE;ER;ES;TE;U;EF;HA;TSE;CHE;",
    "SHA;SHCHA;HARD SIGN;YERU;SOFT SIGN;E;YU;YA];SMALL LETTER [A;BE;VE;GHE;DE;IE;ZHE;ZE;I;",
    "SHORT I;KA;EL;EM;EN;O;PE;ER;ES;TE;U;EF;HA;TSE;CHE;SHA;SHCHA;HARD SIGN;YERU;SOFT SIGN;E;YU;",
    "YA;IE WITH GRAVE;IO;DJE;GJE;UKRAINIAN IE;DZE;BYELORUSSIAN-UKRAINIAN I;YI;JE;LJE;NJE;TSHE;",
    "KJE;I WITH GRAVE;SHORT U;DZHE];CAPITAL LETTER OMEGA;SMALL LETTER OMEGA;CAPITAL LETTER YAT;",
    "SMALL LETTER YAT;CAPITAL LETTER IOTIFIED E;SMALL LETTER IOTIFIED E;CAPITAL LETTER LITTLE ",
    "YUS;SMALL LETTER LITTLE YUS;CAPITAL LETTER IOTIFIED LITTLE YUS;SMALL LETTER IOTIFIED ",
    "LITTLE YUS;CAPITAL LETTER BIG YUS;SMALL LETTER BIG YUS;CAPITAL LETTER IOTIFIED BIG YUS;",
    "SMALL LETTER IOTIFIED BIG YUS;CAPITAL LETTER KSI;SMALL LETTER KSI;CAPITAL LETTER PSI;",
    "SMALL LETTER PSI;CAPITAL LETTER FITA;SMALL LETTER FITA;CAPITAL LETTER IZHITSA;SMALL ",
    "LETTER IZHITSA;CAPITAL LETTER IZHITSA WITH DOUBLE GRAVE ACCENT;SMALL LETTER IZHITSA WITH ",
    "DOUBLE GRAVE ACCENT;CAPITAL LETTER UK;SMALL LETTER UK;CAPITAL LETTER ROUND OMEGA;SMALL ",
    "LETTER ROUND OMEGA;CAPITAL LETTER OMEGA WITH TITLO;SMALL LETTER OMEGA WITH TITLO;CAPITAL ",
    "LETTER OT;SMALL LETTER OT;CAPITAL LETTER KOPPA;SMALL LETTER KOPPA;THOUSANDS SIGN];",
    "COMBINING CYRILLIC [TITLO;PALATALIZATION;DASIA PNEUMATA;PSILI PNEUMATA;POKRYTIE;HUNDRED ",
    "THOUSANDS SIGN;MILLIONS SIGN];CYRILLIC [CAPITAL LETTER SHORT I WITH TAIL;SMALL LETTER ",
    "SHORT I WITH TAIL;CAPITAL LETTER SEMISOFT SIGN;SMALL LETTER SEMISOFT SIGN;CAPITAL LETTER ",
    "ER WITH TICK;SMALL LETTER ER WITH TICK;CAPITAL LETTER GHE WITH UPTURN;SMALL LETTER GHE ",
    "WITH UPTURN;CAPITAL LETTER GHE WITH STROKE;SMALL LETTER GHE WITH STROKE;CAPITAL LETTER ",
    "GHE WITH MIDDLE HOOK;SMALL LETTER GHE WITH MIDDLE HOOK;CAPITAL LETTER ZHE WITH DESCENDER;",
    "SMALL LETTER ZHE WITH DESCENDER;CAPITAL LETTER ZE WITH DESCENDER;SMALL LETTER ZE WITH ",
    "DESCENDER;CAPITAL LETTER KA WITH DESCENDER;SMALL LETTER KA WITH DESCENDER;CAPITAL LETTER ",
    "KA WITH VERTICAL STROKE;SMALL LETTER KA WITH VERTICAL STROKE;CAPITAL LETTER KA WITH ",
    "STROKE;SMALL LETTER KA WITH STROKE;CAPITAL LETTER BASHKIR KA;SMALL LETTER BASHKIR KA;",
    "CAPITAL LETTER EN WITH DESCENDER;SMALL LETTER EN WITH DESCENDER;CAPITAL LIGATURE EN GHE;",
    "SMALL LIGATURE EN GHE;CAPITAL LETTER PE WITH MIDDLE HOOK;SMALL LETTER PE WITH MIDDLE HOOK;",
    "CAPITAL LETTER ABKHASIAN HA;SMALL LETTER ABKHASIAN HA;CAPITAL LETTER ES WITH DESCENDER;",
    "SMALL LETTER ES WITH DESCENDER;CAPITAL LETTER TE WITH DESCENDER;SMALL LETTER TE WITH ",
    "DESCENDER;CAPITAL LETTER STRAIGHT U;SMALL LETTER STRAIGHT U;CAPITAL LETTER STRAIGHT U ",
    "WITH STROKE;SMALL LETTER STRAIGHT U WITH STROKE;CAPITAL LETTER HA WITH DESCENDER;SMALL ",
    "LETTER HA WITH DESCENDER;CAPITAL LIGATURE TE TSE;SMALL LIGATURE TE TSE;CAPITAL LETTER CHE ",
    "WITH DESCENDER;SMALL LETTER CHE WITH DESCENDER;CAPITAL LETTER CHE WITH VERTICAL STROKE;",
    "SMALL LETTER CHE WITH VERTICAL STROKE;CAPITAL LETTER SHHA;SMALL LETTER SHHA;CAPITAL ",
    "LETTER ABKHASIAN CHE;SMALL LETTER ABKHASIAN CHE;CAPITAL LETTER ABKHASIAN CHE WITH ",
    "DESCENDER;SMALL LETTER ABKHASIAN CHE WITH DESCENDER;LETTER PALOCHKA;CAPITAL LETTER ZHE ",
    "WITH BREVE;SMALL LETTER ZHE WITH BREVE;CAPITAL LETTER KA WITH HOOK;SMALL LETTER KA WITH ",
    "HOOK;CAPITAL LETTER EL WITH TAIL;SMALL LETTER EL WITH TAIL;CAPITAL LETTER EN WITH HOOK;",
    "SMALL LETTER EN WITH HOOK;CAPITAL LETTER EN WITH TAIL;SMALL LETTER EN WITH TAIL;CAPITAL ",
    "LETTER KHAKASSIAN CHE;SMALL LETTER KHAKASSIAN CHE;CAPITAL LETTER EM WITH TAIL;SMALL ",
    "LETTER [EM WITH TAIL;PALOCHKA];CAPITAL LETTER A WITH BREVE;SMALL LETTER A WITH BREVE;",
    "CAPITAL LETTER A WITH DIAERESIS;SMALL LETTER A WITH DIAERESIS;CAPITAL LIGATURE A IE;SMALL ",
    "LIGATURE A IE;CAPITAL LETTER IE WITH BREVE;SMALL LETTER IE WITH BREVE;CAPITAL LETTER ",
    "SCHWA;SMALL LETTER SCHWA;CAPITAL LETTER SCHWA WITH DIAERESIS;SMALL LETTER SCHWA WITH ",
    "DIAERESIS;CAPITAL LETTER ZHE WITH DIAERESIS;SMALL LETTER ZHE WITH DIAERESIS;CAPITAL ",
    "LETTER ZE WITH DIAERESIS;SMALL LETTER ZE WITH DIAERESIS;CAPITAL LETTER ABKHASIAN DZE;",
    "SMALL LETTER ABKHASIAN DZE;CAPITAL LETTER I WITH MACRON;SMALL LETTER I WITH MACRON;",
    "CAPITAL LETTER I WITH DIAERESIS;SMALL LETTER I WITH DIAERESIS;CAPITAL LETTER O WITH ",
    "DIAERESIS;SMALL LETTER O WITH DIAERESIS;CAPITAL LETTER BARRED O;SMALL LETTER BARRED O;",
    "CAPITAL LETTER BARRED O WITH DIAERESIS;SMALL LETTER BARRED O WITH DIAERESIS;CAPITAL ",
    "LETTER E WITH DIAERESIS;SMALL LETTER E WITH DIAERESIS;CAPITAL LETTER U WITH MACRON;SMALL ",
    "LETTER U WITH MACRON;CAPITAL LETTER U WITH DIAERESIS;SMALL LETTER U WITH DIAERESIS;",
    "CAPITAL LETTER U WITH DOUBLE ACUTE;SMALL LETTER U WITH DOUBLE ACUTE;CAPITAL LETTER CHE ",
    "WITH DIAERESIS;SMALL LETTER CHE WITH DIAERESIS;CAPITAL LETTER GHE WITH DESCENDER;SMALL ",
    "LETTER GHE WITH DESCENDER;CAPITAL LETTER YERU WITH DIAERESIS;SMALL LETTER YERU WITH ",
    "DIAERESIS;CAPITAL LETTER GHE WITH STROKE AND HOOK;SMALL LETTER GHE WITH STROKE AND HOOK;",
    "CAPITAL LETTER HA WITH HOOK;SMALL LETTER HA WITH HOOK;CAPITAL LETTER HA WITH STROKE;SMALL ",
    "LETTER HA WITH STROKE;CAPITAL LETTER KOMI DE;SMALL LETTER KOMI DE;CAPITAL LETTER KOMI DJE;",
    "SMALL LETTER KOMI DJE;CAPITAL LETTER KOMI ZJE;SMALL LETTER KOMI ZJE;CAPITAL LETTER KOMI ",
    "DZJE;SMALL LETTER KOMI DZJE;CAPITAL LETTER KOMI LJE;SMALL LETTER KOMI LJE;CAPITAL LETTER ",
    "KOMI NJE;SMALL LETTER KOMI NJE;CAPITAL LETTER KOMI SJE;SMALL LETTER KOMI SJE;CAPITAL ",
    "LETTER KOMI TJE;SMALL LETTER KOMI TJE;CAPITAL LETTER REVERSED ZE;SMALL LETTER REVERSED ZE;",
    "CAPITAL LETTER EL WITH HOOK;SMALL LETTER EL WITH HOOK;CAPITAL LETTER LHA;SMALL LETTER LHA;",
    "CAPITAL LETTER RHA;SMALL LETTER RHA;CAPITAL LETTER YAE;SMALL LETTER YAE;CAPITAL LETTER QA;",
    "SMALL LETTER QA;CAPITAL LETTER WE;SMALL LETTER WE;CAPITAL LETTER ALEUT KA;SMALL LETTER ",
    "ALEUT KA;CAPITAL LETTER EL WITH MIDDLE HOOK;SMALL LETTER EL WITH MIDDLE HOOK;CAPITAL ",
    "LETTER EN WITH MIDDLE HOOK;SMALL LETTER EN WITH MIDDLE HOOK;CAPITAL LETTER PE WITH ",
    "DESCENDER;SMALL LETTER PE WITH DESCENDER;CAPITAL LETTER SHHA WITH DESCENDER;SMALL LETTER ",
    "SHHA WITH DESCENDER;CAPITAL LETTER EN WITH LEFT HOOK;SMALL LETTER EN WITH LEFT HOOK;",
    "CAPITAL LETTER DZZHE;SMALL LETTER DZZHE;CAPITAL LETTER DCHE;SMALL LETTER DCHE;CAPITAL ",
    "LETTER EL WITH DESCENDER;SMALL LETTER EL WITH DESCENDER];=;ARMENIAN CAPITAL LETTER [AYB;",
    "BEN;GIM;DA;ECH;ZA;EH;ET;TO;ZHE;INI;LIWN;XEH;CA;KEN;HO;JA;GHAD;CHEH;MEN;YI;NOW;SHA;VO;CHA;",
    "PEH;JHEH;RA;SEH;VEW;TIWN;REH;CO;YIWN;PIWR;KEH;OH;FEH];=;=;ARMENIAN [MODIFIER LETTER LEFT ",
    "HALF RING;APOSTROPHE;EMPHASIS MARK;EXCLAMATION MARK;COMMA;QUESTION MARK;ABBREVIATION MARK;",
    "SMALL LETTER [TURNED AYB;AYB;BEN;GIM;DA;ECH;ZA;EH;ET;TO;ZHE;INI;LIWN;XEH;CA;KEN;HO;JA;",
    "GHAD;CHEH;MEN;YI;NOW;SHA;VO;CHA;PEH;JHEH;RA;SEH;VEW;TIWN;REH;CO;YIWN;PIWR;KEH;OH;FEH];",
    "SMALL [LIGATURE ECH YIWN;LETTER YI WITH STROKE];FULL STOP;HYPHEN];=;=;RIGHT-FACING ",
    "ARMENIAN ETERNITY SIGN;LEFT-FACING ARMENIAN ETERNITY SIGN;ARMENIAN DRAM SIGN;=;HEBREW ",
    "ACCENT [ETNAHTA;SEGOL;SHALSHELET;ZAQEF [QATAN;GADOL];TIPEHA;REVIA;ZARQA;PASHTA;YETIV;",
    "TEVIR;GERESH;GERESH MUQDAM;GERSHAYIM;QARNEY PARA;TELISHA GEDOLA;PAZER;ATNAH HAFUKH;MUNAH;",
    "MAHAPAKH;MERKHA;MERKHA KEFULA;DARGA;QADMA;TELISHA QETANA;YERAH BEN YOMO;OLE;ILUY;DEHI;",
    "ZINOR];HEBREW [MARK MASORA CIRCLE;POINT [SHEVA;HATAF [SEGOL;PATAH;QAMATS];HIRIQ;TSERE;",
    "SEGOL;PATAH;QAMATS;HOLAM;HOLAM HASER FOR VAV;QUBUTS;DAGESH OR MAPIQ;METEG];PUNCTUATION ",
    "MAQAF;POINT RAFE;PUNCTUATION PASEQ;POINT [SHIN DOT;SIN DOT];PUNCTUATION SOF PASUQ;MARK [",
    "UPPER DOT;LOWER DOT];PUNCTUATION NUN HAFUKHA;POINT QAMATS QATAN]"]),
  (0x5d0, ["HEBREW LETTER [ALEF;BET;GIMEL;DALET;HE;VAV;ZAYIN;HET;TET;YOD;FINAL KAF;KAF;LAMED;",
    "FINAL MEM;MEM;FINAL NUN;NUN;SAMEKH;AYIN;FINAL PE;PE;FINAL TSADI;TSADI;QOF;RESH;SHIN;TAV];",
    "=;=;=;=;HEBREW [YOD TRIANGLE;LIGATURE YIDDISH [DOUBLE VAV;VAV YOD;DOUBLE YOD];PUNCTUATION ",
    "[GERESH;GERSHAYIM]]"]),
  (0x600, ["ARABIC [NUMBER SIGN;SIGN SANAH;FOOTNOTE MARKER;SIGN [SAFHA;SAMVAT];NUMBER MARK ",
    "ABOVE];ARABIC-INDIC [CUBE ROOT;FOURTH ROOT];ARABIC RAY;ARABIC-INDIC PER [MILLE SIGN;TEN ",
    "THOUSAND SIGN];AFGHANI SIGN;ARABIC [COMMA;DATE SEPARATOR;POETIC VERSE SIGN;SIGN [MISRA;",
    "SALLALLAHOU ALAYHE WASSALLAM;ALAYHE ASSALLAM;RAHMATULLAH ALAYHE;RADI ALLAHOU ANHU;",
    "TAKHALLUS];SMALL [HIGH [TAH;LIGATURE ALEF WITH LAM WITH YEH;ZAIN];FATHA;DAMMA;KASRA];",
    "SEMICOLON;LETTER MARK;END OF TEXT MARK;TRIPLE DOT PUNCTUATION MARK;QUESTION MARK;LETTER [",
    "KASHMIRI YEH;HAMZA;ALEF WITH [MADDA ABOVE;HAMZA ABOVE];WAW WITH HAMZA ABOVE;ALEF WITH ",
    "HAMZA BELOW;YEH WITH HAMZA ABOVE;ALEF;BEH;TEH MARBUTA;TEH;THEH;JEEM;HAH;KHAH;DAL;THAL;REH;",
    "ZAIN;SEEN;SHEEN;SAD;DAD;TAH;ZAH;AIN;GHAIN;KEHEH WITH [TWO DOTS ABOVE;THREE DOTS BELOW];",
    "FARSI YEH WITH [INVERTED V;TWO DOTS ABOVE;THREE DOTS ABOVE]];TATWEEL;LETTER [FEH;QAF;KAF;",
    "LAM;MEEM;NOON;HEH;WAW;ALEF MAKSURA;YEH];FATHATAN;DAMMATAN;KASRATAN;FATHA;DAMMA;KASRA;",
    "SHADDA;SUKUN;MADDAH ABOVE;HAMZA [ABOVE;BELOW];SUBSCRIPT ALEF;INVERTED DAMMA;MARK NOON ",
    "GHUNNA;ZWARAKAY;VOWEL SIGN [SMALL V ABOVE;INVERTED SMALL V ABOVE;DOT BELOW];REVERSED ",
    "DAMMA;FATHA WITH TWO DOTS;WAVY HAMZA BELOW];ARABIC-INDIC DIGIT [ZERO;ONE;TWO;THREE;FOUR;",
    "FIVE;SIX;SEVEN;EIGHT;NINE];ARABIC [PERCENT SIGN;DECIMAL SEPARATOR;THOUSANDS SEPARATOR;",
    "FIVE POINTED STAR;LETTER [DOTLESS [BEH;QAF];SUPERSCRIPT ALEF;ALEF [WASLA;WITH WAVY HAMZA [",
    "ABOVE;BELOW]];HIGH [HAMZA;HAMZA [ALEF;WAW]];U WITH HAMZA ABOVE;HIGH HAMZA YEH;TTEH;TTEHEH;",
    "BEEH;TEH WITH [RING;THREE DOTS ABOVE DOWNWARDS];PEH;TEHEH;BEHEH;HAH WITH [HAMZA ABOVE;TWO ",
    "DOTS VERTICAL ABOVE];NYEH;DYEH;HAH WITH THREE DOTS ABOVE;TCHEH;TCHEHEH;DDAL;DAL WITH [",
    "RING;DOT [BELOW;BELOW AND SMALL TAH]];DAHAL;DDAHAL;DUL;DAL WITH [THREE DOTS ABOVE ",
    "DOWNWARDS;FOUR DOTS ABOVE];RREH;REH WITH [SMALL V;RING;DOT BELOW;SMALL V BELOW;DOT BELOW ",
    "AND DOT ABOVE;TWO DOTS ABOVE];JEH;REH WITH FOUR DOTS ABOVE;SEEN WITH [DOT BELOW AND DOT ",
    "ABOVE;THREE DOTS [BELOW;BELOW AND THREE DOTS ABOVE]];SAD WITH [TWO DOTS BELOW;THREE DOTS ",
    "ABOVE];TAH WITH THREE DOTS ABOVE;AIN WITH THREE DOTS ABOVE;DOTLESS FEH;FEH WITH DOT [",
    "MOVED BELOW;BELOW];VEH;FEH WITH THREE DOTS BELOW;PEHEH;QAF WITH [DOT ABOVE;THREE DOTS ",
    "ABOVE];KEHEH;SWASH KAF;KAF WITH [RING;DOT ABOVE];NG;KAF WITH THREE DOTS BELOW;GAF;GAF ",
    "WITH RING;NGOEH;GAF WITH TWO DOTS BELOW;GUEH;GAF WITH THREE DOTS ABOVE;LAM WITH [SMALL V;",
    "DOT ABOVE;THREE DOTS [ABOVE;BELOW]];NOON [WITH DOT BELOW;GHUNNA];RNOON;NOON WITH [RING;",
    "THREE DOTS ABOVE];HEH DOACHASHMEE;TCHEH WITH DOT ABOVE;HEH [WITH YEH ABOVE;GOAL;GOAL WITH ",
    "HAMZA ABOVE];TEH MARBUTA GOAL;WAW WITH RING;KIRGHIZ OE;OE;U;YU;KIRGHIZ YU;WAW WITH TWO ",
    "DOTS ABOVE;VE;FARSI YEH;YEH WITH [TAIL;SMALL V];WAW WITH DOT ABOVE;E;YEH [WITH THREE DOTS ",
    "BELOW;BARREE;BARREE WITH HAMZA ABOVE]];FULL STOP;LETTER AE;SMALL HIGH [LIGATURE [SAD WITH ",
    "LAM WITH ALEF MAKSURA;QAF WITH LAM WITH ALEF MAKSURA];MEEM INITIAL FORM;LAM ALEF;JEEM;",
    "THREE DOTS;SEEN];END OF AYAH;START OF RUB EL HIZB;SMALL [HIGH [ROUNDED ZERO;UPRIGHT ",
    "RECTANGULAR ZERO;DOTLESS HEAD OF KHAH;MEEM ISOLATED FORM];LOW SEEN;HIGH MADDA;WAW;YEH;",
    "HIGH [YEH;NOON]];PLACE OF SAJDAH;EMPTY CENTRE [LOW STOP;HIGH STOP];ROUNDED HIGH STOP WITH ",
    "FILLED CENTRE;SMALL LOW MEEM;LETTER [DAL WITH INVERTED V;REH WITH INVERTED V]];EXTENDED ",
    "ARABIC-INDIC DIGIT [ZERO;ONE;TWO;THREE;FOUR;FIVE;SIX;SEVEN;EIGHT;NINE];ARABIC [LETTER [",
    "SHEEN WITH DOT BELOW;DAD WITH DOT BELOW;GHAIN WITH DOT BELOW];SIGN SINDHI [AMPERSAND;",
    "POSTPOSITION MEN];LETTER HEH WITH INVERTED V];SYRIAC [END OF PARAGRAPH;SUPRALINEAR FULL ",
    "STOP;SUBLINEAR FULL STOP;SUPRALINEAR COLON;SUBLINEAR COLON;HORIZONTAL COLON;COLON SKEWED [",
    "LEFT;RIGHT];SUPRALINEAR COLON SKEWED LEFT;SUBLINEAR COLON SKEWED RIGHT;CONTRACTION;",
    "HARKLEAN [OBELUS;METOBELUS;ASTERISCUS];=;ABBREVIATION MARK;LETTER [ALAPH;SUPERSCRIPT ",
    "ALAPH;BETH;GAMAL;GAMAL GARSHUNI;DALATH;DOTLESS DALATH RISH;HE;WAW;ZAIN;HETH;TETH;TETH ",
    "GARSHUNI;YUDH;YUDH HE;KAPH;LAMADH;MIM;NUN;SEMKATH;FINAL SEMKATH;E;PE;REVERSED PE;SADHE;",
    "QAPH;RISH;SHIN;TAW;PERSIAN [BHETH;GHAMAL;DHALATH]];PTHAHA [ABOVE;BELOW;DOTTED];ZQAPHA [",
    "ABOVE;BELOW;DOTTED];RBASA [ABOVE;BELOW];DOTTED ZLAMA [HORIZONTAL;ANGULAR];HBASA [ABOVE;",
    "BELOW];HBASA-ESASA DOTTED;ESASA [ABOVE;BELOW];RWAHA;FEMININE DOT;QUSHSHAYA;RUKKAKHA;TWO ",
    "VERTICAL DOTS [ABOVE;BELOW];THREE DOTS [ABOVE;BELOW];OBLIQUE LINE [ABOVE;BELOW];MUSIC;",
    "BARREKH;=;=;LETTER SOGDIAN [ZHAIN;KHAPH;FE]];ARABIC LETTER [BEH WITH [THREE DOTS ",
    "HORIZONTALLY BELOW;DOT BELOW AND THREE DOTS ABOVE;THREE DOTS POINTING UPWARDS [BELOW;",
    "BELOW AND TWO DOTS ABOVE];TWO DOTS BELOW AND DOT ABOVE;INVERTED SMALL V BELOW;SMALL V];",
    "HAH WITH [TWO DOTS ABOVE;THREE DOTS POINTING UPWARDS BELOW];DAL WITH [TWO DOTS VERTICALLY ",
    "BELOW AND SMALL TAH;INVERTED SMALL V BELOW];REH WITH STROKE;SEEN WITH FOUR DOTS ABOVE;AIN ",
    "WITH [TWO DOTS ABOVE;THREE DOTS POINTING DOWNWARDS ABOVE;TWO DOTS VERTICALLY ABOVE];FEH ",
    "WITH [TWO DOTS BELOW;THREE DOTS POINTING UPWARDS BELOW];KEHEH WITH [DOT ABOVE;THREE DOTS [",
    "ABOVE;POINTING UPWARDS BELOW]];MEEM WITH DOT [ABOVE;BELOW];NOON WITH [TWO DOTS BELOW;",
    "SMALL [TAH;V]];LAM WITH BAR;REH WITH [TWO DOTS VERTICALLY ABOVE;HAMZA ABOVE];SEEN WITH ",
    "TWO DOTS VERTICALLY ABOVE;HAH WITH SMALL ARABIC LETTER TAH [BELOW;AND TWO DOTS];SEEN WITH ",
    "SMALL ARABIC LETTER TAH AND TWO DOTS;REH WITH SMALL ARABIC LETTER TAH AND TWO DOTS;HAH ",
    "WITH SMALL ARABIC LETTER TAH ABOVE;ALEF WITH EXTENDED ARABIC-INDIC DIGIT [TWO ABOVE;THREE ",
    "ABOVE];FARSI YEH WITH EXTENDED ARABIC-INDIC DIGIT [TWO ABOVE;THREE ABOVE;FOUR BELOW];WAW ",
    "WITH EXTENDED ARABIC-INDIC DIGIT [TWO ABOVE;THREE ABOVE];YEH BARREE WITH EXTENDED ",
    "ARABIC-INDIC DIGIT [TWO ABOVE;THREE ABOVE];HAH WITH EXTENDED ARABIC-INDIC DIGIT FOUR ",
    "BELOW;SEEN WITH [EXTENDED ARABIC-INDIC DIGIT FOUR ABOVE;INVERTED V];KAF WITH TWO DOTS ",
    "ABOVE];THAANA LETTER [HAA;SHAVIYANI;NOONU;RAA;BAA;LHAVIYANI;KAAFU;ALIFU;VAAVU;MEEMU;FAAFU;",
    "DHAALU;THAA;LAAMU;GAAFU;GNAVIYANI;SEENU;DAVIYANI;ZAVIYANI;TAVIYANI;YAA;PAVIYANI;JAVIYANI;",
    "CHAVIYANI;TTAA;HHAA;KHAA;THAALU;ZAA;SHEENU;SAADHU;DAADHU;TO;ZO;AINU;GHAINU;QAAFU;WAAVU];",
    "THAANA [ABAFILI;AABAAFILI;IBIFILI;EEBEEFILI;UBUFILI;OOBOOFILI;EBEFILI;EYBEYFILI;OBOFILI;",
    "OABOAFILI;SUKUN;LETTER NAA]"]),
  (0x7c0, ["NKO [DIGIT [ZERO;ONE;TWO;THREE;FOUR;FIVE;SIX;SEVEN;EIGHT;NINE];LETTER [A;EE;I;E;U;",
    "OO;O;DAGBASINNA;N;BA;PA;TA;JA;CHA;DA;RA;RRA;SA;GBA;FA;KA;LA;NA WOLOSO;MA;NYA;NA;HA;WA;YA;",
    "NYA WOLOSO;JONA [JA;CHA;RA]];COMBINING [SHORT [HIGH TONE;LOW TONE;RISING TONE];LONG [",
    "DESCENDING TONE;HIGH TONE;LOW TONE;RISING TONE];NASALIZATION MARK;DOUBLE DOT ABOVE];HIGH ",
    "TONE APOSTROPHE;LOW TONE APOSTROPHE;SYMBOL [OO DENNEN;GBAKURUNEN];COMMA;EXCLAMATION MARK;",
    "LAJANYALAN;=;=;DANTAYALAN;DOROME SIGN;TAMAN SIGN];SAMARITAN [LETTER [ALAF;BIT;GAMAN;DALAT;",
    "IY;BAA;ZEN;IT;TIT;YUT;KAAF;LABAT;MIM;NUN;SINGAAT;IN;FI;TSAADIY;QUF;RISH;SHAN;TAAF];MARK [",
    "IN;IN-ALAF;OCCLUSION;DAGESH];MODIFIER LETTER EPENTHETIC YUT;MARK EPENTHETIC YUT;VOWEL ",
    "SIGN [LONG E;E;OVERLONG AA;LONG AA;AA;OVERLONG A;LONG A;A];MODIFIER LETTER SHORT A;VOWEL ",
    "SIGN [SHORT A;LONG U;U];MODIFIER LETTER I;VOWEL SIGN [LONG I;I;O;SUKUN];MARK NEQUDAA;=;=;",
    "PUNCTUATION [NEQUDAA;AFSAAQ;ANGED;BAU;ATMAAU;SHIYYAALAA];ABBREVIATION MARK;PUNCTUATION [",
    "MELODIC QITSA;ZIQAA;QITSA;ZAEF;TURU;ARKAANU;SOF MASHFAAT;ANNAAU]];=;MANDAIC LETTER [HALQA;",
    "AB;AG;AD;AH;USHENNA;AZ;IT;ATT;AKSA;AK;AL;AM;AN;AS;IN;AP;ASZ;AQ;AR;ASH;AT;DUSHENNA;KAD;",
    "AIN];MANDAIC [AFFRICATION MARK;VOCALIZATION MARK;GEMINATION MARK;=;=;PUNCTUATION];=;",
    "SYRIAC LETTER MALAYALAM [NGA;JA;NYA;TTA;NNA;NNNA;BHA;RA;LLA;LLLA;SSA];=;=;=;=;=;ARABIC ",
    "LETTER ALEF WITH [ATTACHED [FATHA;TOP RIGHT FATHA];RIGHT MIDDLE STROKE;LEFT MIDDLE STROKE;",
    "ATTACHED [KASRA;BOTTOM RIGHT KASRA;ROUND DOT ABOVE;RIGHT ROUND DOT;LEFT ROUND DOT;ROUND ",
    "DOT BELOW];DOT ABOVE;ATTACHED TOP RIGHT FATHA AND DOT ABOVE;RIGHT MIDDLE STROKE AND DOT ",
    "ABOVE;ATTACHED [BOTTOM RIGHT KASRA AND DOT ABOVE;TOP RIGHT FATHA AND LEFT RING];RIGHT ",
    "MIDDLE STROKE AND LEFT RING;ATTACHED [BOTTOM RIGHT KASRA AND LEFT RING;RIGHT HAMZA;LEFT ",
    "HAMZA]];ARABIC [TATWEEL WITH [OVERSTRUCK [HAMZA;WAW];TWO DOTS BELOW];LETTER THIN YEH;",
    "BASELINE ROUND DOT;RAISED ROUND DOT;LETTER [NOON WITH INVERTED SMALL V;HAH WITH INVERTED ",
    "SMALL V BELOW;TAH WITH [DOT BELOW;THREE DOTS BELOW];KEHEH WITH TWO DOTS VERTICALLY BELOW];",
    "VERTICAL TAIL;=;POUND MARK ABOVE;PIASTRE MARK ABOVE]"]),
  (0x898, ["ARABIC [SMALL [HIGH WORD AL-JUZ;LOW WORD [ISHMAAM;IMAALA;TASHEEL]];MADDA WAAJIB;",
    "SUPERSCRIPT ALEF MOKHASSAS;DOUBLED MADDA;HALF MADDA OVER MADDA;LETTER [BEH WITH [SMALL V ",
    "BELOW;HAMZA ABOVE];JEEM WITH TWO DOTS ABOVE;TAH WITH TWO DOTS ABOVE;FEH WITH DOT BELOW ",
    "AND THREE DOTS ABOVE;QAF WITH DOT BELOW;LAM WITH DOUBLE BAR;MEEM WITH THREE DOTS ABOVE;",
    "YEH WITH TWO DOTS BELOW AND [HAMZA ABOVE;DOT ABOVE];REH WITH LOOP;WAW WITH DOT WITHIN;",
    "ROHINGYA YEH;LOW ALEF;DAL WITH THREE DOTS BELOW;SAD WITH THREE DOTS BELOW;GAF WITH ",
    "INVERTED STROKE;STRAIGHT WAW;ZAIN WITH INVERTED V ABOVE;AIN WITH THREE DOTS BELOW;KAF ",
    "WITH DOT BELOW;QAF WITH DOT BELOW AND NO DOTS ABOVE;BEH WITH SMALL MEEM ABOVE;PEH WITH ",
    "SMALL MEEM ABOVE;TEH WITH SMALL TEH ABOVE;REH WITH SMALL NOON ABOVE;YEH WITH TWO DOTS ",
    "BELOW AND SMALL NOON ABOVE;AFRICAN [FEH;QAF;NOON];PEH WITH SMALL V;TEH WITH SMALL V;TTEH ",
    "WITH SMALL V;TCHEH WITH SMALL V;KEHEH WITH SMALL V;GHAIN WITH THREE DOTS ABOVE;AFRICAN ",
    "QAF WITH THREE DOTS ABOVE;JEEM WITH THREE DOTS [ABOVE;BELOW];LAM WITH SMALL ARABIC LETTER ",
    "TAH ABOVE;GRAF];SMALL [FARSI YEH;HIGH [FARSI YEH;YEH BARREE WITH TWO DOTS BELOW;WORD SAH;",
    "ZAH]];LARGE ROUND DOT [ABOVE;BELOW];SUKUN BELOW;LARGE [CIRCLE BELOW;ROUND DOT INSIDE ",
    "CIRCLE BELOW];SMALL [LOW WAW;HIGH [WORD AR-RUB;SAD;AIN;QAF;NOON WITH KASRA];LOW NOON WITH ",
    "KASRA;HIGH WORD [ATH-THALATHA;AS-SAJDA;AN-NISF;SAKTA;QIF;WAQFA];HIGH [FOOTNOTE MARKER;",
    "SIGN SAFHA]];DISPUTED END OF AYAH;TURNED DAMMA BELOW;CURLY [FATHA;DAMMA;KASRA;FATHATAN;",
    "DAMMATAN;KASRATAN];TONE [ONE DOT ABOVE;TWO DOTS ABOVE;LOOP ABOVE;ONE DOT BELOW;TWO DOTS ",
    "BELOW;LOOP BELOW];OPEN [FATHATAN;DAMMATAN;KASRATAN];SMALL HIGH WAW;FATHA WITH [RING;DOT ",
    "ABOVE];KASRA WITH DOT BELOW;LEFT ARROWHEAD ABOVE;RIGHT ARROWHEAD ABOVE;LEFT ARROWHEAD ",
    "BELOW;RIGHT ARROWHEAD BELOW;DOUBLE RIGHT ARROWHEAD [ABOVE;ABOVE WITH DOT];RIGHT ARROWHEAD ",
    "ABOVE WITH DOT;DAMMA WITH DOT;MARK SIDEWAYS NOON GHUNNA];DEVANAGARI [SIGN [INVERTED ",
    "CANDRABINDU;CANDRABINDU;ANUSVARA;VISARGA];LETTER [SHORT A;A;AA;I;II;U;UU;VOCALIC [R;L];",
    "CANDRA E;SHORT E;E;AI;CANDRA O;SHORT O;O;AU;KA;KHA;GA;GHA;NGA;CA;CHA;JA;JHA;NYA;TTA;TTHA;",
    "DDA;DDHA;NNA;TA;THA;DA;DHA;NA;NNNA;PA;PHA;BA;BHA;MA;YA;RA;RRA;LA;LLA;LLLA;VA;SHA;SSA;SA;",
    "HA];VOWEL SIGN [OE;OOE];SIGN [NUKTA;AVAGRAHA];VOWEL SIGN [AA;I;II;U;UU;VOCALIC [R;RR];",
    "CANDRA E;SHORT E;E;AI;CANDRA O;SHORT O;O;AU];SIGN VIRAMA;VOWEL SIGN [PRISHTHAMATRA E;AW];",
    "OM;STRESS SIGN [UDATTA;ANUDATTA];GRAVE ACCENT;ACUTE ACCENT;VOWEL SIGN [CANDRA LONG E;UE;",
    "UUE];LETTER [QA;KHHA;GHHA;ZA;DDDHA;RHA;FA;YYA;VOCALIC [RR;LL]];VOWEL SIGN VOCALIC [L;LL];",
    "DANDA;DOUBLE DANDA;DIGIT [ZERO;ONE;TWO;THREE;FOUR;FIVE;SIX;SEVEN;EIGHT;NINE];ABBREVIATION ",
    "SIGN;SIGN HIGH SPACING DOT;LETTER [CANDRA A;OE;OOE;AW;UE;UUE;MARWARI DDA;ZHA;HEAVY YA;GGA;",
    "JJA;GLOTTAL STOP;DDDA;BBA]];BENGALI [ANJI;SIGN [CANDRABINDU;ANUSVARA;VISARGA];=;LETTER [A;",
    "AA;I;II;U;UU;VOCALIC [R;L];=;=;E;AI;=;=;O;AU;KA;KHA;GA;GHA;NGA;CA;CHA;JA;JHA;NYA;TTA;TTHA;",
    "DDA;DDHA;NNA;TA;THA;DA;DHA;NA;=;PA;PHA;BA;BHA;MA;YA;RA;=;LA;=;=;=;SHA;SSA;SA;HA];=;=;SIGN ",
    "[NUKTA;AVAGRAHA];VOWEL SIGN [AA;I;II;U;UU;VOCALIC [R;RR];=;=;E;AI;=;=;O;AU];SIGN VIRAMA;",
    "LETTER KHANDA TA]"]),
  (0x9d7, ["BENGALI [AU LENGTH MARK;=;=;=;=;LETTER [RRA;RHA;=;YYA;VOCALIC [RR;LL]];VOWEL SIGN ",
    "VOCALIC [L;LL];=;=;DIGIT [ZERO;ONE;TWO;THREE;FOUR;FIVE;SIX;SEVEN;EIGHT;NINE];LETTER RA ",
    "WITH [MIDDLE DIAGONAL;LOWER DIAGONAL];RUPEE [MARK;SIGN];CURRENCY NUMERATOR [ONE;TWO;THREE;",
    "FOUR;ONE LESS THAN THE DENOMINATOR];CURRENCY DENOMINATOR SIXTEEN;ISSHAR;GANDA MARK;LETTER ",
    "VEDIC ANUSVARA;ABBREVIATION SIGN;SANDHI MARK];=;=;GURMUKHI [SIGN [ADAK BINDI;BINDI;",
    "VISARGA];=;LETTER [A;AA;I;II;U;UU;=;=;=;=;EE;AI;=;=;OO;AU;KA;KHA;GA;GHA;NGA;CA;CHA;JA;JHA;",
    "NYA;TTA;TTHA;DDA;DDHA;NNA;TA;THA;DA;DHA;NA;=;PA;PHA;BA;BHA;MA;YA;RA;=;LA;LLA;=;VA;SHA;=;",
    "SA;HA];=;=;SIGN NUKTA;=;VOWEL SIGN [AA;I;II;U;UU;=;=;=;=;EE;AI;=;=;OO;AU];SIGN [VIRAMA;=;",
    "=;=;UDAAT]]"]),
  (0xa59, ["GURMUKHI LETTER [KHHA;GHHA;ZA;RRA;=;FA]"]),
  (0xa66, ["GURMUKHI [DIGIT [ZERO;ONE;TWO;THREE;FOUR;FIVE;SIX;SEVEN;EIGHT;NINE];TIPPI;ADDAK;",
    "IRI;URA;EK ONKAR;SIGN YAKASH;ABBREVIATION SIGN]"]),
  (0xa81, ["GUJARATI [SIGN [CANDRABINDU;ANUSVARA;VISARGA];=;LETTER [A;AA;I;II;U;UU;VOCALIC [R;",
    "L]];VOWEL CANDRA E;=;LETTER [E;AI];VOWEL CANDRA O;=;LETTER [O;AU;KA;KHA;GA;GHA;NGA;CA;CHA;",
    "JA;JHA;NYA;TTA;TTHA;DDA;DDHA;NNA;TA;THA;DA;DHA;NA;=;PA;PHA;BA;BHA;MA;YA;RA;=;LA;LLA;=;VA;",
    "SHA;SSA;SA;HA];=;=;SIGN [NUKTA;AVAGRAHA];VOWEL SIGN [AA;I;II;U;UU;VOCALIC [R;RR];CANDRA E;",
    "=;E;AI;CANDRA O;=;O;AU];SIGN VIRAMA;=;=;OM]"]),
  (0xae0, ["GUJARATI [LETTER VOCALIC [RR;LL];VOWEL SIGN VOCALIC [L;LL];=;=;DIGIT [ZERO;ONE;TWO;",
    "THREE;FOUR;FIVE;SIX;SEVEN;EIGHT;NINE];ABBREVIATION SIGN;RUPEE SIGN]"]),
  (0xaf9, ["GUJARATI [LETTER ZHA;SIGN [SUKUN;SHADDA;MADDAH;THREE-DOT NUKTA ABOVE;CIRCLE NUKTA ",
    "ABOVE;TWO-CIRCLE NUKTA ABOVE]];=;ORIYA [SIGN [CANDRABINDU;ANUSVARA;VISARGA];=;LETTER [A;",
    "AA;I;II;U;UU;VOCALIC [R;L];=;=;E;AI;=;=;O;AU;KA;KHA;GA;GHA;NGA;CA;CHA;JA;JHA;NYA;TTA;TTHA;",
    "DDA;DDHA;NNA;TA;THA;DA;DHA;NA;=;PA;PHA;BA;BHA;MA;YA;RA;=;LA;LLA;=;VA;SHA;SSA;SA;HA];=;=;",
    "SIGN [NUKTA;AVAGRAHA];VOWEL SIGN [AA;I;II;U;UU;VOCALIC [R;RR];=;=;E;AI;=;=;O;AU];SIGN ",
    "VIRAMA]"]),
  (0xb55, ["ORIYA [SIGN OVERLINE;AI LENGTH MARK;AU LENGTH MARK;=;=;=;=;LETTER [RRA;RHA;=;YYA;",
    "VOCALIC [RR;LL]];VOWEL SIGN VOCALIC [L;LL];=;=;DIGIT [ZERO;ONE;TWO;THREE;FOUR;FIVE;SIX;",
    "SEVEN;EIGHT;NINE];ISSHAR;LETTER WA;FRACTION [ONE [QUARTER;HALF];THREE QUARTERS;ONE [",
    "SIXTEENTH;EIGHTH];THREE SIXTEENTHS]]"]),
  (0xb82, ["TAMIL [SIGN [ANUSVARA;VISARGA];=;LETTER [A;AA;I;II;U;UU;=;=;=;E;EE;AI;=;O;OO;AU;KA;",
    "=;=;=;NGA;CA;=;JA;=;NYA;TTA;=;=;=;NNA;TA;=;=;=;NA;NNNA;PA;=;=;=;MA;YA;RA;RRA;LA;LLA;LLLA;",
    "VA;SHA;SSA;SA;HA];=;=;=;=;VOWEL SIGN [AA;I;II;U;UU;=;=;=;E;EE;AI;=;O;OO;AU];SIGN VIRAMA;=;",
    "=;OM]"]),
  (0xbd7, ["TAMIL AU LENGTH MARK"]),
  (0xbe6, ["TAMIL [DIGIT [ZERO;ONE;TWO;THREE;FOUR;FIVE;SIX;SEVEN;EIGHT;NINE];NUMBER [TEN;ONE [",
    "HUNDRED;THOUSAND]];DAY SIGN;MONTH SIGN;YEAR SIGN;DEBIT SIGN;CREDIT SIGN;AS ABOVE SIGN;",
    "RUPEE SIGN;NUMBER SIGN];=;=;=;=;=;TELUGU [SIGN [COMBINING CANDRABINDU ABOVE;CANDRABINDU;",
    "ANUSVARA;VISARGA;COMBINING ANUSVARA ABOVE];LETTER [A;AA;I;II;U;UU;VOCALIC [R;L];=;E;EE;AI;",
    "=;O;OO;AU;KA;KHA;GA;GHA;NGA;CA;CHA;JA;JHA;NYA;TTA;TTHA;DDA;DDHA;NNA;TA;THA;DA;DHA;NA;=;PA;",
    "PHA;BA;BHA;MA;YA;RA;RRA;LA;LLA;LLLA;VA;SHA;SSA;SA;HA];=;=;SIGN [NUKTA;AVAGRAHA];VOWEL ",
    "SIGN [AA;I;II;U;UU;VOCALIC [R;RR];=;E;EE;AI;=;O;OO;AU];SIGN VIRAMA]"]),
  (0xc55, ["TELUGU [LENGTH MARK;AI LENGTH MARK;=;LETTER [TSA;DZA;RRRA;=;=;NAKAARA POLLU;=;=;",
    "VOCALIC [RR;LL]];VOWEL SIGN VOCALIC [L;LL];=;=;DIGIT [ZERO;ONE;TWO;THREE;FOUR;FIVE;SIX;",
    "SEVEN;EIGHT;NINE]]"]),
  (0xc77, ["TELUGU [SIGN SIDDHAM;FRACTION DIGIT [ZERO FOR ODD POWERS OF FOUR;ONE FOR ODD ",
    "POWERS OF FOUR;TWO FOR ODD POWERS OF FOUR;THREE FOR ODD POWERS OF FOUR;ONE FOR EVEN ",
    "POWERS OF FOUR;TWO FOR EVEN POWERS OF FOUR;THREE FOR EVEN POWERS OF FOUR];SIGN TUUMU];",
    "KANNADA [SIGN [SPACING CANDRABINDU;CANDRABINDU;ANUSVARA;VISARGA;SIDDHAM];LETTER [A;AA;I;",
    "II;U;UU;VOCALIC [R;L];=;E;EE;AI;=;O;OO;AU;KA;KHA;GA;GHA;NGA;CA;CHA;JA;JHA;NYA;TTA;TTHA;",
    "DDA;DDHA;NNA;TA;THA;DA;DHA;NA;=;PA;PHA;BA;BHA;MA;YA;RA;RRA;LA;LLA;=;VA;SHA;SSA;SA;HA];=;=;",
    "SIGN [NUKTA;AVAGRAHA];VOWEL SIGN [AA;I;II;U;UU;VOCALIC [R;RR];=;E;EE;AI;=;O;OO;AU];SIGN ",
    "VIRAMA]"]),
  (0xcd5, ["KANNADA [LENGTH MARK;AI LENGTH MARK]"]),
  (0xcdd, ["KANNADA [LETTER [NAKAARA POLLU;FA;=;VOCALIC [RR;LL]];VOWEL SIGN VOCALIC [L;LL];=;=;",
    "DIGIT [ZERO;ONE;TWO;THREE;FOUR;FIVE;SIX;SEVEN;EIGHT;NINE];=;SIGN [JIHVAMULIYA;",
    "UPADHMANIYA]]"]),
  (0xd00, ["MALAYALAM [SIGN [COMBINING ANUSVARA ABOVE;CANDRABINDU;ANUSVARA;VISARGA];LETTER [",
    "VEDIC ANUSVARA;A;AA;I;II;U;UU;VOCALIC [R;L];=;E;EE;AI;=;O;OO;AU;KA;KHA;GA;GHA;NGA;CA;CHA;",
    "JA;JHA;NYA;TTA;TTHA;DDA;DDHA;NNA;TA;THA;DA;DHA;NA;NNNA;PA;PHA;BA;BHA;MA;YA;RA;RRA;LA;LLA;",
    "LLLA;VA;SHA;SSA;SA;HA;TTTA];SIGN [VERTICAL BAR VIRAMA;CIRCULAR VIRAMA;AVAGRAHA];VOWEL ",
    "SIGN [AA;I;II;U;UU;VOCALIC [R;RR];=;E;EE;AI;=;O;OO;AU];SIGN VIRAMA;LETTER DOT REPH;SIGN ",
    "PARA;=;=;=;=;LETTER CHILLU [M;Y;LLL];AU LENGTH MARK;FRACTION [ONE [",
    "ONE-HUNDRED-AND-SIXTIETH;FORTIETH];THREE EIGHTIETHS;ONE [TWENTIETH;TENTH];THREE ",
    "TWENTIETHS;ONE FIFTH];LETTER [ARCHAIC II;VOCALIC [RR;LL]];VOWEL SIGN VOCALIC [L;LL];=;=;",
    "DIGIT [ZERO;ONE;TWO;THREE;FOUR;FIVE;SIX;SEVEN;EIGHT;NINE];NUMBER [TEN;ONE [HUNDRED;",
    "THOUSAND]];FRACTION [ONE [QUARTER;HALF];THREE QUARTERS;ONE [SIXTEENTH;EIGHTH];THREE ",
    "SIXTEENTHS];DATE MARK;LETTER CHILLU [NN;N;RR;L;LL;K]];=;SINHALA [SIGN [CANDRABINDU;",
    "ANUSVARAYA;VISARGAYA];=;LETTER [AYANNA;AAYANNA;AEYANNA;AEEYANNA;IYANNA;IIYANNA;UYANNA;",
    "UUYANNA;IRUYANNA;IRUUYANNA;ILUYANNA;ILUUYANNA;EYANNA;EEYANNA;AIYANNA;OYANNA;OOYANNA;",
    "AUYANNA;=;=;=;ALPAPRAANA KAYANNA;MAHAAPRAANA KAYANNA;ALPAPRAANA GAYANNA;MAHAAPRAANA ",
    "GAYANNA;KANTAJA NAASIKYAYA;SANYAKA GAYANNA;ALPAPRAANA CAYANNA;MAHAAPRAANA CAYANNA;",
    "ALPAPRAANA JAYANNA;MAHAAPRAANA JAYANNA;TAALUJA [NAASIKYAYA;SANYOOGA NAAKSIKYAYA];SANYAKA ",
    "JAYANNA;ALPAPRAANA TTAYANNA;MAHAAPRAANA TTAYANNA;ALPAPRAANA DDAYANNA;MAHAAPRAANA DDAYANNA;",
    "MUURDHAJA NAYANNA;SANYAKA DDAYANNA;ALPAPRAANA TAYANNA;MAHAAPRAANA TAYANNA;ALPAPRAANA ",
    "DAYANNA;MAHAAPRAANA DAYANNA;DANTAJA NAYANNA;=;SANYAKA DAYANNA;ALPAPRAANA PAYANNA;",
    "MAHAAPRAANA PAYANNA;ALPAPRAANA BAYANNA;MAHAAPRAANA BAYANNA;MAYANNA;AMBA BAYANNA;YAYANNA;",
    "RAYANNA;=;DANTAJA LAYANNA;=;=;VAYANNA;TAALUJA SAYANNA;MUURDHAJA SAYANNA;DANTAJA SAYANNA;",
    "HAYANNA;MUURDHAJA LAYANNA;FAYANNA];=;=;=;SIGN AL-LAKUNA;=;=;=;=;VOWEL SIGN [AELA-PILLA;",
    "KETTI AEDA-PILLA;DIGA AEDA-PILLA;KETTI IS-PILLA;DIGA IS-PILLA;KETTI PAA-PILLA;=;DIGA ",
    "PAA-PILLA;=;GAETTA-PILLA;KOMBUVA;DIGA KOMBUVA;KOMBU DEKA;KOMBUVA HAA [AELA-PILLA;DIGA ",
    "AELA-PILLA;GAYANUKITTA];GAYANUKITTA]]"]),
  (0xde6, ["SINHALA LITH DIGIT [ZERO;ONE;TWO;THREE;FOUR;FIVE;SIX;SEVEN;EIGHT;NINE];=;=;SINHALA ",
    "VOWEL SIGN DIGA [GAETTA-PILLA;GAYANUKITTA];SINHALA PUNCTUATION KUNDDALIYA"]),
  (0xe01, ["THAI CHARACTER [KO KAI;KHO [KHAI;KHUAT;KHWAI;KHON;RAKHANG];NGO NGU;CHO [CHAN;CHING;",
    "CHANG];SO SO;CHO CHOE;YO YING;DO CHADA;TO PATAK;THO [THAN;NANGMONTHO;PHUTHAO];NO NEN;DO ",
    "DEK;TO TAO;THO [THUNG;THAHAN;THONG];NO NU;BO BAIMAI;PO PLA;PHO PHUNG;FO FA;PHO PHAN;FO ",
    "FAN;PHO SAMPHAO;MO MA;YO YAK;RO RUA;RU;LO LING;LU;WO WAEN;SO [SALA;RUSI;SUA];HO HIP;LO ",
    "CHULA;O ANG;HO NOKHUK;PAIYANNOI;SARA A;MAI HAN-AKAT;SARA [AA;AM;I;II;UE;UEE;U;UU];",
    "PHINTHU];=;=;=;=;THAI [CURRENCY SYMBOL BAHT;CHARACTER [SARA [E;AE;O;AI [MAIMUAN;",
    "MAIMALAI]];LAKKHANGYAO;MAIYAMOK;MAITAIKHU;MAI [EK;THO;TRI;CHATTAWA];THANTHAKHAT;NIKHAHIT;",
    "YAMAKKAN;FONGMAN];DIGIT [ZERO;ONE;TWO;THREE;FOUR;FIVE;SIX;SEVEN;EIGHT;NINE];CHARACTER [",
    "ANGKHANKHU;KHOMUT]]"]),
  (0xe81, ["LAO LETTER [KO;KHO [SUNG;=;TAM];=;PALI GHA;NGO;CO;PALI CHA;SO TAM;=;PALI JHA;NYO;",
    "PALI [NYA;TTA;TTHA;DDA;DDHA;NNA];DO;TO;THO [SUNG;TAM];PALI DHA;NO;BO;PO;PHO SUNG;FO TAM;",
    "PHO TAM;FO SUNG;PALI BHA;MO;YO;LO [LING;=;LOOT];=;WO;SANSKRIT [SHA;SSA];SO SUNG;HO SUNG;",
    "PALI LLA;O;HO TAM];LAO [ELLIPSIS;VOWEL SIGN [A;MAI KAN;AA;AM;I;II;Y;YY;U;UU];SIGN PALI ",
    "VIRAMA;VOWEL SIGN MAI KON;SEMIVOWEL SIGN [LO;NYO];=;=;VOWEL SIGN [E;EI;O;AY;AI];=;KO LA;=;",
    "TONE MAI [EK;THO;TI;CATAWA];CANCELLATION MARK;NIGGAHITA;=;=;DIGIT [ZERO;ONE;TWO;THREE;",
    "FOUR;FIVE;SIX;SEVEN;EIGHT;NINE];=;=;HO [NO;MO];LETTER KHMU [GO;NYO]]"]),
  (0xf00, ["TIBETAN [SYLLABLE OM;MARK [GTER YIG MGO [TRUNCATED A;-UM [RNAM BCAD MA;GTER TSHEG ",
    "MA]];INITIAL YIG MGO MDUN MA;CLOSING YIG MGO SGAB MA;CARET YIG MGO PHUR SHAD MA;YIG MGO ",
    "TSHEG SHAD MA;SBRUL SHAD;BSKUR YIG MGO;BKA- SHOG YIG MGO;INTERSYLLABIC TSHEG;DELIMITER ",
    "TSHEG BSTAR;SHAD;NYIS SHAD;TSHEG SHAD;NYIS TSHEG SHAD;RIN CHEN SPUNGS SHAD;RGYA GRAM SHAD;",
    "CARET -DZUD RTAGS ME LONG CAN;GTER TSHEG];LOGOTYPE SIGN [CHAD RTAGS;LHAG RTAGS];",
    "ASTROLOGICAL SIGN [SGRA GCAN -CHAR RTAGS;-KHYUD PA;SDONG TSHUGS];SIGN RDEL [DKAR [GCIG;",
    "GNYIS;GSUM];NAG [GCIG;GNYIS];DKAR RDEL NAG];DIGIT [ZERO;ONE;TWO;THREE;FOUR;FIVE;SIX;SEVEN;",
    "EIGHT;NINE;HALF [ONE;TWO;THREE;FOUR;FIVE;SIX;SEVEN;EIGHT;NINE;ZERO]];MARK [BSDUS RTAGS;",
    "NGAS BZUNG NYI ZLA;CARET -DZUD RTAGS BZHI MIG CAN;NGAS BZUNG SGOR RTAGS;CHE MGO;TSA -PHRU;",
    "GUG RTAGS [GYON;GYAS];ANG KHANG [GYON;GYAS]];SIGN [YAR TSHES;MAR TSHES];LETTER [KA;KHA;GA;",
    "GHA;NGA;CA;CHA;JA;=;NYA;TTA;TTHA;DDA;DDHA;NNA;TA;THA;DA;DHA;NA;PA;PHA;BA;BHA;MA;TSA;TSHA;",
    "DZA;DZHA;WA;ZHA;ZA;-A;YA;RA;LA;SHA;SSA;SA;HA;A;KSSA;FIXED-FORM RA;KKA;RRA];=;=;=;=;VOWEL ",
    "SIGN [AA;I;II;U;UU;VOCALIC [R;RR;L;LL];E;EE;O;OO];SIGN [RJES SU NGA RO;RNAM BCAD];VOWEL ",
    "SIGN REVERSED [I;II];SIGN [NYI ZLA NAA DA;SNA LDAN];MARK [HALANTA;PALUTA];SIGN [LCI RTAGS;",
    "YANG RTAGS;LCE TSA CAN;MCHU CAN;GRU [CAN RGYINGS;MED RGYINGS];INVERTED MCHU CAN];",
    "SUBJOINED [SIGN [LCE TSA CAN;MCHU CAN;INVERTED MCHU CAN];LETTER [KA;KHA;GA;GHA;NGA;CA;CHA;",
    "JA;=;NYA;TTA;TTHA;DDA;DDHA;NNA;TA;THA;DA;DHA;NA;PA;PHA;BA;BHA;MA;TSA;TSHA;DZA;DZHA;WA;ZHA;",
    "ZA;-A;YA;RA;LA;SHA;SSA;SA;HA;A;KSSA;FIXED-FORM [WA;YA;RA]]];=;KU RU [KHA;KHA BZHI MIG ",
    "CAN];CANTILLATION SIGN [HEAVY BEAT;LIGHT BEAT;CANG TE-U;SBUB -CHAL];SYMBOL [DRIL BU;RDO ",
    "RJE;PADMA GDAN;RDO RJE RGYA GRAM;PHUR PA;NOR [BU;BU [NYIS -KHYIL;GSUM -KHYIL;BZHI ",
    "-KHYIL]]];=;SIGN RDEL NAG [RDEL DKAR;GSUM];MARK [BSKA- SHOG GI MGO RGYAN;MNYAM YIG GI MGO ",
    "RGYAN;NYIS TSHEG;INITIAL BRDA RNYING YIG MGO MDUN MA;CLOSING BRDA RNYING YIG MGO SGAB ",
    "MA]];RIGHT-FACING SVASTI SIGN;LEFT-FACING SVASTI SIGN;RIGHT-FACING SVASTI SIGN WITH DOTS;",
    "LEFT-FACING SVASTI SIGN WITH DOTS;TIBETAN MARK [LEADING MCHAN RTAGS;TRAILING MCHAN RTAGS]"]),
  (0x1000, ["MYANMAR [LETTER [KA;KHA;GA;GHA;NGA;CA;CHA;JA;JHA;NYA;NNYA;TTA;TTHA;DDA;DDHA;NNA;",
    "TA;THA;DA;DHA;NA;PA;PHA;BA;BHA;MA;YA;RA;LA;WA;SA;HA;LLA;A;SHAN A;I;II;U;UU;E;MON E;O;AU];",
    "VOWEL SIGN [TALL AA;AA;I;II;U;UU;E;AI;MON [II;O];E ABOVE];SIGN [ANUSVARA;DOT BELOW;",
    "VISARGA;VIRAMA;ASAT];CONSONANT SIGN MEDIAL [YA;RA;WA;HA];LETTER GREAT SA;DIGIT [ZERO;ONE;",
    "TWO;THREE;FOUR;FIVE;SIX;SEVEN;EIGHT;NINE];SIGN [LITTLE SECTION;SECTION];SYMBOL [LOCATIVE;",
    "COMPLETED;AFOREMENTIONED;GENITIVE];LETTER [SHA;SSA;VOCALIC [R;RR;L;LL]];VOWEL SIGN ",
    "VOCALIC [R;RR;L;LL];LETTER MON [NGA;JHA;BBA;BBE];CONSONANT SIGN MON MEDIAL [NA;MA;LA];",
    "LETTER SGAW KAREN SHA;VOWEL SIGN SGAW KAREN EU;TONE MARK SGAW KAREN [HATHI;KE PHO];LETTER ",
    "WESTERN PWO KAREN [THA;PWA];VOWEL SIGN WESTERN PWO KAREN [EU;UE];SIGN WESTERN PWO KAREN ",
    "TONE-[1;2;3;4;5];LETTER EASTERN PWO KAREN [NNA;YWA;GHWA];VOWEL SIGN [GEBA KAREN I;KAYAH [",
    "OE;U;EE]];LETTER SHAN [KA;KHA;GA;CA;ZA;NYA;DA;NA;PHA;FA;BA;THA;HA];CONSONANT SIGN SHAN ",
    "MEDIAL WA;VOWEL SIGN SHAN [AA;E;E ABOVE;FINAL Y];SIGN SHAN [TONE-[2;3;5;6];COUNCIL [TONE-[",
    "2;3];EMPHATIC TONE]];LETTER RUMAI PALAUNG FA;SIGN RUMAI PALAUNG TONE-5;SHAN DIGIT [ZERO;",
    "ONE;TWO;THREE;FOUR;FIVE;SIX;SEVEN;EIGHT;NINE];SIGN KHAMTI TONE-[1;3];VOWEL SIGN AITON [A;",
    "AI];SYMBOL SHAN [ONE;EXCLAMATION]];GEORGIAN CAPITAL LETTER [AN;BAN;GAN;DON;EN;VIN;ZEN;TAN;",
    "IN;KAN;LAS;MAN;NAR;ON;PAR;ZHAR;RAE;SAN;TAR;UN;PHAR;KHAR;GHAN;QAR;SHIN;CHIN;CAN;JIL;CIL;",
    "CHAR;XAN;JHAN;HAE;HE;HIE;WE;HAR;HOE;=;YN;=;=;=;=;=;AEN];=;=;GEORGIAN LETTER [AN;BAN;GAN;",
    "DON;EN;VIN;ZEN;TAN;IN;KAN;LAS;MAN;NAR;ON;PAR;ZHAR;RAE;SAN;TAR;UN;PHAR;KHAR;GHAN;QAR;SHIN;",
    "CHIN;CAN;JIL;CIL;CHAR;XAN;JHAN;HAE;HE;HIE;WE;HAR;HOE;FI;YN;ELIFI;TURNED GAN;AIN];GEORGIAN ",
    "PARAGRAPH SEPARATOR;MODIFIER LETTER GEORGIAN NAR;GEORGIAN LETTER [AEN;HARD SIGN;LABIAL ",
    "SIGN];HANGUL [CHOSEONG [KIYEOK;SSANGKIYEOK;NIEUN;TIKEUT;SSANGTIKEUT;RIEUL;MIEUM;PIEUP;",
    "SSANGPIEUP;SIOS;SSANGSIOS;IEUNG;CIEUC;SSANGCIEUC;CHIEUCH;KHIEUKH;THIEUTH;PHIEUPH;HIEUH;",
    "NIEUN-KIYEOK;SSANGNIEUN;NIEUN-[TIKEUT;PIEUP];TIKEUT-KIYEOK;RIEUL-NIEUN;SSANGRIEUL;",
    "RIEUL-HIEUH;KAPYEOUNRIEUL;MIEUM-PIEUP;KAPYEOUNMIEUM;PIEUP-[KIYEOK;NIEUN;TIKEUT;SIOS;SIOS-[",
    "KIYEOK;TIKEUT;PIEUP];SSANGSIOS;SIOS-CIEUC;CIEUC;CHIEUCH;THIEUTH;PHIEUPH];KAPYEOUNPIEUP;",
    "KAPYEOUNSSANGPIEUP;SIOS-[KIYEOK;NIEUN;TIKEUT;RIEUL;MIEUM;PIEUP;PIEUP-KIYEOK;SSANGSIOS;",
    "IEUNG;CIEUC;CHIEUCH;KHIEUKH;THIEUTH;PHIEUPH;HIEUH];CHITUEUMSIOS;CHITUEUMSSANGSIOS;",
    "CEONGCHIEUMSIOS;CEONGCHIEUMSSANGSIOS;PANSIOS;IEUNG-[KIYEOK;TIKEUT;MIEUM;PIEUP;SIOS;",
    "PANSIOS];SSANGIEUNG;IEUNG-[CIEUC;CHIEUCH;THIEUTH;PHIEUPH];YESIEUNG;CIEUC-IEUNG;",
    "CHITUEUMCIEUC;CHITUEUMSSANGCIEUC;CEONGCHIEUMCIEUC;CEONGCHIEUMSSANGCIEUC;CHIEUCH-[KHIEUKH;",
    "HIEUH];CHITUEUMCHIEUCH;CEONGCHIEUMCHIEUCH;PHIEUPH-PIEUP;KAPYEOUNPHIEUPH;SSANGHIEUH;",
    "YEORINHIEUH;KIYEOK-TIKEUT;NIEUN-[SIOS;CIEUC;HIEUH];TIKEUT-RIEUL;FILLER];JUNGSEONG [FILLER;",
    "A;AE;YA;YAE;EO;E;YEO;YE;O;WA;WAE;OE;YO;U;WEO;WE;WI;YU;EU;YI;I;A-O;A-U;YA-[O;YO];EO-[O;U;",
    "EU];YEO-[O;U];O-[EO;E;YE;O;U];YO-[YA;YAE;YEO;O;I];U-[A;AE;EO-EU;YE;U];YU-[A;EO;E;YEO;YE;U;",
    "I];EU-[U;EU];YI-U;I-[A;YA;O;U;EU;ARAEA];ARAEA;ARAEA-[EO;U;I];SSANGARAEA;A-EU;YA-U;YEO-YA;",
    "O-YA;O-YAE];JONGSEONG [KIYEOK;SSANGKIYEOK;KIYEOK-SIOS;NIEUN;NIEUN-[CIEUC;HIEUH];TIKEUT;",
    "RIEUL;RIEUL-[KIYEOK;MIEUM;PIEUP;SIOS;THIEUTH;PHIEUPH;HIEUH];MIEUM;PIEUP;PIEUP-SIOS;SIOS;",
    "SSANGSIOS;IEUNG;CIEUC;CHIEUCH;KHIEUKH;THIEUTH;PHIEUPH;HIEUH;KIYEOK-[RIEUL;SIOS-KIYEOK];",
    "NIEUN-[KIYEOK;TIKEUT;SIOS;PANSIOS;THIEUTH];TIKEUT-[KIYEOK;RIEUL];RIEUL-[KIYEOK-SIOS;NIEUN;",
    "TIKEUT;TIKEUT-HIEUH];SSANGRIEUL;RIEUL-[MIEUM-[KIYEOK;SIOS];PIEUP-[SIOS;HIEUH];",
    "KAPYEOUNPIEUP;SSANGSIOS;PANSIOS;KHIEUKH;YEORINHIEUH];MIEUM-[KIYEOK;RIEUL;PIEUP;SIOS;",
    "SSANGSIOS;PANSIOS;CHIEUCH;HIEUH];KAPYEOUNMIEUM;PIEUP-[RIEUL;PHIEUPH;HIEUH];KAPYEOUNPIEUP;",
    "SIOS-[KIYEOK;TIKEUT;RIEUL;PIEUP];PANSIOS;IEUNG-[KIYEOK;SSANGKIYEOK];SSANGIEUNG;",
    "IEUNG-KHIEUKH;YESIEUNG;YESIEUNG-[SIOS;PANSIOS];PHIEUPH-PIEUP;KAPYEOUNPHIEUPH;HIEUH-[NIEUN;",
    "RIEUL;MIEUM;PIEUP];YEORINHIEUH;KIYEOK-[NIEUN;PIEUP;CHIEUCH;KHIEUKH;HIEUH];SSANGNIEUN]];",
    "ETHIOPIC SYLLABLE [HA;HU;HI;HAA;HEE;HE;HO;HOA;LA;LU;LI;LAA;LEE;LE;LO;LWA;HHA;HHU;HHI;HHAA;",
    "HHEE;HHE;HHO;HHWA;MA;MU;MI;MAA;MEE;ME;MO;MWA;SZA;SZU;SZI;SZAA;SZEE;SZE;SZO;SZWA;RA;RU;RI;",
    "RAA;REE;RE;RO;RWA;SA;SU;SI;SAA;SEE;SE;SO;SWA;SHA;SHU;SHI;SHAA;SHEE;SHE;SHO;SHWA;QA;QU;QI;",
    "QAA;QEE;QE;QO;QOA;QWA;=;QWI;QWAA;QWEE;QWE;=;=;QHA;QHU;QHI;QHAA;QHEE;QHE;QHO;=;QHWA;=;QHWI;",
    "QHWAA;QHWEE;QHWE;=;=;BA;BU;BI;BAA;BEE;BE;BO;BWA;VA;VU;VI;VAA;VEE;VE;VO;VWA;TA;TU;TI;TAA;",
    "TEE;TE;TO;TWA;CA;CU;CI;CAA;CEE;CE;CO;CWA;XA;XU;XI;XAA;XEE;XE;XO;XOA;XWA;=;XWI;XWAA;XWEE;",
    "XWE;=;=;NA;NU;NI;NAA;NEE;NE;NO;NWA;NYA;NYU;NYI;NYAA;NYEE;NYE;NYO;NYWA;GLOTTAL [A;U;I;AA;",
    "EE;E;O;WA];KA;KU;KI;KAA;KEE;KE;KO;KOA;KWA;=;KWI;KWAA;KWEE;KWE;=;=;KXA;KXU;KXI;KXAA;KXEE;",
    "KXE;KXO;=;KXWA;=;KXWI;KXWAA;KXWEE;KXWE;=;=;WA;WU;WI;WAA;WEE;WE;WO;WOA;PHARYNGEAL [A;U;I;",
    "AA;EE;E;O];=;ZA;ZU;ZI;ZAA;ZEE;ZE;ZO;ZWA;ZHA;ZHU;ZHI;ZHAA;ZHEE;ZHE;ZHO;ZHWA;YA;YU;YI;YAA;",
    "YEE;YE;YO;YOA;DA;DU;DI;DAA;DEE;DE;DO;DWA;DDA;DDU;DDI;DDAA;DDEE;DDE;DDO;DDWA;JA;JU;JI;JAA;",
    "JEE;JE;JO;JWA;GA;GU;GI;GAA;GEE;GE;GO;GOA;GWA;=;GWI;GWAA;GWEE;GWE;=;=;GGA;GGU;GGI;GGAA;",
    "GGEE;GGE;GGO;GGWAA;THA;THU;THI;THAA;THEE;THE;THO;THWA;CHA;CHU;CHI;CHAA;CHEE;CHE;CHO;CHWA;",
    "PHA;PHU;PHI;PHAA;PHEE;PHE;PHO;PHWA;TSA;TSU;TSI;TSAA;TSEE;TSE;TSO;TSWA;TZA;TZU;TZI;TZAA;",
    "TZEE;TZE;TZO;TZOA;FA;FU;FI;FAA;FEE;FE;FO;FWA;PA;PU;PI;PAA;PEE;PE;PO;PWA;RYA;MYA;FYA];=;=;",
    "ETHIOPIC [COMBINING [GEMINATION AND VOWEL LENGTH MARK;VOWEL LENGTH MARK;GEMINATION MARK];",
    "SECTION MARK;WORDSPACE;FULL STOP;COMMA;SEMICOLON;COLON;PREFACE COLON;QUESTION MARK;",
    "PARAGRAPH SEPARATOR;DIGIT [ONE;TWO;THREE;FOUR;FIVE;SIX;SEVEN;EIGHT;NINE];NUMBER [TEN;",
    "TWENTY;THIRTY;FORTY;FIFTY;SIXTY;SEVENTY;EIGHTY;NINETY;HUNDRED;TEN THOUSAND];=;=;=;",
    "SYLLABLE [SEBATBEIT MWA;MWI;MWEE;MWE;SEBATBEIT BWA;BWI;BWEE;BWE;SEBATBEIT FWA;FWI;FWEE;",
    "FWE;SEBATBEIT PWA;PWI;PWEE;PWE];TONAL MARK [YIZET;DERET;RIKRIK;SHORT RIKRIK;DIFAT;KENAT;",
    "CHIRET;HIDET;DERET-HIDET;KURT]]"]),
  (0x13a0, ["CHEROKEE LETTER [A;E;I;O;U;V;GA;KA;GE;GI;GO;GU;GV;HA;HE;HI;HO;HU;HV;LA;LE;LI;LO;",
    "LU;LV;MA;ME;MI;MO;MU;NA;HNA;NAH;NE;NI;NO;NU;NV;QUA;QUE;QUI;QUO;QUU;QUV;SA;S;SE;SI;SO;SU;",
    "SV;DA;TA;DE;TE;DI;TI;DO;DU;DV;DLA;TLA;TLE;TLI;TLO;TLU;TLV;TSA;TSE;TSI;TSO;TSU;TSV;WA;WE;",
    "WI;WO;WU;WV;YA;YE;YI;YO;YU;YV;MV];=;=;CHEROKEE SMALL LETTER [YE;YI;YO;YU;YV;MV];=;=;",
    "CANADIAN SYLLABICS [HYPHEN;E;AAI;I;II;O;OO;Y-CREE OO;CARRIER [EE;I];A;AA;WE;WEST-CREE WE;",
    "WI;WEST-CREE WI;WII;WEST-CREE WII;WO;WEST-CREE WO;WOO;WEST-CREE WOO;NASKAPI WOO;WA;",
    "WEST-CREE WA;WAA;WEST-CREE WAA;NASKAPI WAA;AI;Y-CREE W;GLOTTAL STOP;FINAL [ACUTE;GRAVE;",
    "BOTTOM HALF RING;TOP HALF RING;RIGHT HALF RING;RING;DOUBLE [ACUTE;SHORT VERTICAL STROKES];",
    "MIDDLE DOT;SHORT HORIZONTAL STROKE;PLUS;DOWN TACK];EN;IN;ON;AN;PE;PAAI;PI;PII;PO;POO;",
    "Y-CREE POO;CARRIER [HEE;HI];PA;PAA;PWE;WEST-CREE PWE;PWI;WEST-CREE PWI;PWII;WEST-CREE ",
    "PWII;PWO;WEST-CREE PWO;PWOO;WEST-CREE PWOO;PWA;WEST-CREE PWA;PWAA;WEST-CREE PWAA;Y-CREE ",
    "PWAA;P;WEST-CREE P;CARRIER H;TE;TAAI;TI;TII;TO;TOO;Y-CREE TOO;CARRIER [DEE;DI];TA;TAA;TWE;",
    "WEST-CREE TWE;TWI;WEST-CREE TWI;TWII;WEST-CREE TWII;TWO;WEST-CREE TWO;TWOO;WEST-CREE TWOO;",
    "TWA;WEST-CREE TWA;TWAA;WEST-CREE TWAA;NASKAPI TWAA;T;TTE;TTI;TTO;TTA;KE;KAAI;KI;KII;KO;",
    "KOO;Y-CREE KOO;KA;KAA;KWE;WEST-CREE KWE;KWI;WEST-CREE KWI;KWII;WEST-CREE KWII;KWO;",
    "WEST-CREE KWO;KWOO;WEST-CREE KWOO;KWA;WEST-CREE KWA;KWAA;WEST-CREE KWAA;NASKAPI KWAA;K;KW;",
    "SOUTH-SLAVEY [KEH;KIH;KOH;KAH];CE;CAAI;CI;CII;CO;COO;Y-CREE COO;CA;CAA;CWE;WEST-CREE CWE;",
    "CWI;WEST-CREE CWI;CWII;WEST-CREE CWII;CWO;WEST-CREE CWO;CWOO;WEST-CREE CWOO;CWA;WEST-CREE ",
    "CWA;CWAA;WEST-CREE CWAA;NASKAPI CWAA;C;SAYISI TH;ME;MAAI;MI;MII;MO;MOO;Y-CREE MOO;MA;MAA;",
    "MWE;WEST-CREE MWE;MWI;WEST-CREE MWI;MWII;WEST-CREE MWII;MWO;WEST-CREE MWO;MWOO;WEST-CREE ",
    "MWOO;MWA;WEST-CREE MWA;MWAA;WEST-CREE MWAA;NASKAPI MWAA;M;WEST-CREE M;MH;ATHAPASCAN M;",
    "SAYISI M;NE;NAAI;NI;NII;NO;NOO;Y-CREE NOO;NA;NAA;NWE;WEST-CREE NWE;NWA;WEST-CREE NWA;NWAA;",
    "WEST-CREE NWAA;NASKAPI NWAA;N;CARRIER NG;NH;LE;LAAI;LI;LII;LO;LOO;Y-CREE LOO;LA;LAA;LWE;",
    "WEST-CREE LWE;LWI;WEST-CREE LWI;LWII;WEST-CREE LWII;LWO;WEST-CREE LWO;LWOO;WEST-CREE LWOO;",
    "LWA;WEST-CREE LWA;LWAA;WEST-CREE LWAA;L;WEST-CREE L;MEDIAL L;SE;SAAI;SI;SII;SO;SOO;Y-CREE ",
    "SOO;SA;SAA;SWE;WEST-CREE SWE;SWI;WEST-CREE SWI;SWII;WEST-CREE SWII;SWO;WEST-CREE SWO;SWOO;",
    "WEST-CREE SWOO;SWA;WEST-CREE SWA;SWAA;WEST-CREE SWAA;NASKAPI SWAA;S;ATHAPASCAN S;SW;",
    "BLACKFOOT S;MOOSE-CREE SK;NASKAPI [SKW;S-W;SPWA;STWA;SKWA;SCWA];SHE;SHI;SHII;SHO;SHOO;SHA;",
    "SHAA;SHWE;WEST-CREE SHWE;SHWI;WEST-CREE SHWI;SHWII;WEST-CREE SHWII;SHWO;WEST-CREE SHWO;",
    "SHWOO;WEST-CREE SHWOO;SHWA;WEST-CREE SHWA;SHWAA;WEST-CREE SHWAA;SH;YE;YAAI;YI;YII;YO;YOO;",
    "Y-CREE YOO;YA;YAA;YWE;WEST-CREE YWE;YWI;WEST-CREE YWI;YWII;WEST-CREE YWII;YWO;WEST-CREE ",
    "YWO;YWOO;WEST-CREE YWOO;YWA;WEST-CREE YWA;YWAA;WEST-CREE YWAA;NASKAPI YWAA;Y;BIBLE-CREE Y;",
    "WEST-CREE Y;SAYISI YI;RE;R-CREE RE;WEST-CREE LE;RAAI;RI;RII;RO;ROO;WEST-CREE LO;RA;RAA;",
    "WEST-CREE LA;RWAA;WEST-CREE RWAA;R;WEST-CREE R;MEDIAL R;FE;FAAI;FI;FII;FO;FOO;FA;FAA;FWAA;",
    "WEST-CREE FWAA;F;THE;N-CREE THE;THI;N-CREE THI;THII;N-CREE THII;THO;THOO;THA;THAA;THWAA;",
    "WEST-CREE THWAA;TH;TTHE;TTHI;TTHO;TTHA;TTH;TYE;TYI;TYO;TYA;NUNAVIK [HE;HI;HII;HO;HOO;HA;",
    "HAA;H];NUNAVUT H;HK;QAAI;QI;QII;QO;QOO;QA;QAA;Q;TLHE;TLHI;TLHO;TLHA;WEST-CREE [RE;RI;RO;",
    "RA];NGAAI;NGI;NGII;NGO;NGOO;NGA;NGAA;NG;NNG;SAYISI [SHE;SHI;SHO;SHA];WOODS-CREE [THE;THI;",
    "THO;THA;TH];LHI;LHII;LHO;LHOO;LHA;LHAA;LH;TH-CREE [THE;THI;THII;THO;THOO;THA;THAA;TH];",
    "AIVILIK B;BLACKFOOT [E;I;O;A;WE;WI;WO;WA;NE;NI;NO;NA;KE;KI;KO;KA];SAYISI [HE;HI;HO;HA];",
    "CARRIER [GHU;GHO;GHE;GHEE;GHI;GHA;RU;RO;RE;REE;RI;RA;WU;WO;WE;WEE;WI;WA;HWU;HWO;HWE;HWEE;",
    "HWI;HWA;THU;THO;THE;THEE;THI;THA;TTU;TTO;TTE;TTEE;TTI;TTA;PU;PO;PE;PEE;PI;PA;P;GU;GO;GE;",
    "GEE;GI;GA;KHU;KHO;KHE;KHEE;KHI;KHA;KKU;KKO;KKE;KKEE;KKI;KKA;KK;NU;NO;NE;NEE;NI;NA;MU;MO;",
    "ME;MEE;MI;MA;YU;YO;YE;YEE;YI;YA;JU];SAYISI JU;CARRIER [JO;JE;JEE;JI];SAYISI JI;CARRIER [",
    "JA;JJU;JJO;JJE;JJEE;JJI;JJA;LU;LO;LE;LEE;LI;LA;DLU;DLO;DLE;DLEE;DLI;DLA;LHU;LHO;LHE;LHEE;",
    "LHI;LHA;TLHU;TLHO;TLHE;TLHEE;TLHI;TLHA;TLU;TLO;TLE;TLEE;TLI;TLA;ZU;ZO;ZE;ZEE;ZI;ZA;Z;",
    "INITIAL Z;DZU;DZO;DZE;DZEE;DZI;DZA;SU;SO;SE;SEE;SI;SA;SHU;SHO;SHE;SHEE;SHI;SHA;SH;TSU;TSO;",
    "TSE;TSEE;TSI;TSA;CHU;CHO;CHE;CHEE;CHI;CHA;TTSU;TTSO;TTSE;TTSEE;TTSI;TTSA];CHI SIGN;FULL ",
    "STOP;QAI;NGAI;NNGI;NNGII;NNGO;NNGOO;NNGA;NNGAA;WOODS-CREE [THWEE;THWI;THWII;THWO;THWOO;",
    "THWA;THWAA;FINAL TH];BLACKFOOT W];OGHAM [SPACE MARK;LETTER [BEITH;LUIS;FEARN;SAIL;NION;",
    "UATH;DAIR;TINNE;COLL;CEIRT;MUIN;GORT;NGEADAL;STRAIF;RUIS;AILM;ONN;UR;EADHADH;IODHADH;",
    "EABHADH;OR;UILLEANN;IFIN;EAMHANCHOLL;PEITH];FEATHER MARK;REVERSED FEATHER MARK];=;=;=;",
    "RUNIC LETTER [FEHU FEOH FE F;V;URUZ UR U;YR;Y;W;THURISAZ THURS THORN;ETH;ANSUZ A;OS O;AC ",
    "A;AESC;LONG-BRANCH-OSS O;SHORT-TWIG-OSS O;O;OE;ON;RAIDO RAD REID R;KAUNA;CEN;KAUN K;G;ENG;",
    "GEBO GYFU G;GAR;WUNJO WYNN W;HAGLAZ H;HAEGL H;LONG-BRANCH-HAGALL H;SHORT-TWIG-HAGALL H;",
    "NAUDIZ NYD NAUD N;SHORT-TWIG-NAUD N;DOTTED-N;ISAZ IS ISS I;E;JERAN J;GER;LONG-BRANCH-AR ",
    "AE;SHORT-TWIG-AR A;IWAZ EOH;PERTHO PEORTH P;ALGIZ EOLHX;SOWILO S;SIGEL LONG-BRANCH-SOL S;",
    "SHORT-TWIG-SOL S;C;Z;TIWAZ TIR TYR T;SHORT-TWIG-TYR T;D;BERKANAN BEORC BJARKAN B;",
    "SHORT-TWIG-BJARKAN B;DOTTED-P;OPEN-P;EHWAZ EH E;MANNAZ MAN M;LONG-BRANCH-MADR M;",
    "SHORT-TWIG-MADR M;LAUKAZ LAGU LOGR L;DOTTED-L;INGWAZ;ING;DAGAZ DAEG D;OTHALAN ETHEL O;EAR;",
    "IOR;CWEORTH;CALC;CEALC;STAN;LONG-BRANCH-YR;SHORT-TWIG-YR;ICELANDIC-YR;Q;X];RUNIC [SINGLE ",
    "PUNCTUATION;MULTIPLE PUNCTUATION;CROSS PUNCTUATION;ARLAUG SYMBOL;TVIMADUR SYMBOL;BELGTHOR ",
    "SYMBOL;LETTER [K;SH;OO;FRANKS CASKET [OS;IS;EH;AC;AESC]]]"]),
  (0x1700, ["TAGALOG LETTER [A;I;U;KA;GA;NGA;TA;DA;NA;PA;BA;MA;YA;RA;LA;WA;SA;HA];TAGALOG [",
    "VOWEL SIGN [I;U];SIGN [VIRAMA;PAMUDPOD]]"]),
  (0x171f, ["TAGALOG LETTER ARCHAIC RA;HANUNOO LETTER [A;I;U;KA;GA;NGA;TA;DA;NA;PA;BA;MA;YA;RA;",
    "LA;WA;SA;HA];HANUNOO VOWEL SIGN [I;U];HANUNOO SIGN PAMUDPOD;PHILIPPINE [SINGLE ",
    "PUNCTUATION;DOUBLE PUNCTUATION]"]),
  (0x1740, ["BUHID LETTER [A;I;U;KA;GA;NGA;TA;DA;NA;PA;BA;MA;YA;RA;LA;WA;SA;HA];BUHID VOWEL ",
    "SIGN [I;U]"]),
  (0x1760, ["TAGBANWA LETTER [A;I;U;KA;GA;NGA;TA;DA;NA;PA;BA;MA;YA;=;LA;WA;SA];=;TAGBANWA ",
    "VOWEL SIGN [I;U]"]),
  (0x1780, ["KHMER [LETTER [KA;KHA;KO;KHO;NGO;CA;CHA;CO;CHO;NYO;DA;TTHA;DO;TTHO;NNO;TA;THA;TO;",
    "THO;NO;BA;PHA;PO;PHO;MO;YO;RO;LO;VO;SHA;SSO;SA;HA;LA;QA];INDEPENDENT VOWEL [QAQ;QAA;QI;",
    "QII;QU;QUK;QUU;QUUV;RY;RYY;LY;LYY;QE;QAI;QOO TYPE [ONE;TWO];QAU];VOWEL [INHERENT [AQ;AA];",
    "SIGN [AA;I;II;Y;YY;U;UU;UA;OE;YA;IE;E;AE;AI;OO;AU]];SIGN [NIKAHIT;REAHMUK;YUUKALEAPINTU;",
    "MUUSIKATOAN;TRIISAP;BANTOC;ROBAT;TOANDAKHIAT;KAKABAT;AHSDA;SAMYOK SANNYA;VIRIAM;COENG;",
    "BATHAMASAT;KHAN;BARIYOOSAN;CAMNUC PII KUUH;LEK TOO;BEYYAL;PHNAEK MUAN;KOOMUUT];CURRENCY ",
    "SYMBOL RIEL;SIGN [AVAKRAHASANYA;ATTHACAN];=;=;DIGIT [ZERO;ONE;TWO;THREE;FOUR;FIVE;SIX;",
    "SEVEN;EIGHT;NINE]]"]),
  (0x17f0, ["KHMER SYMBOL LEK ATTAK [SON;MUOY;PII;BEI;BUON;PRAM;PRAM-[MUOY;PII;BEI;BUON]]"]),
  (0x1800, ["MONGOLIAN [BIRGA;ELLIPSIS;COMMA;FULL STOP;COLON;FOUR DOTS;TODO SOFT HYPHEN;SIBE ",
    "SYLLABLE BOUNDARY MARKER;MANCHU [COMMA;FULL STOP];NIRUGU;FREE VARIATION SELECTOR [ONE;TWO;",
    "THREE];VOWEL SEPARATOR;FREE VARIATION SELECTOR FOUR;DIGIT [ZERO;ONE;TWO;THREE;FOUR;FIVE;",
    "SIX;SEVEN;EIGHT;NINE]]"]),
  (0x1820, ["MONGOLIAN LETTER [A;E;I;O;U;OE;UE;EE;NA;ANG;BA;PA;QA;GA;MA;LA;SA;SHA;TA;DA;CHA;JA;",
    "YA;RA;WA;FA;KA;KHA;TSA;ZA;HAA;ZRA;LHA;ZHI;CHI;TODO [LONG VOWEL SIGN;E;I;O;U;OE;UE;ANG;BA;",
    "PA;QA;GA;MA;TA;DA;CHA;JA;TSA;YA;WA;KA;GAA;HAA;JIA;NIA;DZA];SIBE [E;I;IY;UE;U;ANG;KA;GA;HA;",
    "PA;SHA;TA;DA;JA;FA;GAA;HAA;TSA;ZA;RAA;CHA;ZHA];MANCHU [I;KA;RA;FA;ZHA];CHA WITH TWO DOTS]"]),
  (0x1880, ["MONGOLIAN LETTER [ALI GALI [ANUSVARA ONE;VISARGA ONE;DAMARU;UBADAMA;INVERTED ",
    "UBADAMA;BALUDA;THREE BALUDA;A;I;KA;NGA;CA;TTA;TTHA;DDA;NNA;TA;DA;PA;PHA;SSA;ZHA;ZA;AH];",
    "TODO ALI GALI [TA;ZHA];MANCHU ALI GALI [GHA;NGA;CA;JHA;TTA;DDHA;TA;DHA;SSA;CYA;ZHA;ZA];",
    "ALI GALI HALF [U;YA];MANCHU ALI GALI BHA;ALI GALI DAGALGA;MANCHU ALI GALI LHA];=;=;=;=;=;",
    "CANADIAN SYLLABICS [OY;AY;AAY;WAY;POY;PAY;PWOY;TAY;KAY;KWAY;MAY;NOY;NAY;LAY;SOY;SAY;SHOY;",
    "SHAY;SHWOY;YOY;YAY;RAY;NWI;OJIBWAY NWI;NWII;OJIBWAY NWII;NWO;OJIBWAY NWO;NWOO;OJIBWAY ",
    "NWOO;RWEE;RWI;RWII;RWO;RWOO;RWA;OJIBWAY [P;T;K;C;M;N;S;SH];EASTERN W;WESTERN W;FINAL [",
    "SMALL RING;RAISED DOT];R-CREE RWE;WEST-CREE [LOO;LAA];THWE;THWA;TTHWE;TTHOO;TTHAA;TLHWE;",
    "TLHOO;SAYISI [SHWE;SHOO;HOO];CARRIER [GWU;DENE GEE;GAA;GWA];SAYISI JUU;CARRIER JWA;BEAVER ",
    "DENE [L;R];CARRIER DENTAL S]"]),
  (0x1900, ["LIMBU [VOWEL-CARRIER LETTER;LETTER [KA;KHA;GA;GHA;NGA;CA;CHA;JA;JHA;YAN;TA;THA;DA;",
    "DHA;NA;PA;PHA;BA;BHA;MA;YA;RA;LA;WA;SHA;SSA;SA;HA;GYAN;TRA];=;VOWEL SIGN [A;I;U;EE;AI;OO;",
    "AU;E;O];SUBJOINED LETTER [YA;RA;WA];=;=;=;=;SMALL LETTER [KA;NGA;ANUSVARA;TA;NA;PA;MA;RA;",
    "LA];SIGN [MUKPHRENG;KEMPHRENG;SA-I;=;=;=;=;LOO];=;=;=;EXCLAMATION MARK;QUESTION MARK;",
    "DIGIT [ZERO;ONE;TWO;THREE;FOUR;FIVE;SIX;SEVEN;EIGHT;NINE]];TAI LE LETTER [KA;XA;NGA;TSA;",
    "SA;YA;TA;THA;LA;PA;PHA;MA;FA;VA;HA;QA;KHA;TSHA;NA;A;I;EE;EH;U;OO;O;UE;E;AUE;AI;=;=;TONE-[",
    "2;3;4;5;6]]"]),
  (0x1980, ["NEW TAI LUE [LETTER [HIGH QA;LOW QA;HIGH [KA;XA;NGA];LOW [KA;XA;NGA];HIGH [TSA;SA;",
    "YA];LOW [TSA;SA;YA];HIGH [TA;THA;NA];LOW [TA;THA;NA];HIGH [PA;PHA;MA];LOW [PA;PHA;MA];",
    "HIGH [FA;VA;LA];LOW [FA;VA;LA];HIGH [HA;DA;BA];LOW [HA;DA;BA];HIGH [KVA;XVA];LOW [KVA;",
    "XVA];HIGH SUA;LOW SUA];=;=;=;=;VOWEL SIGN [VOWEL SHORTENER;AA;II;U;UU;E;AE;O;OA;UE;AY;AAY;",
    "UY;OY;OAY;UEY;IY];LETTER FINAL [V;NG;N;M;K;D;B];TONE MARK-[1;2]]"]),
  (0x19d0, ["NEW TAI LUE DIGIT [ZERO;ONE;TWO;THREE;FOUR;FIVE;SIX;SEVEN;EIGHT;NINE];NEW TAI LUE ",
    "[THAM DIGIT ONE;=;=;=;SIGN [LAE;LAEV]];KHMER SYMBOL [PATHAMASAT;MUOY KOET;PII KOET;BEI ",
    "KOET;BUON KOET;PRAM KOET;PRAM-[MUOY KOET;PII KOET;BEI KOET;BUON KOET];DAP KOET;DAP-[MUOY ",
    "KOET;PII KOET;BEI KOET;BUON KOET;PRAM KOET];TUTEYASAT;MUOY ROC;PII ROC;BEI ROC;BUON ROC;",
    "PRAM ROC;PRAM-[MUOY ROC;PII ROC;BEI ROC;BUON ROC];DAP ROC;DAP-[MUOY ROC;PII ROC;BEI ROC;",
    "BUON ROC;PRAM ROC]];BUGINESE LETTER [KA;GA;NGA;NGKA;PA;BA;MA;MPA;TA;DA;NA;NRA;CA;JA;NYA;",
    "NYCA;YA;RA;LA;VA;SA;A;HA];BUGINESE VOWEL SIGN [I;U;E;O;AE];=;=;BUGINESE [PALLAWA;END OF ",
    "SECTION];TAI THAM [LETTER [HIGH [KA;KHA;KXA];LOW [KA;KXA;KHA];NGA;HIGH [CA;CHA];LOW [CA;",
    "SA;CHA];NYA;RATA;HIGH RATHA;DA;LOW RATHA;RANA;HIGH [TA;THA];LOW [TA;THA];NA;BA;HIGH [PA;",
    "PHA;FA];LOW [PA;FA;PHA];MA;LOW YA;HIGH YA;RA;RUE;LA;LUE;WA;HIGH [SHA;SSA;SA;HA];LLA;A;LOW ",
    "HA;I;II;U;UU;EE;OO;LAE;GREAT SA];CONSONANT SIGN [MEDIAL [RA;LA];LA TANG LAI];SIGN MAI ",
    "KANG LAI;CONSONANT SIGN [FINAL NGA;LOW PA;HIGH RATHA OR LOW PA;MA;BA;SA];=;SIGN SAKOT;",
    "VOWEL SIGN [A;MAI SAT;AA;TALL AA;I;II;UE;UUE;U;UU;O;OA BELOW;OY;E;AE;OO;AI;THAM AI;OA ",
    "ABOVE];SIGN [MAI KANG;TONE-[1;2];KHUEN TONE-[3;4;5];RA HAAM;MAI SAM;KHUEN-LUE KARAN];=;=;",
    "COMBINING CRYPTOGRAMMIC DOT;HORA DIGIT [ZERO;ONE;TWO;THREE;FOUR;FIVE;SIX;SEVEN;EIGHT;",
    "NINE]]"]),
  (0x1a90, ["TAI THAM THAM DIGIT [ZERO;ONE;TWO;THREE;FOUR;FIVE;SIX;SEVEN;EIGHT;NINE]"]),
  (0x1aa0, ["TAI THAM SIGN [WIANG;WIANGWAAK;SAWAN;KEOW;HOY;DOKMAI;REVERSED ROTATED RANA;MAI ",
    "YAMOK;KAAN;KAANKUU;SATKAAN;SATKAANKUU;HANG;CAANG];=;=;COMBINING [DOUBLED CIRCUMFLEX ",
    "ACCENT;DIAERESIS-RING;INFINITY;DOWNWARDS ARROW;TRIPLE DOT;X-X BELOW;WIGGLY LINE BELOW;",
    "OPEN MARK BELOW;DOUBLE OPEN MARK BELOW;LIGHT CENTRALIZATION STROKE BELOW;STRONG ",
    "CENTRALIZATION STROKE BELOW;PARENTHESES ABOVE;DOUBLE PARENTHESES ABOVE;PARENTHESES [BELOW;",
    "OVERLAY];LATIN SMALL LETTER [W BELOW;TURNED W BELOW];LEFT PARENTHESIS ABOVE LEFT;RIGHT ",
    "PARENTHESIS ABOVE RIGHT;LEFT PARENTHESIS BELOW LEFT;RIGHT PARENTHESIS BELOW RIGHT;SQUARE ",
    "BRACKETS ABOVE;NUMBER SIGN ABOVE;INVERTED DOUBLE ARCH ABOVE;PLUS SIGN ABOVE;DOUBLE PLUS ",
    "SIGN [ABOVE;BELOW];TRIPLE ACUTE ACCENT;LATIN SMALL LETTER INSULAR [G;R;T]]"]),
  (0x1b00, ["BALINESE [SIGN [ULU [RICEM;CANDRA];CECEK;SURANG;BISAH];LETTER [AKARA;AKARA TEDUNG;",
    "IKARA;IKARA TEDUNG;UKARA;UKARA TEDUNG;RA [REPA;REPA TEDUNG];LA [LENGA;LENGA TEDUNG];EKARA;",
    "AIKARA;OKARA;OKARA TEDUNG;KA;KA MAHAPRANA;GA;GA GORA;NGA;CA;CA LACA;JA;JA JERA;NYA;TA [",
    "LATIK;MURDA MAHAPRANA];DA MURDA [ALPAPRANA;MAHAPRANA];NA RAMBAT;TA;TA TAWA;DA;DA MADU;NA;",
    "PA;PA KAPAL;BA;BA KEMBANG;MA;YA;RA;LA;WA;SA [SAGA;SAPA];SA;HA];SIGN REREKAN;VOWEL SIGN [",
    "TEDUNG;ULU;ULU SARI;SUKU;SUKU ILUT;RA [REPA;REPA TEDUNG];LA [LENGA;LENGA TEDUNG];TALING;",
    "TALING [REPA;TEDUNG;REPA TEDUNG];PEPET;PEPET TEDUNG];ADEG ADEG;LETTER [KAF SASAK;KHOT ",
    "SASAK;TZIR SASAK;EF SASAK;VE SASAK;ZAL SASAK;ASYURA SASAK;ARCHAIC JNYA];=;=;=;DIGIT [ZERO;",
    "ONE;TWO;THREE;FOUR;FIVE;SIX;SEVEN;EIGHT;NINE];PANTI;PAMADA;WINDU;CARIK [PAMUNGKAH;SIKI;",
    "PAREREN];PAMENENG;MUSICAL SYMBOL [DONG;DENG;DUNG;DANG;DANG SURANG;DING;DAENG;DEUNG;DAING;",
    "DANG GEDE;COMBINING [TEGEH;ENDEP;KEMPUL;KEMPLI;JEGOGAN;KEMPUL WITH JEGOGAN;KEMPLI WITH ",
    "JEGOGAN;BENDE;GONG];RIGHT-HAND [OPEN [DUG;DAG];CLOSED [TUK;TAK]];LEFT-HAND [OPEN [PANG;",
    "PUNG];CLOSED [PLAK;PLUK];OPEN PING]];PANTI LANTANG;PAMADA LANTANG];=;SUNDANESE [SIGN [",
    "PANYECEK;PANGLAYAR;PANGWISAD];LETTER [A;I;U;AE;O;E;EU;KA;QA;GA;NGA;CA;JA;ZA;NYA;TA;DA;NA;",
    "PA;FA;VA;BA;MA;YA;RA;LA;WA;SA;XA;HA];CONSONANT SIGN [PAMINGKAL;PANYAKRA;PANYIKU];VOWEL ",
    "SIGN [PANGHULU;PANYUKU;PANAELAENG;PANOLONG;PAMEPET;PANEULEUNG];SIGN [PAMAAEH;VIRAMA];",
    "CONSONANT SIGN PASANGAN [MA;WA];LETTER [KHA;SYA];DIGIT [ZERO;ONE;TWO;THREE;FOUR;FIVE;SIX;",
    "SEVEN;EIGHT;NINE];AVAGRAHA;LETTER [REU;LEU;BHA;FINAL [K;M]]];BATAK LETTER [A;SIMALUNGUN A;",
    "HA;SIMALUNGUN HA;MANDAILING HA;BA;KARO BA;PA;SIMALUNGUN PA;NA;MANDAILING NA;WA;SIMALUNGUN ",
    "WA;PAKPAK WA;GA;SIMALUNGUN GA;JA;DA;RA;SIMALUNGUN RA;MA;SIMALUNGUN MA;SOUTHERN TA;",
    "NORTHERN TA;SA;SIMALUNGUN SA;MANDAILING SA;YA;SIMALUNGUN YA;NGA;LA;SIMALUNGUN LA;NYA;CA;",
    "NDA;MBA;I;U];BATAK [SIGN TOMPI;VOWEL SIGN [E;PAKPAK E;EE;I;KARO I;O;KARO O;U;U FOR ",
    "SIMALUNGUN SA];CONSONANT SIGN [NG;H];PANGOLAT;PANONGONAN]"]),
  (0x1bfc, ["BATAK SYMBOL BINDU [NA METEK;PINARBORAS;JUDUL;PANGOLAT];LEPCHA [LETTER [KA;KLA;",
    "KHA;GA;GLA;NGA;CA;CHA;JA;NYA;TA;THA;DA;NA;PA;PLA;PHA;FA;FLA;BA;BLA;MA;MLA;TSA;TSHA;DZA;YA;",
    "RA;LA;HA;HLA;VA;SA;SHA;WA;A];SUBJOINED LETTER [YA;RA];VOWEL SIGN [AA;I;O;OO;U;UU;E];",
    "CONSONANT SIGN [K;M;L;N;P;R;T;NYIN-DO;KANG];SIGN [RAN;NUKTA];=;=;=;PUNCTUATION [TA-ROL;",
    "NYET THYOOM TA-ROL;CER-WA;TSHOOK CER-WA;TSHOOK];DIGIT [ZERO;ONE;TWO;THREE;FOUR;FIVE;SIX;",
    "SEVEN;EIGHT;NINE];=;=;=;LETTER [TTA;TTHA;DDA]];OL CHIKI [DIGIT [ZERO;ONE;TWO;THREE;FOUR;",
    "FIVE;SIX;SEVEN;EIGHT;NINE];LETTER [LA;AT;AG;ANG;AL;LAA;AAK;AAJ;AAM;AAW;LI;IS;IH;INY;IR;LU;",
    "UC;UD;UNN;UY;LE;EP;EDD;EN;ERR;LO;OTT;OB;OV;OH];MU TTUDDAG;GAAHLAA TTUDDAAG;MU-GAAHLAA ",
    "TTUDDAAG;RELAA;PHAARKAA;AHAD;PUNCTUATION [MUCAAD;DOUBLE MUCAAD]];CYRILLIC SMALL LETTER [",
    "ROUNDED VE;LONG-LEGGED DE;NARROW O;WIDE ES;TALL TE;THREE-LEGGED TE;TALL [HARD SIGN;YAT];",
    "UNBLENDED UK]"]),
  (0x1c90, ["GEORGIAN MTAVRULI CAPITAL LETTER [AN;BAN;GAN;DON;EN;VIN;ZEN;TAN;IN;KAN;LAS;MAN;",
    "NAR;ON;PAR;ZHAR;RAE;SAN;TAR;UN;PHAR;KHAR;GHAN;QAR;SHIN;CHIN;CAN;JIL;CIL;CHAR;XAN;JHAN;HAE;",
    "HE;HIE;WE;HAR;HOE;FI;YN;ELIFI;TURNED GAN;AIN;=;=;AEN;HARD SIGN;LABIAL SIGN];SUNDANESE ",
    "PUNCTUATION BINDU [SURYA;PANGLONG;PURNAMA;CAKRA;LEU SATANGA;KA SATANGA;DA SATANGA;BA ",
    "SATANGA]"]),
  (0x1cd0, ["VEDIC [TONE [KARSHANA;SHARA;PRENKHA];SIGN [NIHSHVASA;YAJURVEDIC MIDLINE SVARITA];",
    "TONE [YAJURVEDIC [AGGRAVATED INDEPENDENT SVARITA;INDEPENDENT SVARITA;KATHAKA INDEPENDENT ",
    "SVARITA];CANDRA BELOW;YAJURVEDIC KATHAKA INDEPENDENT SVARITA SCHROEDER;DOUBLE SVARITA;",
    "TRIPLE SVARITA;KATHAKA ANUDATTA;DOT BELOW;TWO DOTS BELOW;THREE DOTS BELOW;RIGVEDIC ",
    "KASHMIRI INDEPENDENT SVARITA;ATHARVAVEDIC INDEPENDENT SVARITA];SIGN [VISARGA [SVARITA;",
    "UDATTA];REVERSED VISARGA UDATTA;VISARGA ANUDATTA;REVERSED VISARGA ANUDATTA;VISARGA [",
    "UDATTA WITH TAIL;ANUDATTA WITH TAIL];ANUSVARA [ANTARGOMUKHA;BAHIRGOMUKHA;VAMAGOMUKHA;",
    "VAMAGOMUKHA WITH TAIL];TIRYAK;HEXIFORM LONG ANUSVARA;LONG ANUSVARA;RTHANG LONG ANUSVARA;",
    "ANUSVARA UBHAYATO MUKHA;ARDHAVISARGA;ROTATED ARDHAVISARGA];TONE CANDRA ABOVE;SIGN [",
    "JIHVAMULIYA;UPADHMANIYA;ATIKRAMA];TONE [RING ABOVE;DOUBLE RING ABOVE];SIGN DOUBLE ",
    "ANUSVARA ANTARGOMUKHA];=;=;=;=;=;LATIN [LETTER SMALL CAPITAL [A;AE];SMALL LETTER TURNED ",
    "AE;LETTER SMALL CAPITAL [BARRED B;C;D;ETH;E];SMALL LETTER TURNED [OPEN E;I];LETTER SMALL ",
    "CAPITAL [J;K;L WITH STROKE;M;REVERSED N;O;OPEN O];SMALL LETTER SIDEWAYS [O;OPEN O;O WITH ",
    "STROKE];SMALL LETTER TURNED OE;LETTER SMALL CAPITAL OU;SMALL LETTER [TOP HALF O;BOTTOM ",
    "HALF O];LETTER SMALL CAPITAL [P;REVERSED R;TURNED R;T;U];SMALL LETTER SIDEWAYS [U;",
    "DIAERESIZED U;TURNED M];LETTER SMALL CAPITAL [V;W;Z;EZH];LETTER [VOICED LARYNGEAL SPIRANT;",
    "AIN]];GREEK LETTER SMALL CAPITAL [GAMMA;LAMDA;PI;RHO;PSI];CYRILLIC LETTER SMALL CAPITAL ",
    "EL;MODIFIER LETTER [CAPITAL [A;AE;B;BARRED B;D;E;REVERSED E;G;H;I;J;K;L;M;N;REVERSED N;O;",
    "OU;P;R;T;U;W];SMALL [A;TURNED A;ALPHA;TURNED AE;B;D;E;SCHWA;OPEN E;TURNED OPEN E;G;TURNED ",
    "I;K;M;ENG;O;OPEN O;TOP HALF O;BOTTOM HALF O;P;T;U;SIDEWAYS U;TURNED M;V;AIN;BETA;GREEK ",
    "GAMMA;DELTA;GREEK PHI;CHI]];LATIN SUBSCRIPT SMALL LETTER [I;R;U;V];GREEK SUBSCRIPT SMALL ",
    "LETTER [BETA;GAMMA;RHO;PHI;CHI];LATIN SMALL LETTER [UE;B WITH MIDDLE TILDE;D WITH MIDDLE ",
    "TILDE;F WITH MIDDLE TILDE;M WITH MIDDLE TILDE;N WITH MIDDLE TILDE;P WITH MIDDLE TILDE;R ",
    "WITH [MIDDLE TILDE;FISHHOOK AND MIDDLE TILDE];S WITH MIDDLE TILDE;T WITH MIDDLE TILDE;Z ",
    "WITH MIDDLE TILDE;TURNED G];MODIFIER LETTER CYRILLIC EN;LATIN SMALL [LETTER [INSULAR G;TH ",
    "WITH STRIKETHROUGH];CAPITAL LETTER I WITH STROKE;LETTER [IOTA WITH STROKE;P WITH STROKE];",
    "CAPITAL LETTER U WITH STROKE;LETTER [UPSILON WITH STROKE;B WITH PALATAL HOOK;D WITH ",
    "PALATAL HOOK;F WITH PALATAL HOOK;G WITH PALATAL HOOK;K WITH PALATAL HOOK;L WITH PALATAL ",
    "HOOK;M WITH PALATAL HOOK;N WITH PALATAL HOOK;P WITH PALATAL HOOK;R WITH PALATAL HOOK;S ",
    "WITH PALATAL HOOK;ESH WITH PALATAL HOOK;V WITH PALATAL HOOK;X WITH PALATAL HOOK;Z WITH ",
    "PALATAL HOOK;A WITH RETROFLEX HOOK;ALPHA WITH RETROFLEX HOOK;D WITH HOOK AND TAIL;E WITH ",
    "RETROFLEX HOOK;OPEN E WITH RETROFLEX HOOK;REVERSED OPEN E WITH RETROFLEX HOOK;SCHWA WITH ",
    "RETROFLEX HOOK;I WITH RETROFLEX HOOK;OPEN O WITH RETROFLEX HOOK;ESH WITH RETROFLEX HOOK;U ",
    "WITH RETROFLEX HOOK;EZH WITH RETROFLEX HOOK]];MODIFIER LETTER SMALL [TURNED ALPHA;C;C ",
    "WITH CURL;ETH;REVERSED OPEN E;F;DOTLESS J WITH STROKE;SCRIPT G;TURNED H;I WITH STROKE;",
    "IOTA;CAPITAL [I;I WITH STROKE];J WITH CROSSED-TAIL;L WITH [RETROFLEX HOOK;PALATAL HOOK];",
    "CAPITAL L;M WITH HOOK;TURNED M WITH LONG LEG;N WITH [LEFT HOOK;RETROFLEX HOOK];CAPITAL N;",
    "BARRED O;PHI;S WITH HOOK;ESH;T WITH PALATAL HOOK;U BAR;UPSILON;CAPITAL U;V WITH HOOK;",
    "TURNED V;Z;Z WITH [RETROFLEX HOOK;CURL];EZH;THETA];COMBINING [DOTTED [GRAVE ACCENT;ACUTE ",
    "ACCENT];SNAKE BELOW;SUSPENSION MARK;MACRON-ACUTE;GRAVE-MACRON;MACRON-GRAVE;ACUTE-MACRON;",
    "GRAVE-ACUTE-GRAVE;ACUTE-GRAVE-ACUTE;LATIN SMALL LETTER R BELOW;BREVE-MACRON;MACRON-BREVE;",
    "DOUBLE CIRCUMFLEX ABOVE;OGONEK ABOVE;ZIGZAG BELOW;IS BELOW;UR ABOVE;US ABOVE;LATIN [SMALL ",
    "LETTER [FLATTENED OPEN A ABOVE;AE;AO;AV;C CEDILLA;INSULAR D;ETH;G];LETTER SMALL CAPITAL G;",
    "SMALL LETTER [K;L];LETTER SMALL CAPITAL [L;M];SMALL LETTER N;LETTER SMALL CAPITAL [N;R];",
    "SMALL LETTER [R ROTUNDA;S;LONG S;Z;ALPHA;B;BETA;SCHWA;F;L WITH DOUBLE MIDDLE TILDE;O WITH ",
    "LIGHT CENTRALIZATION STROKE;P;ESH;U WITH LIGHT CENTRALIZATION STROKE;W;A WITH DIAERESIS;O ",
    "WITH DIAERESIS;U WITH DIAERESIS]];UP TACK ABOVE;KAVYKA ABOVE [RIGHT;LEFT];DOT ABOVE LEFT;",
    "WIDE INVERTED BRIDGE BELOW;DOT BELOW LEFT;DELETION MARK;DOUBLE INVERTED BREVE BELOW;",
    "ALMOST EQUAL TO BELOW;LEFT ARROWHEAD ABOVE;RIGHT ARROWHEAD AND DOWN ARROWHEAD BELOW];",
    "LATIN [CAPITAL LETTER A WITH RING BELOW;SMALL LETTER A WITH RING BELOW;CAPITAL LETTER B ",
    "WITH DOT ABOVE;SMALL LETTER B WITH DOT ABOVE;CAPITAL LETTER B WITH DOT BELOW;SMALL LETTER ",
    "B WITH DOT BELOW;CAPITAL LETTER B WITH LINE BELOW;SMALL LETTER B WITH LINE BELOW;CAPITAL ",
    "LETTER C WITH CEDILLA AND ACUTE;SMALL LETTER C WITH CEDILLA AND ACUTE;CAPITAL LETTER D ",
    "WITH DOT ABOVE;SMALL LETTER D WITH DOT ABOVE;CAPITAL LETTER D WITH DOT BELOW;SMALL LETTER ",
    "D WITH DOT BELOW;CAPITAL LETTER D WITH LINE BELOW;SMALL LETTER D WITH LINE BELOW;CAPITAL ",
    "LETTER D WITH CEDILLA;SMALL LETTER D WITH CEDILLA;CAPITAL LETTER D WITH CIRCUMFLEX BELOW;",
    "SMALL LETTER D WITH CIRCUMFLEX BELOW;CAPITAL LETTER E WITH MACRON AND GRAVE;SMALL LETTER ",
    "E WITH MACRON AND GRAVE;CAPITAL LETTER E WITH MACRON AND ACUTE;SMALL LETTER E WITH MACRON ",
    "AND ACUTE;CAPITAL LETTER E WITH CIRCUMFLEX BELOW;SMALL LETTER E WITH CIRCUMFLEX BELOW;",
    "CAPITAL LETTER E WITH TILDE BELOW;SMALL LETTER E WITH TILDE BELOW;CAPITAL LETTER E WITH ",
    "CEDILLA AND BREVE;SMALL LETTER E WITH CEDILLA AND BREVE;CAPITAL LETTER F WITH DOT ABOVE;",
    "SMALL LETTER F WITH DOT ABOVE;CAPITAL LETTER G WITH MACRON;SMALL LETTER G WITH MACRON;",
    "CAPITAL LETTER H WITH DOT ABOVE;SMALL LETTER H WITH DOT ABOVE;CAPITAL LETTER H WITH DOT ",
    "BELOW;SMALL LETTER H WITH DOT BELOW;CAPITAL LETTER H WITH DIAERESIS;SMALL LETTER H WITH ",
    "DIAERESIS;CAPITAL LETTER H WITH CEDILLA;SMALL LETTER H WITH CEDILLA;CAPITAL LETTER H WITH ",
    "BREVE BELOW;SMALL LETTER H WITH BREVE BELOW;CAPITAL LETTER I WITH TILDE BELOW;SMALL ",
    "LETTER I WITH TILDE BELOW;CAPITAL LETTER I WITH DIAERESIS AND ACUTE;SMALL LETTER I WITH ",
    "DIAERESIS AND ACUTE;CAPITAL LETTER K WITH ACUTE;SMALL LETTER K WITH ACUTE;CAPITAL LETTER ",
    "K WITH DOT BELOW;SMALL LETTER K WITH DOT BELOW;CAPITAL LETTER K WITH LINE BELOW;SMALL ",
    "LETTER K WITH LINE BELOW;CAPITAL LETTER L WITH DOT BELOW;SMALL LETTER L WITH DOT BELOW;",
    "CAPITAL LETTER L WITH DOT BELOW AND MACRON;SMALL LETTER L WITH DOT BELOW AND MACRON;",
    "CAPITAL LETTER L WITH LINE BELOW;SMALL LETTER L WITH LINE BELOW;CAPITAL LETTER L WITH ",
    "CIRCUMFLEX BELOW;SMALL LETTER L WITH CIRCUMFLEX BELOW;CAPITAL LETTER M WITH ACUTE;SMALL ",
    "LETTER M WITH ACUTE;CAPITAL LETTER M WITH DOT ABOVE;SMALL LETTER M WITH DOT ABOVE;CAPITAL ",
    "LETTER M WITH DOT BELOW;SMALL LETTER M WITH DOT BELOW;CAPITAL LETTER N WITH DOT ABOVE;",
    "SMALL LETTER N WITH DOT ABOVE;CAPITAL LETTER N WITH DOT BELOW;SMALL LETTER N WITH DOT ",
    "BELOW;CAPITAL LETTER N WITH LINE BELOW;SMALL LETTER N WITH LINE BELOW;CAPITAL LETTER N ",
    "WITH CIRCUMFLEX BELOW;SMALL LETTER N WITH CIRCUMFLEX BELOW;CAPITAL LETTER O WITH TILDE ",
    "AND ACUTE;SMALL LETTER O WITH TILDE AND ACUTE;CAPITAL LETTER O WITH TILDE AND DIAERESIS;",
    "SMALL LETTER O WITH TILDE AND DIAERESIS;CAPITAL LETTER O WITH MACRON AND GRAVE;SMALL ",
    "LETTER O WITH MACRON AND GRAVE;CAPITAL LETTER O WITH MACRON AND ACUTE;SMALL LETTER O WITH ",
    "MACRON AND ACUTE;CAPITAL LETTER P WITH ACUTE;SMALL LETTER P WITH ACUTE;CAPITAL LETTER P ",
    "WITH DOT ABOVE;SMALL LETTER P WITH DOT ABOVE;CAPITAL LETTER R WITH DOT ABOVE;SMALL LETTER ",
    "R WITH DOT ABOVE;CAPITAL LETTER R WITH DOT BELOW;SMALL LETTER R WITH DOT BELOW;CAPITAL ",
    "LETTER R WITH DOT BELOW AND MACRON;SMALL LETTER R WITH DOT BELOW AND MACRON;CAPITAL ",
    "LETTER R WITH LINE BELOW;SMALL LETTER R WITH LINE BELOW;CAPITAL LETTER S WITH DOT ABOVE;",
    "SMALL LETTER S WITH DOT ABOVE;CAPITAL LETTER S WITH DOT BELOW;SMALL LETTER S WITH DOT ",
    "BELOW;CAPITAL LETTER S WITH ACUTE AND DOT ABOVE;SMALL LETTER S WITH ACUTE AND DOT ABOVE;",
    "CAPITAL LETTER S WITH CARON AND DOT ABOVE;SMALL LETTER S WITH CARON AND DOT ABOVE;CAPITAL ",
    "LETTER S WITH DOT BELOW AND DOT ABOVE;SMALL LETTER S WITH DOT BELOW AND DOT ABOVE;CAPITAL ",
    "LETTER T WITH DOT ABOVE;SMALL LETTER T WITH DOT ABOVE;CAPITAL LETTER T WITH DOT BELOW;",
    "SMALL LETTER T WITH DOT BELOW;CAPITAL LETTER T WITH LINE BELOW;SMALL LETTER T WITH LINE ",
    "BELOW;CAPITAL LETTER T WITH CIRCUMFLEX BELOW;SMALL LETTER T WITH CIRCUMFLEX BELOW;CAPITAL ",
    "LETTER U WITH DIAERESIS BELOW;SMALL LETTER U WITH DIAERESIS BELOW;CAPITAL LETTER U WITH ",
    "TILDE BELOW;SMALL LETTER U WITH TILDE BELOW;CAPITAL LETTER U WITH CIRCUMFLEX BELOW;SMALL ",
    "LETTER U WITH CIRCUMFLEX BELOW;CAPITAL LETTER U WITH TILDE AND ACUTE;SMALL LETTER U WITH ",
    "TILDE AND ACUTE;CAPITAL LETTER U WITH MACRON AND DIAERESIS;SMALL LETTER U WITH MACRON AND ",
    "DIAERESIS;CAPITAL LETTER V WITH TILDE;SMALL LETTER V WITH TILDE;CAPITAL LETTER V WITH DOT ",
    "BELOW;SMALL LETTER V WITH DOT BELOW;CAPITAL LETTER W WITH GRAVE;SMALL LETTER W WITH GRAVE;",
    "CAPITAL LETTER W WITH ACUTE;SMALL LETTER W WITH ACUTE;CAPITAL LETTER W WITH DIAERESIS;",
    "SMALL LETTER W WITH DIAERESIS;CAPITAL LETTER W WITH DOT ABOVE;SMALL LETTER W WITH DOT ",
    "ABOVE;CAPITAL LETTER W WITH DOT BELOW;SMALL LETTER W WITH DOT BELOW;CAPITAL LETTER X WITH ",
    "DOT ABOVE;SMALL LETTER X WITH DOT ABOVE;CAPITAL LETTER X WITH DIAERESIS;SMALL LETTER X ",
    "WITH DIAERESIS;CAPITAL LETTER Y WITH DOT ABOVE;SMALL LETTER Y WITH DOT ABOVE;CAPITAL ",
    "LETTER Z WITH CIRCUMFLEX;SMALL LETTER Z WITH CIRCUMFLEX;CAPITAL LETTER Z WITH DOT BELOW;",
    "SMALL LETTER Z WITH DOT BELOW;CAPITAL LETTER Z WITH LINE BELOW;SMALL LETTER [Z WITH LINE ",
    "BELOW;H WITH LINE BELOW;T WITH DIAERESIS;W WITH RING ABOVE;Y WITH RING ABOVE;A WITH RIGHT ",
    "HALF RING;LONG S WITH [DOT ABOVE;DIAGONAL STROKE;HIGH STROKE]];CAPITAL LETTER SHARP S;",
    "SMALL LETTER DELTA;CAPITAL LETTER A WITH DOT BELOW;SMALL LETTER A WITH DOT BELOW;CAPITAL ",
    "LETTER A WITH HOOK ABOVE;SMALL LETTER A WITH HOOK ABOVE;CAPITAL LETTER A WITH CIRCUMFLEX ",
    "AND ACUTE;SMALL LETTER A WITH CIRCUMFLEX AND ACUTE;CAPITAL LETTER A WITH CIRCUMFLEX AND ",
    "GRAVE;SMALL LETTER A WITH CIRCUMFLEX AND GRAVE;CAPITAL LETTER A WITH CIRCUMFLEX AND HOOK ",
    "ABOVE;SMALL LETTER A WITH CIRCUMFLEX AND HOOK ABOVE;CAPITAL LETTER A WITH CIRCUMFLEX AND ",
    "TILDE;SMALL LETTER A WITH CIRCUMFLEX AND TILDE;CAPITAL LETTER A WITH CIRCUMFLEX AND DOT ",
    "BELOW;SMALL LETTER A WITH CIRCUMFLEX AND DOT BELOW;CAPITAL LETTER A WITH BREVE AND ACUTE;",
    "SMALL LETTER A WITH BREVE AND ACUTE;CAPITAL LETTER A WITH BREVE AND GRAVE;SMALL LETTER A ",
    "WITH BREVE AND GRAVE;CAPITAL LETTER A WITH BREVE AND HOOK ABOVE;SMALL LETTER A WITH BREVE ",
    "AND HOOK ABOVE;CAPITAL LETTER A WITH BREVE AND TILDE;SMALL LETTER A WITH BREVE AND TILDE;",
    "CAPITAL LETTER A WITH BREVE AND DOT BELOW;SMALL LETTER A WITH BREVE AND DOT BELOW;CAPITAL ",
    "LETTER E WITH DOT BELOW;SMALL LETTER E WITH DOT BELOW;CAPITAL LETTER E WITH HOOK ABOVE;",
    "SMALL LETTER E WITH HOOK ABOVE;CAPITAL LETTER E WITH TILDE;SMALL LETTER E WITH TILDE;",
    "CAPITAL LETTER E WITH CIRCUMFLEX AND ACUTE;SMALL LETTER E WITH CIRCUMFLEX AND ACUTE;",
    "CAPITAL LETTER E WITH CIRCUMFLEX AND GRAVE;SMALL LETTER E WITH CIRCUMFLEX AND GRAVE;",
    "CAPITAL LETTER E WITH CIRCUMFLEX AND HOOK ABOVE;SMALL LETTER E WITH CIRCUMFLEX AND HOOK ",
    "ABOVE;CAPITAL LETTER E WITH CIRCUMFLEX AND TILDE;SMALL LETTER E WITH CIRCUMFLEX AND TILDE;",
    "CAPITAL LETTER E WITH CIRCUMFLEX AND DOT BELOW;SMALL LETTER E WITH CIRCUMFLEX AND DOT ",
    "BELOW;CAPITAL LETTER I WITH HOOK ABOVE;SMALL LETTER I WITH HOOK ABOVE;CAPITAL LETTER I ",
    "WITH DOT BELOW;SMALL LETTER I WITH DOT BELOW;CAPITAL LETTER O WITH DOT BELOW;SMALL LETTER ",
    "O WITH DOT BELOW;CAPITAL LETTER O WITH HOOK ABOVE;SMALL LETTER O WITH HOOK ABOVE;CAPITAL ",
    "LETTER O WITH CIRCUMFLEX AND ACUTE;SMALL LETTER O WITH CIRCUMFLEX AND ACUTE;CAPITAL ",
    "LETTER O WITH CIRCUMFLEX AND GRAVE;SMALL LETTER O WITH CIRCUMFLEX AND GRAVE;CAPITAL ",
    "LETTER O WITH CIRCUMFLEX AND HOOK ABOVE;SMALL LETTER O WITH CIRCUMFLEX AND HOOK ABOVE;",
    "CAPITAL LETTER O WITH CIRCUMFLEX AND TILDE;SMALL LETTER O WITH CIRCUMFLEX AND TILDE;",
    "CAPITAL LETTER O WITH CIRCUMFLEX AND DOT BELOW;SMALL LETTER O WITH CIRCUMFLEX AND DOT ",
    "BELOW;CAPITAL LETTER O WITH HORN AND ACUTE;SMALL LETTER O WITH HORN AND ACUTE;CAPITAL ",
    "LETTER O WITH HORN AND GRAVE;SMALL LETTER O WITH HORN AND GRAVE;CAPITAL LETTER O WITH ",
    "HORN AND HOOK ABOVE;SMALL LETTER O WITH HORN AND HOOK ABOVE;CAPITAL LETTER O WITH HORN ",
    "AND TILDE;SMALL LETTER O WITH HORN AND TILDE;CAPITAL LETTER O WITH HORN AND DOT BELOW;",
    "SMALL LETTER O WITH HORN AND DOT BELOW;CAPITAL LETTER U WITH DOT BELOW;SMALL LETTER U ",
    "WITH DOT BELOW;CAPITAL LETTER U WITH HOOK ABOVE;SMALL LETTER U WITH HOOK ABOVE;CAPITAL ",
    "LETTER U WITH HORN AND ACUTE;SMALL LETTER U WITH HORN AND ACUTE;CAPITAL LETTER U WITH ",
    "HORN AND GRAVE;SMALL LETTER U WITH HORN AND GRAVE;CAPITAL LETTER U WITH HORN AND HOOK ",
    "ABOVE;SMALL LETTER U WITH HORN AND HOOK ABOVE;CAPITAL LETTER U WITH HORN AND TILDE;SMALL ",
    "LETTER U WITH HORN AND TILDE;CAPITAL LETTER U WITH HORN AND DOT BELOW;SMALL LETTER U WITH ",
    "HORN AND DOT BELOW;CAPITAL LETTER Y WITH GRAVE;SMALL LETTER Y WITH GRAVE;CAPITAL LETTER Y ",
    "WITH DOT BELOW;SMALL LETTER Y WITH DOT BELOW;CAPITAL LETTER Y WITH HOOK ABOVE;SMALL ",
    "LETTER Y WITH HOOK ABOVE;CAPITAL LETTER Y WITH TILDE;SMALL LETTER Y WITH TILDE;CAPITAL ",
    "LETTER MIDDLE-WELSH LL;SMALL LETTER MIDDLE-WELSH LL;CAPITAL LETTER MIDDLE-WELSH V;SMALL ",
    "LETTER MIDDLE-WELSH V;CAPITAL LETTER Y WITH LOOP;SMALL LETTER Y WITH LOOP];GREEK [SMALL ",
    "LETTER ALPHA WITH [PSILI;DASIA;PSILI AND VARIA;DASIA AND VARIA;PSILI AND OXIA;DASIA AND ",
    "OXIA;PSILI AND PERISPOMENI;DASIA AND PERISPOMENI];CAPITAL LETTER ALPHA WITH [PSILI;DASIA;",
    "PSILI AND VARIA;DASIA AND VARIA;PSILI AND OXIA;DASIA AND OXIA;PSILI AND PERISPOMENI;DASIA ",
    "AND PERISPOMENI];SMALL LETTER EPSILON WITH [PSILI;DASIA;PSILI AND VARIA;DASIA AND VARIA;",
    "PSILI AND OXIA;DASIA AND OXIA];=;=;CAPITAL LETTER EPSILON WITH [PSILI;DASIA;PSILI AND ",
    "VARIA;DASIA AND VARIA;PSILI AND OXIA;DASIA AND OXIA];=;=;SMALL LETTER ETA WITH [PSILI;",
    "DASIA;PSILI AND VARIA;DASIA AND VARIA;PSILI AND OXIA;DASIA AND OXIA;PSILI AND PERISPOMENI;",
    "DASIA AND PERISPOMENI];CAPITAL LETTER ETA WITH [PSILI;DASIA;PSILI AND VARIA;DASIA AND ",
    "VARIA;PSILI AND OXIA;DASIA AND OXIA;PSILI AND PERISPOMENI;DASIA AND PERISPOMENI];SMALL ",
    "LETTER IOTA WITH [PSILI;DASIA;PSILI AND VARIA;DASIA AND VARIA;PSILI AND OXIA;DASIA AND ",
    "OXIA;PSILI AND PERISPOMENI;DASIA AND PERISPOMENI];CAPITAL LETTER IOTA WITH [PSILI;DASIA;",
    "PSILI AND VARIA;DASIA AND VARIA;PSILI AND OXIA;DASIA AND OXIA;PSILI AND PERISPOMENI;DASIA ",
    "AND PERISPOMENI];SMALL LETTER OMICRON WITH [PSILI;DASIA;PSILI AND VARIA;DASIA AND VARIA;",
    "PSILI AND OXIA;DASIA AND OXIA];=;=;CAPITAL LETTER OMICRON WITH [PSILI;DASIA;PSILI AND ",
    "VARIA;DASIA AND VARIA;PSILI AND OXIA;DASIA AND OXIA];=;=;SMALL LETTER UPSILON WITH [PSILI;",
    "DASIA;PSILI AND VARIA;DASIA AND VARIA;PSILI AND OXIA;DASIA AND OXIA;PSILI AND PERISPOMENI;",
    "DASIA AND PERISPOMENI];=;CAPITAL LETTER UPSILON WITH [DASIA;=;DASIA AND [VARIA;=;OXIA;=;",
    "PERISPOMENI]];SMALL LETTER OMEGA WITH [PSILI;DASIA;PSILI AND VARIA;DASIA AND VARIA;PSILI ",
    "AND OXIA;DASIA AND OXIA;PSILI AND PERISPOMENI;DASIA AND PERISPOMENI];CAPITAL LETTER OMEGA ",
    "WITH [PSILI;DASIA;PSILI AND VARIA;DASIA AND VARIA;PSILI AND OXIA;DASIA AND OXIA;PSILI AND ",
    "PERISPOMENI;DASIA AND PERISPOMENI];SMALL LETTER [ALPHA WITH [VARIA;OXIA];EPSILON WITH [",
    "VARIA;OXIA];ETA WITH [VARIA;OXIA];IOTA WITH [VARIA;OXIA];OMICRON WITH [VARIA;OXIA];",
    "UPSILON WITH [VARIA;OXIA];OMEGA WITH [VARIA;OXIA];=;=;ALPHA WITH [PSILI AND YPOGEGRAMMENI;",
    "DASIA AND YPOGEGRAMMENI;PSILI AND VARIA AND YPOGEGRAMMENI;DASIA AND VARIA AND ",
    "YPOGEGRAMMENI;PSILI AND OXIA AND YPOGEGRAMMENI;DASIA AND OXIA AND YPOGEGRAMMENI;PSILI AND ",
    "PERISPOMENI AND YPOGEGRAMMENI;DASIA AND PERISPOMENI AND YPOGEGRAMMENI]];CAPITAL LETTER ",
    "ALPHA WITH [PSILI AND PROSGEGRAMMENI;DASIA AND PROSGEGRAMMENI;PSILI AND VARIA AND ",
    "PROSGEGRAMMENI;DASIA AND VARIA AND PROSGEGRAMMENI;PSILI AND OXIA AND PROSGEGRAMMENI;DASIA ",
    "AND OXIA AND PROSGEGRAMMENI;PSILI AND PERISPOMENI AND PROSGEGRAMMENI;DASIA AND ",
    "PERISPOMENI AND PROSGEGRAMMENI];SMALL LETTER ETA WITH [PSILI AND YPOGEGRAMMENI;DASIA AND ",
    "YPOGEGRAMMENI;PSILI AND VARIA AND YPOGEGRAMMENI;DASIA AND VARIA AND YPOGEGRAMMENI;PSILI ",
    "AND OXIA AND YPOGEGRAMMENI;DASIA AND OXIA AND YPOGEGRAMMENI;PSILI AND PERISPOMENI AND ",
    "YPOGEGRAMMENI;DASIA AND PERISPOMENI AND YPOGEGRAMMENI];CAPITAL LETTER ETA WITH [PSILI AND ",
    "PROSGEGRAMMENI;DASIA AND PROSGEGRAMMENI;PSILI AND VARIA AND PROSGEGRAMMENI;DASIA AND ",
    "VARIA AND PROSGEGRAMMENI;PSILI AND OXIA AND PROSGEGRAMMENI;DASIA AND OXIA AND ",
    "PROSGEGRAMMENI;PSILI AND PERISPOMENI AND PROSGEGRAMMENI;DASIA AND PERISPOMENI AND ",
    "PROSGEGRAMMENI];SMALL LETTER OMEGA WITH [PSILI AND YPOGEGRAMMENI;DASIA AND YPOGEGRAMMENI;",
    "PSILI AND VARIA AND YPOGEGRAMMENI;DASIA AND VARIA AND YPOGEGRAMMENI;PSILI AND OXIA AND ",
    "YPOGEGRAMMENI;DASIA AND OXIA AND YPOGEGRAMMENI;PSILI AND PERISPOMENI AND YPOGEGRAMMENI;",
    "DASIA AND PERISPOMENI AND YPOGEGRAMMENI];CAPITAL LETTER OMEGA WITH [PSILI AND ",
    "PROSGEGRAMMENI;DASIA AND PROSGEGRAMMENI;PSILI AND VARIA AND PROSGEGRAMMENI;DASIA AND ",
    "VARIA AND PROSGEGRAMMENI;PSILI AND OXIA AND PROSGEGRAMMENI;DASIA AND OXIA AND ",
    "PROSGEGRAMMENI;PSILI AND PERISPOMENI AND PROSGEGRAMMENI;DASIA AND PERISPOMENI AND ",
    "PROSGEGRAMMENI];SMALL LETTER ALPHA WITH [VRACHY;MACRON;VARIA AND YPOGEGRAMMENI;",
    "YPOGEGRAMMENI;OXIA AND YPOGEGRAMMENI;=;PERISPOMENI;PERISPOMENI AND YPOGEGRAMMENI];CAPITAL ",
    "LETTER ALPHA WITH [VRACHY;MACRON;VARIA;OXIA;PROSGEGRAMMENI];KORONIS;PROSGEGRAMMENI;PSILI;",
    "PERISPOMENI;DIALYTIKA AND PERISPOMENI;SMALL LETTER ETA WITH [VARIA AND YPOGEGRAMMENI;",
    "YPOGEGRAMMENI;OXIA AND YPOGEGRAMMENI;=;PERISPOMENI;PERISPOMENI AND YPOGEGRAMMENI];CAPITAL ",
    "LETTER [EPSILON WITH [VARIA;OXIA];ETA WITH [VARIA;OXIA;PROSGEGRAMMENI]];PSILI AND [VARIA;",
    "OXIA;PERISPOMENI];SMALL LETTER IOTA WITH [VRACHY;MACRON;DIALYTIKA AND [VARIA;OXIA];=;=;",
    "PERISPOMENI;DIALYTIKA AND PERISPOMENI];CAPITAL LETTER IOTA WITH [VRACHY;MACRON;VARIA;",
    "OXIA];=;DASIA AND [VARIA;OXIA;PERISPOMENI];SMALL LETTER [UPSILON WITH [VRACHY;MACRON;",
    "DIALYTIKA AND [VARIA;OXIA]];RHO WITH [PSILI;DASIA];UPSILON WITH [PERISPOMENI;DIALYTIKA ",
    "AND PERISPOMENI]];CAPITAL LETTER UPSILON WITH [VRACHY;MACRON;VARIA;OXIA];CAPITAL LETTER ",
    "RHO WITH DASIA;DIALYTIKA AND [VARIA;OXIA];VARIA;=;=;SMALL LETTER OMEGA WITH [VARIA AND ",
    "YPOGEGRAMMENI;YPOGEGRAMMENI;OXIA AND YPOGEGRAMMENI;=;PERISPOMENI;PERISPOMENI AND ",
    "YPOGEGRAMMENI];CAPITAL LETTER [OMICRON WITH [VARIA;OXIA];OMEGA WITH [VARIA;OXIA;",
    "PROSGEGRAMMENI]];OXIA;DASIA];=;EN QUAD;EM QUAD;EN SPACE;EM SPACE;THREE-PER-EM SPACE;",
    "FOUR-PER-EM SPACE;SIX-PER-EM SPACE;FIGURE SPACE;PUNCTUATION SPACE;THIN SPACE;HAIR SPACE;",
    "ZERO WIDTH [SPACE;NON-JOINER;JOINER];LEFT-TO-RIGHT MARK;RIGHT-TO-LEFT MARK;HYPHEN;",
    "NON-BREAKING HYPHEN;FIGURE DASH;EN DASH;EM DASH;HORIZONTAL BAR;DOUBLE [VERTICAL LINE;LOW ",
    "LINE];LEFT SINGLE QUOTATION MARK;RIGHT SINGLE QUOTATION MARK;SINGLE [LOW-9 QUOTATION MARK;",
    "HIGH-REVERSED-9 QUOTATION MARK];LEFT DOUBLE QUOTATION MARK;RIGHT DOUBLE QUOTATION MARK;",
    "DOUBLE [LOW-9 QUOTATION MARK;HIGH-REVERSED-9 QUOTATION MARK];DAGGER;DOUBLE DAGGER;BULLET;",
    "TRIANGULAR BULLET;ONE DOT LEADER;TWO DOT LEADER;HORIZONTAL ELLIPSIS;HYPHENATION POINT;",
    "LINE SEPARATOR;PARAGRAPH SEPARATOR;LEFT-TO-RIGHT EMBEDDING;RIGHT-TO-LEFT EMBEDDING;POP ",
    "DIRECTIONAL FORMATTING;LEFT-TO-RIGHT OVERRIDE;RIGHT-TO-LEFT OVERRIDE;NARROW NO-BREAK ",
    "SPACE;PER [MILLE SIGN;TEN THOUSAND SIGN];PRIME;DOUBLE PRIME;TRIPLE PRIME;REVERSED [PRIME;",
    "DOUBLE PRIME;TRIPLE PRIME];CARET;SINGLE [LEFT-POINTING ANGLE QUOTATION MARK;",
    "RIGHT-POINTING ANGLE QUOTATION MARK];REFERENCE MARK;DOUBLE EXCLAMATION MARK;INTERROBANG;",
    "OVERLINE;UNDERTIE;CHARACTER TIE;CARET INSERTION POINT;ASTERISM;HYPHEN BULLET;FRACTION ",
    "SLASH;LEFT SQUARE BRACKET WITH QUILL;RIGHT SQUARE BRACKET WITH QUILL;DOUBLE QUESTION MARK;",
    "QUESTION EXCLAMATION MARK;EXCLAMATION QUESTION MARK;TIRONIAN SIGN ET;REVERSED PILCROW ",
    "SIGN;BLACK [LEFTWARDS BULLET;RIGHTWARDS BULLET];LOW ASTERISK;REVERSED SEMICOLON;CLOSE UP;",
    "TWO ASTERISKS ALIGNED VERTICALLY;COMMERCIAL MINUS SIGN;SWUNG DASH;INVERTED UNDERTIE;",
    "FLOWER PUNCTUATION MARK;THREE DOT PUNCTUATION;QUADRUPLE PRIME;FOUR DOT PUNCTUATION;FIVE ",
    "DOT PUNCTUATION;TWO DOT PUNCTUATION;FOUR DOT MARK;DOTTED CROSS;TRICOLON;VERTICAL FOUR ",
    "DOTS;MEDIUM MATHEMATICAL SPACE;WORD JOINER;FUNCTION APPLICATION;INVISIBLE [TIMES;",
    "SEPARATOR;PLUS];=;LEFT-TO-RIGHT ISOLATE;RIGHT-TO-LEFT ISOLATE;FIRST STRONG ISOLATE;POP ",
    "DIRECTIONAL ISOLATE;INHIBIT SYMMETRIC SWAPPING;ACTIVATE SYMMETRIC SWAPPING;INHIBIT ARABIC ",
    "FORM SHAPING;ACTIVATE ARABIC FORM SHAPING;NATIONAL DIGIT SHAPES;NOMINAL DIGIT SHAPES;",
    "SUPERSCRIPT [ZERO;LATIN SMALL LETTER I;=;=;FOUR;FIVE;SIX;SEVEN;EIGHT;NINE;PLUS SIGN;MINUS;",
    "EQUALS SIGN;LEFT PARENTHESIS;RIGHT PARENTHESIS;LATIN SMALL LETTER N];SUBSCRIPT [ZERO;ONE;",
    "TWO;THREE;FOUR;FIVE;SIX;SEVEN;EIGHT;NINE;PLUS SIGN;MINUS;EQUALS SIGN;LEFT PARENTHESIS;",
    "RIGHT PARENTHESIS];=;LATIN SUBSCRIPT SMALL LETTER [A;E;O;X;SCHWA;H;K;L;M;N;P;S;T];=;=;=;",
    "EURO-CURRENCY SIGN;COLON SIGN;CRUZEIRO SIGN;FRENCH FRANC SIGN;LIRA SIGN;MILL SIGN;NAIRA ",
    "SIGN;PESETA SIGN;RUPEE SIGN;WON SIGN;NEW SHEQEL SIGN;DONG SIGN;EURO SIGN;KIP SIGN;TUGRIK ",
    "SIGN;DRACHMA SIGN;GERMAN PENNY SIGN;PESO SIGN;GUARANI SIGN;AUSTRAL SIGN;HRYVNIA SIGN;CEDI ",
    "SIGN;LIVRE TOURNOIS SIGN;SPESMILO SIGN;TENGE SIGN;INDIAN RUPEE SIGN;TURKISH LIRA SIGN;",
    "NORDIC MARK SIGN;MANAT SIGN;RUBLE SIGN;LARI SIGN;BITCOIN SIGN;SOM SIGN"])]

end Mend.Text.CharName
