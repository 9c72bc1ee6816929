namespace Mend.Text.CharName

def oldScripts : List (Nat × List String) := [
  (0x10080, ["LINEAR B [IDEOGRAM B[100 MAN;102 WOMAN;104 DEER;105 EQUID;105F MARE;105M ",
    "STALLION;106F EWE;106M RAM;107F SHE-GOAT;107M HE-GOAT;108F SOW;108M BOAR;109F COW;109M ",
    "BULL;120 WHEAT;121 BARLEY;122 OLIVE;123 SPICE;125 CYPERUS];MONOGRAM B[127 KAPO;128 ",
    "KANAKO];IDEOGRAM B[130 OIL;131 WINE;132];MONOGRAM B[133 AREPA;135 MERI];IDEOGRAM B[140 ",
    "BRONZE;141 GOLD;142;145 WOOL;146;150;151 HORN;152;153;154];MONOGRAM B156 TURO2;IDEOGRAM B[",
    "157;158;159 CLOTH;160;161;162 GARMENT;163 ARMOUR;164;165;166;167;168;169;170;171;172;173 ",
    "MONTH;174;176 TREE;177;178;179;180;181;182;183;184;185;189;190;191 HELMET;220 FOOTSTOOL;",
    "225 BATHTUB;230 SPEAR;231 ARROW;232;233 SWORD;234;236;240 WHEELED CHARIOT;241 CHARIOT;242 ",
    "CHARIOT FRAME;243 WHEEL;245;246];MONOGRAM B247 DIPTE;IDEOGRAM [B[248;249;251;252;253;254 ",
    "DART;255;256;257;258;259];VESSEL B[155;200;201;202;203;204;205;206;207;208;209;210;211;",
    "212;213;214;215;216;217;218;219;221;222;226;227;228;229;250;305]]];=;=;=;=;=;AEGEAN [WORD ",
    "SEPARATOR [LINE;DOT];CHECK MARK;=;=;=;=;NUMBER [ONE;TWO;THREE;FOUR;FIVE;SIX;SEVEN;EIGHT;",
    "NINE;TEN;TWENTY;THIRTY;FORTY;FIFTY;SIXTY;SEVENTY;EIGHTY;NINETY;ONE HUNDRED;TWO HUNDRED;",
    "THREE HUNDRED;FOUR HUNDRED;FIVE HUNDRED;SIX HUNDRED;SEVEN HUNDRED;EIGHT HUNDRED;NINE ",
    "HUNDRED;ONE THOUSAND;TWO THOUSAND;THREE THOUSAND;FOUR THOUSAND;FIVE THOUSAND;SIX THOUSAND;",
    "SEVEN THOUSAND;EIGHT THOUSAND;NINE THOUSAND;TEN THOUSAND;TWENTY THOUSAND;THIRTY THOUSAND;",
    "FORTY THOUSAND;FIFTY THOUSAND;SIXTY THOUSAND;SEVENTY THOUSAND;EIGHTY THOUSAND;NINETY ",
    "THOUSAND];=;=;=;WEIGHT [BASE UNIT;FIRST SUBUNIT;SECOND SUBUNIT;THIRD SUBUNIT;FOURTH ",
    "SUBUNIT];DRY MEASURE FIRST SUBUNIT;LIQUID MEASURE FIRST SUBUNIT;MEASURE [SECOND SUBUNIT;",
    "THIRD SUBUNIT]];GREEK ACROPHONIC [ATTIC [ONE [QUARTER;HALF;DRACHMA];FIVE;FIFTY;FIVE [",
    "HUNDRED;THOUSAND];FIFTY THOUSAND;FIVE TALENTS;TEN TALENTS;FIFTY TALENTS;ONE HUNDRED ",
    "TALENTS;FIVE HUNDRED TALENTS;ONE THOUSAND TALENTS;FIVE [THOUSAND TALENTS;STATERS];TEN ",
    "STATERS;FIFTY STATERS;ONE HUNDRED STATERS;FIVE HUNDRED STATERS;ONE THOUSAND STATERS;TEN ",
    "THOUSAND STATERS;FIFTY THOUSAND STATERS;TEN MNAS];HERAEUM ONE PLETHRON;THESPIAN ONE;",
    "HERMIONIAN ONE;EPIDAUREAN TWO;THESPIAN TWO;CYRENAIC TWO DRACHMAS;EPIDAUREAN TWO DRACHMAS;",
    "TROEZENIAN [FIVE;TEN;TEN ALTERNATE FORM];HERMIONIAN TEN;MESSENIAN TEN;THESPIAN [TEN;",
    "THIRTY];TROEZENIAN [FIFTY;FIFTY ALTERNATE FORM];HERMIONIAN FIFTY;THESPIAN [FIFTY;ONE ",
    "HUNDRED;THREE HUNDRED];EPIDAUREAN FIVE HUNDRED;TROEZENIAN FIVE HUNDRED;THESPIAN FIVE ",
    "HUNDRED;CARYSTIAN FIVE HUNDRED;NAXIAN FIVE HUNDRED;THESPIAN [ONE THOUSAND;FIVE THOUSAND];",
    "DELPHIC FIVE MNAS;STRATIAN FIFTY MNAS];GREEK [ONE HALF [SIGN;SIGN ALTERNATE FORM];TWO ",
    "THIRDS SIGN;THREE QUARTERS SIGN;YEAR SIGN;TALENT SIGN;DRACHMA SIGN;OBOL SIGN;TWO OBOLS ",
    "SIGN;THREE OBOLS SIGN;FOUR OBOLS SIGN;FIVE OBOLS SIGN;METRETES SIGN;KYATHOS BASE SIGN;",
    "LITRA SIGN;OUNKIA SIGN;XESTES SIGN;ARTABE SIGN;AROURA SIGN;GRAMMA SIGN;TRYBLION BASE SIGN;",
    "ZERO SIGN;ONE QUARTER SIGN;SINUSOID SIGN;INDICTION SIGN];NOMISMA SIGN;=;ROMAN [SEXTANS ",
    "SIGN;UNCIA SIGN;SEMUNCIA SIGN;SEXTULA SIGN;DIMIDIA SEXTULA SIGN;SILIQUA SIGN;DENARIUS ",
    "SIGN;QUINARIUS SIGN;SESTERTIUS SIGN;DUPONDIUS SIGN;AS SIGN;CENTURIAL SIGN];ASCIA SYMBOL;=;",
    "=;=;GREEK SYMBOL TAU RHO"]),
  (0x101d0, ["PHAISTOS DISC SIGN [PEDESTRIAN;PLUMED HEAD;TATTOOED HEAD;CAPTIVE;CHILD;WOMAN;",
    "HELMET;GAUNTLET;TIARA;ARROW;BOW;SHIELD;CLUB;MANACLES;MATTOCK;SAW;LID;BOOMERANG;CARPENTRY ",
    "PLANE;DOLIUM;COMB;SLING;COLUMN;BEEHIVE;SHIP;HORN;HIDE;BULLS LEG;CAT;RAM;EAGLE;DOVE;TUNNY;",
    "BEE;PLANE TREE;VINE;PAPYRUS;ROSETTE;LILY;OX BACK;FLUTE;GRATER;STRAINER;SMALL AXE;WAVY ",
    "BAND;COMBINING OBLIQUE STROKE]"]),
  (0x10280, ["LYCIAN LETTER [A;E;B;BH;G;D;I;W;Z;TH;J;K;Q;L;M;N;MM;NN;U;P;KK;R;S;T;TT;AN;EN;H;",
    "X];=;=;=;CARIAN LETTER [A;P2;D;L;UUU;R;LD;A2;Q;B;M;O;D2;T;SH;SH2;S;C-18;U;NN;X;N;TT2;P;SS;",
    "I;E;UUUU;K;K2;ND;UU;G;G2;ST;ST2;NG;II;C-39;TT;UUU2;RR;MB;MB[2;3;4];LD2;E2;UUU3]"]),
  (0x102e0, ["COPTIC EPACT [THOUSANDS MARK;DIGIT [ONE;TWO;THREE;FOUR;FIVE;SIX;SEVEN;EIGHT;",
    "NINE];NUMBER [TEN;TWENTY;THIRTY;FORTY;FIFTY;SIXTY;SEVENTY;EIGHTY;NINETY;ONE HUNDRED;TWO ",
    "HUNDRED;THREE HUNDRED;FOUR HUNDRED;FIVE HUNDRED;SIX HUNDRED;SEVEN HUNDRED;EIGHT HUNDRED;",
    "NINE HUNDRED]];=;=;=;=;OLD ITALIC LETTER [A;BE;KE;DE;E;VE;ZE;HE;THE;I;KA;EL;EM;EN;ESH;O;",
    "PE;SHE;KU;ER;ES;TE;U;EKS;PHE;KHE;EF;ERS;CHE;II;UU;ESS];OLD ITALIC NUMERAL [ONE;FIVE;TEN;",
    "FIFTY]"]),
  (0x1032d, ["OLD ITALIC LETTER [YE;NORTHERN TSE;SOUTHERN TSE];GOTHIC LETTER [AHSA;BAIRKAN;",
    "GIBA;DAGS;AIHVUS;QAIRTHRA;IUJA;HAGL;THIUTH;EIS;KUSMA;LAGUS;MANNA;NAUTHS;JER;URUS;PAIRTHRA;",
    "NINETY;RAIDA;SAUIL;TEIWS;WINJA;FAIHU;IGGWS;HWAIR;OTHAL;NINE HUNDRED];=;=;=;=;=;OLD PERMIC ",
    "LETTER [AN;BUR;GAI;DOI;E;ZHOI;DZHOI;ZATA;DZITA;I;KOKE;LEI;MENOE;NENOE;VOOI;PEEI;REI;SII;",
    "TAI;U;CHERY;SHOOI;SHCHOOI;YRY;YERU;O;OO;EF;HA;TSIU;VER;YER;YERI;YAT;IE;YU;YA;IA];",
    "COMBINING OLD PERMIC LETTER [AN;DOI;ZATA;NENOE;SII];=;=;=;=;=;UGARITIC LETTER [ALPA;BETA;",
    "GAMLA;KHA;DELTA;HO;WO;ZETA;HOTA;TET;YOD;KAF;SHIN;LAMDA;MEM;DHAL;NUN;ZU;SAMKA;AIN;PU;SADE;",
    "QOPA;RASHA;THANNA;GHAIN;TO;I;U;SSU];=;UGARITIC WORD DIVIDER;OLD PERSIAN SIGN [A;I;U;KA;KU;",
    "GA;GU;XA;CA;JA;JI;TA;TU;DA;DI;DU;THA;PA;BA;FA;NA;NU;MA;MI;MU;YA;VA;VI;RA;RU;LA;SA;ZA;SHA;",
    "SSA;HA;=;=;=;=;AURAMAZDAA;AURAMAZDAA-2;AURAMAZDAAHA;XSHAAYATHIYA;DAHYAAUSH;DAHYAAUSH-2;",
    "BAGA;BUUMISH];OLD PERSIAN [WORD DIVIDER;NUMBER [ONE;TWO;TEN;TWENTY;HUNDRED]]"]),
  (0x10400, ["DESERET CAPITAL LETTER [LONG [I;E;A;AH;O;OO];SHORT [I;E;A;AH;O;OO];AY;OW;WU;YEE;",
    "H;PEE;BEE;TEE;DEE;CHEE;JEE;KAY;GAY;EF;VEE;ETH;THEE;ES;ZEE;ESH;ZHEE;ER;EL;EM;EN;ENG;OI;EW];",
    "DESERET SMALL LETTER [LONG [I;E;A;AH;O;OO];SHORT [I;E;A;AH;O;OO];AY;OW;WU;YEE;H;PEE;BEE;",
    "TEE;DEE;CHEE;JEE;KAY;GAY;EF;VEE;ETH;THEE;ES;ZEE;ESH;ZHEE;ER;EL;EM;EN;ENG;OI;EW];SHAVIAN ",
    "LETTER [PEEP;TOT;KICK;FEE;THIGH;SO;SURE;CHURCH;YEA;HUNG;BIB;DEAD;GAG;VOW;THEY;ZOO;MEASURE;",
    "JUDGE;WOE;HA-HA;LOLL;MIME;IF;EGG;ASH;ADO;ON;WOOL;OUT;AH;ROAR;NUN;EAT;AGE;ICE;UP;OAK;OOZE;",
    "OIL;AWE;ARE;OR;AIR;ERR;ARRAY;EAR;IAN;YEW];OSMANYA LETTER [ALEF;BA;TA;JA;XA;KHA;DEEL;RA;SA;",
    "SHIIN;DHA;CAYN;GA;FA;QAAF;KAAF;LAAN;MIIN;NUUN;WAW;HA;YA;A;E;I;O;U;AA;EE;OO];=;=;OSMANYA ",
    "DIGIT [ZERO;ONE;TWO;THREE;FOUR;FIVE;SIX;SEVEN;EIGHT;NINE]"]),
  (0x104b0, ["OSAGE CAPITAL LETTER [A;AI;AIN;AH;BRA;CHA;EHCHA;E;EIN;HA;HYA;I;KA;EHKA;KYA;LA;MA;",
    "NA;O;OIN;PA;EHPA;SA;SHA;TA;EHTA;TSA;EHTSA;TSHA;DHA;U;WA;KHA;GHA;ZA;ZHA];=;=;=;=;OSAGE ",
    "SMALL LETTER [A;AI;AIN;AH;BRA;CHA;EHCHA;E;EIN;HA;HYA;I;KA;EHKA;KYA;LA;MA;NA;O;OIN;PA;EHPA;",
    "SA;SHA;TA;EHTA;TSA;EHTSA;TSHA;DHA;U;WA;KHA;GHA;ZA;ZHA];=;=;=;=;ELBASAN LETTER [A;BE;CE;",
    "CHE;DE;NDE;DHE;EI;E;FE;GE;GJE;HE;I;JE;KE;LE;LLE;ME;NE;NA;NJE;O;PE;QE;RE;RRE;SE;SHE;TE;THE;",
    "U;VE;XE;Y;ZE;ZHE;GHE;GHAMMA;KHE]"]),
  (0x10530, ["CAUCASIAN ALBANIAN LETTER [ALT;BET;GIM;DAT;EB;ZARL;EYN;ZHIL;TAS;CHA;YOWD;ZHA;IRB;",
    "SHA;LAN;INYA;XEYN;DYAN;CAR;JHOX;KAR;LYIT;HEYT;QAY;AOR;CHOY;CHI;CYAY;MAQ;QAR;NOWC;DZYAY;",
    "SHAK;JAYN;ON;TYAY;FAM;DZAY;CHAT;PEN;GHEYS;RAT;SEYK;VEYZ;TIWR;SHOY;IWN;CYAW;CAYN;YAYD;PIWR;",
    "KIW]"]),
  (0x1056f, ["CAUCASIAN ALBANIAN CITATION MARK;VITHKUQI CAPITAL LETTER [A;BBE;BE;CE;CHE;DE;DHE;",
    "EI;E;FE;GA;=;HA;HHA;I;IJE;JE;KA;LA;LLA;ME;NE;NJE;O;PE;QA;RE;=;SE;SHE;TE;THE;U;VE;XE;=;Y;",
    "ZE];=;VITHKUQI SMALL LETTER [A;BBE;BE;CE;CHE;DE;DHE;EI;E;FE;GA;=;HA;HHA;I;IJE;JE;KA;LA;",
    "LLA;ME;NE;NJE;O;PE;QA;RE;=;SE;SHE;TE;THE;U;VE;XE;=;Y;ZE]"]),
  (0x10600, ["LINEAR A SIGN [AB[001;002;003;004;005;006;007;008;009;010;011;013;016;017;020;",
    "021;021F;021M;022;022F;022M;023;023M;024;026;027;028];A028B;AB[029;030;031;034;037;038;",
    "039;040;041;044;045;046;047;048;049;050;051;053;054;055;056;057;058;059;060;061;065;066;",
    "067;069;070;073;074;076;077;078;079;080;081;082;085;086;087];A100-102;AB118;AB120;A120B;",
    "AB[122;123;131A;131B];A131C;AB[164;171;180;188;191];A[301;302;303;304;305;306;307;308;",
    "309A;309B;309C;310;311;312;313A;313B;313C;314;315;316;317;318;319;320;321;322;323;324;325;",
    "326;327;328;329;330;331;332;333;334;335;336;337;338;339;340;341;342;343;344;345;346;347;",
    "348;349;350;351;352;353;354;355;356;357;358;359;360;361;362;363;364;365;366;367;368;369;",
    "370;371;400-VAS;401-VAS;402-VAS;403-VAS;404-VAS;405-VAS;406-VAS;407-VAS;408-VAS;409-VAS;",
    "410-VAS;411-VAS;412-VAS;413-VAS;414-VAS;415-VAS;416-VAS;417-VAS;418-VAS;501;502;503;504;",
    "505;506;508;509;510;511;512;513;515;516;520;521;523;524;525;526;527;528;529;530;531;532;",
    "534;535;536;537;538;539;540;541;542;545;547;548;549;550;551;552;553;554;555;556;557;559;",
    "563;564;565;566;568;569;570;571;572;573;574;575;576;577;578;579;580;581;582;583;584;585;",
    "586;587;588;589;591;592;594;595;596;598;600;601;602;603;604;606;608;609;610;611;612;613;",
    "614;615;616;617;618;619;620;621;622;623;624;626;627;628;629;634;637;638;640;642;643;644;",
    "645;646;648;649;651;652;653;654;655;656;657;658;659;660;661;662;663;664]]"]),
  (0x10740, ["LINEAR A SIGN A[701 A;702 B;703 D;704 E;705 F;706 H;707 J;708 K;709 L;709-[2 L2;",
    "3 L3;4 L4;6 L6];710 W;711 X;712 Y;713 OMEGA;714 ABB;715 BB;717 DD;726 EYYY;732 JE]"]),
  (0x10760, ["LINEAR A SIGN A[800;801;802;803;804;805;806;807]"]),
  (0x10780, ["MODIFIER LETTER [SMALL CAPITAL AA;SUPERSCRIPT [TRIANGULAR COLON;HALF TRIANGULAR ",
    "COLON];SMALL [AE;CAPITAL B;B WITH HOOK;=;DZ [DIGRAPH;DIGRAPH WITH [RETROFLEX HOOK;CURL]];",
    "DEZH DIGRAPH;D WITH [TAIL;HOOK;HOOK AND TAIL];REVERSED E;CLOSED REVERSED OPEN E;FENG ",
    "DIGRAPH;RAMS HORN;CAPITAL G;G WITH HOOK;CAPITAL G WITH HOOK;H WITH STROKE;CAPITAL H;HENG ",
    "WITH HOOK;DOTLESS J WITH STROKE AND HOOK;LS DIGRAPH;LZ DIGRAPH;L WITH BELT;CAPITAL L WITH ",
    "BELT;L WITH RETROFLEX HOOK AND BELT;LEZH;LEZH WITH RETROFLEX HOOK;TURNED [Y;Y WITH BELT];",
    "O WITH STROKE;CAPITAL OE;CLOSED OMEGA;Q;TURNED R WITH LONG [LEG;LEG AND RETROFLEX HOOK];R ",
    "WITH [TAIL;FISHHOOK];CAPITAL R;TC DIGRAPH WITH CURL;TS [DIGRAPH;DIGRAPH WITH RETROFLEX ",
    "HOOK];TESH DIGRAPH;T WITH RETROFLEX HOOK;V WITH RIGHT HOOK;=;CAPITAL Y];GLOTTAL STOP WITH ",
    "STROKE;REVERSED GLOTTAL STOP WITH STROKE;BILABIAL CLICK;DENTAL CLICK;LATERAL CLICK;",
    "ALVEOLAR CLICK;RETROFLEX CLICK WITH RETROFLEX HOOK;SMALL S WITH CURL]"]),
  (0x10800, ["CYPRIOT SYLLABLE [A;E;I;O;U;JA;=;=;JO;=;KA;KE;KI;KO;KU;LA;LE;LI;LO;LU;MA;ME;MI;",
    "MO;MU;NA;NE;NI;NO;NU;PA;PE;PI;PO;PU;RA;RE;RI;RO;RU;SA;SE;SI;SO;SU;TA;TE;TI;TO;TU;WA;WE;WI;",
    "WO;=;XA;XE;=;=;=;ZA;=;=;ZO];IMPERIAL ARAMAIC [LETTER [ALEPH;BETH;GIMEL;DALETH;HE;WAW;",
    "ZAYIN;HETH;TETH;YODH;KAPH;LAMEDH;MEM;NUN;SAMEKH;AYIN;PE;SADHE;QOPH;RESH;SHIN;TAW];=;",
    "SECTION SIGN;NUMBER [ONE;TWO;THREE;TEN;TWENTY;ONE [HUNDRED;THOUSAND];TEN THOUSAND]];",
    "PALMYRENE LETTER [ALEPH;BETH;GIMEL;DALETH;HE;WAW;ZAYIN;HETH;TETH;YODH;KAPH;LAMEDH;MEM;",
    "FINAL NUN;NUN;SAMEKH;AYIN;PE;SADHE;QOPH;RESH;SHIN;TAW];PALMYRENE [LEFT-POINTING FLEURON;",
    "RIGHT-POINTING FLEURON;NUMBER [ONE;TWO;THREE;FOUR;FIVE;TEN;TWENTY]];NABATAEAN LETTER [",
    "FINAL ALEPH;ALEPH;FINAL BETH;BETH;GIMEL;DALETH;FINAL HE;HE;WAW;ZAYIN;HETH;TETH;FINAL YODH;",
    "YODH;FINAL KAPH;KAPH;FINAL LAMEDH;LAMEDH;FINAL MEM;MEM;FINAL NUN;NUN;SAMEKH;AYIN;PE;SADHE;",
    "QOPH;RESH;FINAL SHIN;SHIN;TAW]"]),
  (0x108a7, ["NABATAEAN [NUMBER [ONE;TWO;THREE;FOUR];CRUCIFORM NUMBER FOUR;NUMBER [FIVE;TEN;",
    "TWENTY;ONE HUNDRED]]"]),
  (0x108e0, ["HATRAN LETTER [ALEPH;BETH;GIMEL;DALETH-RESH;HE;WAW;ZAYN;HETH;TETH;YODH;KAPH;",
    "LAMEDH;MEM;NUN;SAMEKH;AYN;PE;SADHE;QOPH;=;SHIN;TAW];=;=;=;=;=;HATRAN NUMBER [ONE;FIVE;TEN;",
    "TWENTY;ONE HUNDRED];PHOENICIAN LETTER [ALF;BET;GAML;DELT;HE;WAU;ZAI;HET;TET;YOD;KAF;LAMD;",
    "MEM;NUN;SEMK;AIN;PE;SADE;QOF;ROSH;SHIN;TAU];PHOENICIAN NUMBER [ONE;TEN;TWENTY;ONE HUNDRED;",
    "TWO;THREE];=;=;=;PHOENICIAN WORD SEPARATOR;LYDIAN LETTER [A;B;G;D;E;V;I;Y;K;L;M;N;O;R;SS;",
    "T;U;F;Q;S;TT;AN;EN;LY;NN;C];=;=;=;=;=;LYDIAN TRIANGULAR MARK"]),
  (0x10980, ["MEROITIC [HIEROGLYPHIC LETTER [A;E;I;O;YA;WA;BA;BA-2;PA;MA;NA;NA-2;NE;NE-2;RA;",
    "RA-2;LA;KHA;HHA;SA;SA-2;SE;KA;QA;TA;TA-2;TE;TE-2;TO;DA];HIEROGLYPHIC SYMBOL [VIDJ;VIDJ-2];",
    "CURSIVE [LETTER [A;E;I;O;YA;WA;BA;PA;MA;NA;NE;RA;LA;KHA;HHA;SA;ARCHAIC SA;SE;KA;QA;TA;TE;",
    "TO;DA];=;=;=;=;FRACTION [ELEVEN TWELFTHS;ONE HALF];LOGOGRAM [RMT;IMN];NUMBER [ONE;TWO;",
    "THREE;FOUR;FIVE;SIX;SEVEN;EIGHT;NINE;TEN;TWENTY;THIRTY;FORTY;FIFTY;SIXTY;SEVENTY;=;=;ONE ",
    "HUNDRED;TWO HUNDRED;THREE HUNDRED;FOUR HUNDRED;FIVE HUNDRED;SIX HUNDRED;SEVEN HUNDRED;",
    "EIGHT HUNDRED;NINE HUNDRED;ONE THOUSAND;TWO THOUSAND;THREE THOUSAND;FOUR THOUSAND;FIVE ",
    "THOUSAND;SIX THOUSAND;SEVEN THOUSAND;EIGHT THOUSAND;NINE THOUSAND;TEN THOUSAND;TWENTY ",
    "THOUSAND;THIRTY THOUSAND;FORTY THOUSAND;FIFTY THOUSAND;SIXTY THOUSAND;SEVENTY THOUSAND;",
    "EIGHTY THOUSAND;NINETY THOUSAND;ONE HUNDRED THOUSAND;TWO HUNDRED THOUSAND;THREE HUNDRED ",
    "THOUSAND;FOUR HUNDRED THOUSAND;FIVE HUNDRED THOUSAND;SIX HUNDRED THOUSAND;SEVEN HUNDRED ",
    "THOUSAND;EIGHT HUNDRED THOUSAND;NINE HUNDRED THOUSAND];FRACTION [ONE TWELFTH;TWO TWELFTHS;",
    "THREE TWELFTHS;FOUR TWELFTHS;FIVE TWELFTHS;SIX TWELFTHS;SEVEN TWELFTHS;EIGHT TWELFTHS;",
    "NINE TWELFTHS;TEN TWELFTHS]]];KHAROSHTHI [LETTER A;VOWEL SIGN [I;U;VOCALIC R;=;E;O];=;=;=;",
    "=;=;VOWEL LENGTH MARK;SIGN [DOUBLE RING BELOW;ANUSVARA;VISARGA];LETTER [KA;KHA;GA;GHA;=;",
    "CA;CHA;JA;=;NYA;TTA;TTHA;DDA;DDHA;NNA;TA;THA;DA;DHA;NA;PA;PHA;BA;BHA;MA;YA;RA;LA;VA;SHA;",
    "SSA;SA;ZA;HA;KKA;TTTHA;TTTA;VHA];=;=;SIGN [BAR ABOVE;CAUDA;DOT BELOW];=;=;=;=;VIRAMA;",
    "DIGIT [ONE;TWO;THREE;FOUR];NUMBER [TEN;TWENTY;ONE [HUNDRED;THOUSAND]];FRACTION ONE HALF]"]),
  (0x10a50, ["KHAROSHTHI PUNCTUATION [DOT;SMALL CIRCLE;CIRCLE;CRESCENT BAR;MANGALAM;LOTUS;",
    "DANDA;DOUBLE DANDA;LINES]"]),
  (0x10a60, ["OLD SOUTH ARABIAN LETTER [HE;LAMEDH;HETH;MEM;QOPH;WAW;SHIN;RESH;BETH;TAW;SAT;",
    "KAPH;NUN;KHETH;SADHE;SAMEKH;FE;ALEF;AYN;DHADHE;GIMEL;DALETH;GHAYN;TETH;ZAYN;DHALETH;YODH;",
    "THAW;THETH];OLD [SOUTH ARABIAN [NUMBER [ONE;FIFTY];NUMERIC INDICATOR];NORTH ARABIAN ",
    "LETTER [HEH;LAM;HAH;MEEM;QAF;WAW;ES-2;REH;BEH;TEH;ES-1;KAF;NOON;KHAH;SAD;ES-3;FEH;ALEF;",
    "AIN;DAD;GEEM;DAL;GHAIN;TAH;ZAIN;THAL;YEH;THEH;ZAH];NORTH ARABIAN NUMBER [ONE;TEN;TWENTY]]"]),
  (0x10ac0, ["MANICHAEAN [LETTER [ALEPH;BETH;BHETH;GIMEL;GHIMEL;DALETH;HE;WAW];SIGN UD;LETTER [",
    "ZAYIN;ZHAYIN;JAYIN;JHAYIN;HETH;TETH;YODH;KAPH;XAPH;KHAPH;LAMEDH;DHAMEDH;THAMEDH;MEM;NUN;",
    "SAMEKH;AYIN;AAYIN;PE;FE;SADHE;QOPH;XOPH;QHOPH;RESH;SHIN;SSHIN;TAW];ABBREVIATION MARK [",
    "ABOVE;BELOW];=;=;=;=;NUMBER [ONE;FIVE;TEN;TWENTY;ONE HUNDRED];PUNCTUATION [STAR;FLEURON;",
    "DOUBLE DOT WITHIN DOT;DOT WITHIN DOT;DOT;TWO DOTS;LINE FILLER]]"]),
  (0x10b00, ["AVESTAN LETTER [A;AA;AO;AAO;AN;AAN;AE;AEE;E;EE;O;OO;I;II;U;UU;KE;XE;XYE;XVE;GE;",
    "GGE;GHE;CE;JE;TE;THE;DE;DHE;TTE;PE;FE;BE;BHE;NGE;NGYE;NGVE;NE;NYE;NNE;ME;HME;YYE;YE;VE;RE;",
    "LE;SE;ZE;SHE;ZHE;SHYE;SSHE;HE];=;=;=;AVESTAN ABBREVIATION MARK;TINY TWO DOTS OVER ONE DOT ",
    "PUNCTUATION;SMALL TWO DOTS OVER ONE DOT PUNCTUATION;LARGE [TWO DOTS OVER ONE DOT ",
    "PUNCTUATION;ONE DOT OVER TWO DOTS PUNCTUATION;TWO RINGS OVER ONE RING PUNCTUATION;ONE ",
    "RING OVER TWO RINGS PUNCTUATION];INSCRIPTIONAL [PARTHIAN LETTER [ALEPH;BETH;GIMEL;DALETH;",
    "HE;WAW;ZAYIN;HETH;TETH;YODH;KAPH;LAMEDH;MEM;NUN;SAMEKH;AYIN;PE;SADHE;QOPH;RESH;SHIN;TAW];",
    "=;=;PARTHIAN NUMBER [ONE;TWO;THREE;FOUR;TEN;TWENTY;ONE [HUNDRED;THOUSAND]];PAHLAVI LETTER ",
    "[ALEPH;BETH;GIMEL;DALETH;HE;WAW-AYIN-RESH;ZAYIN;HETH;TETH;YODH;KAPH;LAMEDH;MEM-QOPH;NUN;",
    "SAMEKH;PE;SADHE;SHIN;TAW];=;=;=;=;=;PAHLAVI NUMBER [ONE;TWO;THREE;FOUR;TEN;TWENTY;ONE [",
    "HUNDRED;THOUSAND]]];PSALTER PAHLAVI LETTER [ALEPH;BETH;GIMEL;DALETH;HE;WAW-AYIN-RESH;",
    "ZAYIN;HETH;YODH;KAPH;LAMEDH;MEM-QOPH;NUN;SAMEKH;PE;SADHE;SHIN;TAW]"]),
  (0x10b99, ["PSALTER PAHLAVI [SECTION MARK;TURNED SECTION MARK;FOUR DOTS WITH [CROSS;DOT]]"]),
  (0x10ba9, ["PSALTER PAHLAVI NUMBER [ONE;TWO;THREE;FOUR;TEN;TWENTY;ONE HUNDRED]"]),
  (0x10c00, ["OLD TURKIC LETTER [ORKHON A;YENISEI [A;AE];ORKHON I;YENISEI [I;E];ORKHON [O;OE];",
    "YENISEI OE;ORKHON AB;YENISEI AB;ORKHON AEB;YENISEI AEB;ORKHON AG;YENISEI AG;ORKHON AEG;",
    "YENISEI AEG;ORKHON AD;YENISEI AD;ORKHON [AED;EZ];YENISEI EZ;ORKHON AY;YENISEI AY;ORKHON ",
    "AEY;YENISEI AEY;ORKHON AEK;YENISEI AEK;ORKHON OEK;YENISEI OEK;ORKHON AL;YENISEI AL;ORKHON ",
    "[AEL;ELT;EM;AN;AEN];YENISEI AEN;ORKHON ENT;YENISEI ENT;ORKHON ENC;YENISEI ENC;ORKHON ENY;",
    "YENISEI [ENY;ANG];ORKHON ENG;YENISEI AENG;ORKHON [EP;OP;IC;EC];YENISEI EC;ORKHON AQ;",
    "YENISEI AQ;ORKHON IQ;YENISEI IQ;ORKHON OQ;YENISEI OQ;ORKHON AR;YENISEI AR;ORKHON [AER;AS;",
    "AES;ASH];YENISEI ASH;ORKHON ESH;YENISEI ESH;ORKHON AT;YENISEI AT;ORKHON AET;YENISEI AET;",
    "ORKHON [OT;BASH]]"]),
  (0x10c80, ["OLD HUNGARIAN CAPITAL LETTER [A;AA;EB;AMB;EC;ENC;ECS;ED;AND;E;CLOSE E;EE;EF;EG;",
    "EGY;EH;I;II;EJ;EK;AK;UNK;EL;ELY;EM;EN;ENY;O;OO;NIKOLSBURG OE;RUDIMENTA OE;OEE;EP;EMP;ER;",
    "SHORT ER;ES;ESZ;ET;ENT;ETY;ECH;U;UU;NIKOLSBURG UE;RUDIMENTA UE;EV;EZ;EZS;ENT-SHAPED SIGN;",
    "US]"]),
  (0x10cc0, ["OLD HUNGARIAN SMALL LETTER [A;AA;EB;AMB;EC;ENC;ECS;ED;AND;E;CLOSE E;EE;EF;EG;EGY;",
    "EH;I;II;EJ;EK;AK;UNK;EL;ELY;EM;EN;ENY;O;OO;NIKOLSBURG OE;RUDIMENTA OE;OEE;EP;EMP;ER;SHORT ",
    "ER;ES;ESZ;ET;ENT;ETY;ECH;U;UU;NIKOLSBURG UE;RUDIMENTA UE;EV;EZ;EZS;ENT-SHAPED SIGN;US]"]),
  (0x10cfa, ["OLD HUNGARIAN NUMBER [ONE;FIVE;TEN;FIFTY;ONE [HUNDRED;THOUSAND]];HANIFI ROHINGYA ",
    "LETTER [A;BA;PA;TA;TTA;JA;CA;HA;KHA;FA;DA;DDA;RA;RRA;ZA;SA;SHA;KA;GA;LA;MA;NA;WA;KINNA WA;",
    "YA;KINNA YA;NGA;NYA;VA];HANIFI ROHINGYA [VOWEL [A;I;U;E;O];MARK [SAKIN;NA KHONNA];SIGN [",
    "HARBAHAY;TAHALA;TANA;TASSI]]"]),
  (0x10d30, ["HANIFI ROHINGYA DIGIT [ZERO;ONE;TWO;THREE;FOUR;FIVE;SIX;SEVEN;EIGHT;NINE]"]),
  (0x10e60, ["RUMI [DIGIT [ONE;TWO;THREE;FOUR;FIVE;SIX;SEVEN;EIGHT;NINE];NUMBER [TEN;TWENTY;",
    "THIRTY;FORTY;FIFTY;SIXTY;SEVENTY;EIGHTY;NINETY;ONE HUNDRED;TWO HUNDRED;THREE HUNDRED;FOUR ",
    "HUNDRED;FIVE HUNDRED;SIX HUNDRED;SEVEN HUNDRED;EIGHT HUNDRED;NINE HUNDRED];FRACTION [ONE [",
    "HALF;QUARTER;THIRD];TWO THIRDS]];=;YEZIDI LETTER [ELIF;BE;PE;PHE;THE;SE;CIM;CHIM;CHHIM;",
    "HHA;XA;DAL;ZAL;RA;RHA;ZA;JA;SIN;SHIN;SAD;DAD;TA;ZE;EYN;XHEYN;FA;VA;VA ALTERNATE FORM;QAF;",
    "KAF;KHAF;GAF;LAM;MIM;NUN;UM;WAW;OW;EW;HAY;YOT;ET];=;YEZIDI [COMBINING [HAMZA MARK;MADDA ",
    "MARK];HYPHENATION MARK;=;=;LETTER [LAM WITH DOT ABOVE;YOT WITH CIRCUMFLEX ABOVE]]"]),
  (0x10f00, ["OLD SOGDIAN LETTER [ALEPH;FINAL ALEPH;BETH;FINAL BETH;GIMEL;HE;FINAL HE;WAW;",
    "ZAYIN;HETH;YODH;KAPH;LAMEDH;MEM;NUN;FINAL [NUN;NUN WITH VERTICAL TAIL];SAMEKH;AYIN;",
    "ALTERNATE AYIN;PE;SADHE;FINAL [SADHE;SADHE WITH VERTICAL TAIL];RESH-AYIN-DALETH;SHIN;TAW;",
    "FINAL [TAW;TAW WITH VERTICAL TAIL]];OLD SOGDIAN NUMBER [ONE;TWO;THREE;FOUR;FIVE;TEN;",
    "TWENTY;THIRTY;ONE HUNDRED];OLD SOGDIAN [FRACTION ONE HALF;LIGATURE AYIN-DALETH]"]),
  (0x10f30, ["SOGDIAN [LETTER [ALEPH;BETH;GIMEL;HE;WAW;ZAYIN;HETH;YODH;KAPH;LAMEDH;MEM;NUN;",
    "SAMEKH;AYIN;PE;SADHE;RESH-AYIN;SHIN;TAW;FETH;LESH];INDEPENDENT SHIN;COMBINING [DOT BELOW;",
    "TWO DOTS BELOW;DOT ABOVE;TWO DOTS ABOVE;CURVE [ABOVE;BELOW];HOOK [ABOVE;BELOW];LONG HOOK ",
    "BELOW;RESH BELOW;STROKE BELOW];NUMBER [ONE;TEN;TWENTY;ONE HUNDRED];PUNCTUATION [TWO ",
    "VERTICAL [BARS;BARS WITH DOTS];CIRCLE WITH DOT;TWO CIRCLES WITH DOTS;HALF CIRCLE WITH ",
    "DOT]]"]),
  (0x10f70, ["OLD UYGHUR LETTER [ALEPH;BETH;GIMEL-HETH;WAW;ZAYIN;FINAL HETH;YODH;KAPH;LAMEDH;",
    "MEM;NUN;SAMEKH;PE;SADHE;RESH;SHIN;TAW;LESH];OLD UYGHUR [COMBINING [DOT [ABOVE;BELOW];TWO ",
    "DOTS [ABOVE;BELOW]];PUNCTUATION [BAR;TWO [BARS;DOTS];FOUR DOTS]]"]),
  (0x10fb0, ["CHORASMIAN LETTER [ALEPH;SMALL ALEPH;BETH;GIMEL;DALETH;HE;WAW;CURLED WAW;ZAYIN;",
    "HETH;YODH;KAPH;LAMEDH;MEM;NUN;SAMEKH;AYIN;PE;RESH;SHIN;TAW];CHORASMIAN NUMBER [ONE;TWO;",
    "THREE;FOUR;TEN;TWENTY;ONE HUNDRED]"]),
  (0x10fe0, ["ELYMAIC LETTER [ALEPH;BETH;GIMEL;DALETH;HE;WAW;ZAYIN;HETH;TETH;YODH;KAPH;LAMEDH;",
    "MEM;NUN;SAMEKH;AYIN;PE;SADHE;QOPH;RESH;SHIN;TAW];ELYMAIC LIGATURE ZAYIN-YODH"]),
  (0x11000, ["BRAHMI [SIGN [CANDRABINDU;ANUSVARA;VISARGA;JIHVAMULIYA;UPADHMANIYA];LETTER [A;AA;",
    "I;II;U;UU;VOCALIC [R;RR;L;LL];E;AI;O;AU;KA;KHA;GA;GHA;NGA;CA;CHA;JA;JHA;NYA;TTA;TTHA;DDA;",
    "DDHA;NNA;TA;THA;DA;DHA;NA;PA;PHA;BA;BHA;MA;YA;RA;LA;VA;SHA;SSA;SA;HA;LLA;OLD TAMIL [LLLA;",
    "RRA;NNNA]];VOWEL SIGN [AA;BHATTIPROLU AA;I;II;U;UU;VOCALIC [R;RR;L;LL];E;AI;O;AU];VIRAMA;",
    "DANDA;DOUBLE DANDA;PUNCTUATION [DOT;DOUBLE DOT;LINE;CRESCENT BAR;LOTUS];=;=;=;=;NUMBER [",
    "ONE;TWO;THREE;FOUR;FIVE;SIX;SEVEN;EIGHT;NINE;TEN;TWENTY;THIRTY;FORTY;FIFTY;SIXTY;SEVENTY;",
    "EIGHTY;NINETY;ONE [HUNDRED;THOUSAND]];DIGIT [ZERO;ONE;TWO;THREE;FOUR;FIVE;SIX;SEVEN;EIGHT;",
    "NINE];SIGN OLD TAMIL VIRAMA;LETTER OLD TAMIL SHORT [E;O];VOWEL SIGN OLD TAMIL SHORT [E;O];",
    "LETTER OLD TAMIL LLA]"]),
  (0x1107f, ["BRAHMI NUMBER JOINER;KAITHI [SIGN [CANDRABINDU;ANUSVARA;VISARGA];LETTER [A;AA;I;",
    "II;U;UU;E;AI;O;AU;KA;KHA;GA;GHA;NGA;CA;CHA;JA;JHA;NYA;TTA;TTHA;DDA;DDDHA;DDHA;RHA;NNA;TA;",
    "THA;DA;DHA;NA;PA;PHA;BA;BHA;MA;YA;RA;LA;VA;SHA;SSA;SA;HA];VOWEL SIGN [AA;I;II;U;UU;E;AI;O;",
    "AU];SIGN [VIRAMA;NUKTA];ABBREVIATION SIGN;ENUMERATION SIGN;NUMBER SIGN;SECTION MARK;",
    "DOUBLE SECTION MARK;DANDA;DOUBLE DANDA;VOWEL SIGN VOCALIC R]"]),
  (0x110cd, ["KAITHI NUMBER SIGN ABOVE;=;=;SORA SOMPENG LETTER [SAH;TAH;BAH;CAH;DAH;GAH;MAH;",
    "NGAH;LAH;NAH;VAH;PAH;YAH;RAH;HAH;KAH;JAH;NYAH;AH;EEH;IH;UH;OH;EH;MAE]"]),
  (0x110f0, ["SORA SOMPENG DIGIT [ZERO;ONE;TWO;THREE;FOUR;FIVE;SIX;SEVEN;EIGHT;NINE]"]),
  (0x11100, ["CHAKMA [SIGN [CANDRABINDU;ANUSVARA;VISARGA];LETTER [AA;I;U;E;KAA;KHAA;GAA;GHAA;",
    "NGAA;CAA;CHAA;JAA;JHAA;NYAA;TTAA;TTHAA;DDAA;DDHAA;NNAA;TAA;THAA;DAA;DHAA;NAA;PAA;PHAA;BAA;",
    "BHAA;MAA;YYAA;YAA;RAA;LAA;WAA;SAA;HAA];VOWEL SIGN [A;I;II;U;UU;E;AI;O;AU;OI];O MARK;AU ",
    "MARK;VIRAMA;MAAYYAA;=;DIGIT [ZERO;ONE;TWO;THREE;FOUR;FIVE;SIX;SEVEN;EIGHT;NINE];SECTION ",
    "MARK;DANDA;DOUBLE DANDA;QUESTION MARK;LETTER LHAA;VOWEL SIGN [AA;EI];LETTER VAA]"]),
  (0x11150, ["MAHAJANI LETTER [A;I;U;E;O;KA;KHA;GA;GHA;CA;CHA;JA;JHA;NYA;TTA;TTHA;DDA;DDHA;NNA;",
    "TA;THA;DA;DHA;NA;PA;PHA;BA;BHA;MA;RA;LA;VA;SA;HA;RRA];MAHAJANI [SIGN NUKTA;ABBREVIATION ",
    "SIGN;SECTION MARK;LIGATURE SHRI]"]),
  (0x11180, ["SHARADA [SIGN [CANDRABINDU;ANUSVARA;VISARGA];LETTER [A;AA;I;II;U;UU;VOCALIC [R;",
    "RR;L;LL];E;AI;O;AU;KA;KHA;GA;GHA;NGA;CA;CHA;JA;JHA;NYA;TTA;TTHA;DDA;DDHA;NNA;TA;THA;DA;",
    "DHA;NA;PA;PHA;BA;BHA;MA;YA;RA;LA;LLA;VA;SHA;SSA;SA;HA];VOWEL SIGN [AA;I;II;U;UU;VOCALIC [",
    "R;RR;L;LL];E;AI;O;AU];SIGN [VIRAMA;AVAGRAHA;JIHVAMULIYA;UPADHMANIYA];OM;DANDA;DOUBLE ",
    "DANDA;ABBREVIATION SIGN;SEPARATOR;SANDHI MARK;SIGN NUKTA;VOWEL MODIFIER MARK;EXTRA SHORT ",
    "VOWEL MARK;SUTRA MARK;VOWEL SIGN PRISHTHAMATRA E;SIGN INVERTED CANDRABINDU;DIGIT [ZERO;",
    "ONE;TWO;THREE;FOUR;FIVE;SIX;SEVEN;EIGHT;NINE];EKAM;SIGN SIDDHAM;HEADSTROKE;CONTINUATION ",
    "SIGN;SECTION MARK-[1;2]];=;SINHALA ARCHAIC [DIGIT [ONE;TWO;THREE;FOUR;FIVE;SIX;SEVEN;",
    "EIGHT;NINE];NUMBER [TEN;TWENTY;THIRTY;FORTY;FIFTY;SIXTY;SEVENTY;EIGHTY;NINETY;ONE [",
    "HUNDRED;THOUSAND]]]"]),
  (0x11200, ["KHOJKI LETTER [A;AA;I;U;E;AI;O;AU;KA;KHA;GA;GGA;GHA;NGA;CA;CHA;JA;JJA;=;NYA;TTA;",
    "TTHA;DDA;DDHA;NNA;TA;THA;DA;DDDA;DHA;NA;PA;PHA;BA;BBA;BHA;MA;YA;RA;LA;VA;SA;HA;LLA];",
    "KHOJKI VOWEL SIGN [AA;I;II;U;E;AI;O;AU];KHOJKI [SIGN [ANUSVARA;VIRAMA;NUKTA;SHADDA];DANDA;",
    "DOUBLE DANDA;WORD SEPARATOR;SECTION MARK;DOUBLE SECTION MARK;ABBREVIATION SIGN;SIGN SUKUN]"]),
  (0x11280, ["MULTANI LETTER [A;I;U;E;KA;KHA;GA;=;GHA;=;CA;CHA;JA;JJA;=;NYA;TTA;TTHA;DDA;DDDA;",
    "DDHA;NNA;TA;THA;DA;DHA;NA;PA;PHA;BA;=;BHA;MA;YA;RA;LA;VA;SA;HA;RRA;RHA];MULTANI SECTION ",
    "MARK"]),
  (0x112b0, ["KHUDAWADI LETTER [A;AA;I;II;U;UU;E;AI;O;AU;KA;KHA;GA;GGA;GHA;NGA;CA;CHA;JA;JJA;",
    "JHA;NYA;TTA;TTHA;DDA;DDDA;RRA;DDHA;NNA;TA;THA;DA;DHA;NA;PA;PHA;BA;BBA;BHA;MA;YA;RA;LA;VA;",
    "SHA;SA;HA];KHUDAWADI [SIGN ANUSVARA;VOWEL SIGN [AA;I;II;U;UU;E;AI;O;AU];SIGN [NUKTA;",
    "VIRAMA];=;=;=;=;=;DIGIT [ZERO;ONE;TWO;THREE;FOUR;FIVE;SIX;SEVEN;EIGHT;NINE]]"]),
  (0x11300, ["GRANTHA [SIGN [COMBINING ANUSVARA ABOVE;CANDRABINDU;ANUSVARA;VISARGA];=;LETTER [",
    "A;AA;I;II;U;UU;VOCALIC [R;L];=;=;EE;AI;=;=;OO;AU;KA;KHA;GA;GHA;NGA;CA;CHA;JA;JHA;NYA;TTA;",
    "TTHA;DDA;DDHA;NNA;TA;THA;DA;DHA;NA;=;PA;PHA;BA;BHA;MA;YA;RA;=;LA;LLA;=;VA;SHA;SSA;SA;HA]];",
    "=;COMBINING BINDU BELOW;GRANTHA [SIGN [NUKTA;AVAGRAHA];VOWEL SIGN [AA;I;II;U;UU;VOCALIC [",
    "R;RR];=;=;EE;AI;=;=;OO;AU];SIGN VIRAMA;=;=;OM]"]),
  (0x11357, ["GRANTHA [AU LENGTH MARK;=;=;=;=;=;SIGN PLUTA;LETTER [VEDIC [ANUSVARA;DOUBLE ",
    "ANUSVARA];VOCALIC [RR;LL]];VOWEL SIGN VOCALIC [L;LL]];=;=;COMBINING GRANTHA [DIGIT [ZERO;",
    "ONE;TWO;THREE;FOUR;FIVE;SIX];=;=;=;LETTER [A;KA;NA;VI;PA]]"]),
  (0x11400, ["NEWA LETTER [A;AA;I;II;U;UU;VOCALIC [R;RR;L;LL];E;AI;O;AU;KA;KHA;GA;GHA;NGA;NGHA;",
    "CA;CHA;JA;JHA;NYA;NYHA;TTA;TTHA;DDA;DDHA;NNA;TA;THA;DA;DHA;NA;NHA;PA;PHA;BA;BHA;MA;MHA;YA;",
    "RA;RHA;LA;LHA;WA;SHA;SSA;SA;HA];NEWA [VOWEL SIGN [AA;I;II;U;UU;VOCALIC [R;RR;L;LL];E;AI;O;",
    "AU];SIGN [VIRAMA;CANDRABINDU;ANUSVARA;VISARGA;NUKTA;AVAGRAHA;FINAL ANUSVARA];OM;SIDDHI;",
    "DANDA;DOUBLE DANDA;COMMA;GAP FILLER;ABBREVIATION SIGN;DIGIT [ZERO;ONE;TWO;THREE;FOUR;FIVE;",
    "SIX;SEVEN;EIGHT;NINE];DOUBLE COMMA;PLACEHOLDER MARK;=;INSERTION SIGN;SANDHI MARK;LETTER ",
    "VEDIC ANUSVARA;SIGN [JIHVAMULIYA;UPADHMANIYA]]"]),
  (0x11480, ["TIRHUTA [ANJI;LETTER [A;AA;I;II;U;UU;VOCALIC [R;RR;L;LL];E;AI;O;AU;KA;KHA;GA;GHA;",
    "NGA;CA;CHA;JA;JHA;NYA;TTA;TTHA;DDA;DDHA;NNA;TA;THA;DA;DHA;NA;PA;PHA;BA;BHA;MA;YA;RA;LA;VA;",
    "SHA;SSA;SA;HA];VOWEL SIGN [AA;I;II;U;UU;VOCALIC [R;RR;L;LL];E;SHORT E;AI;O;SHORT O;AU];",
    "SIGN [CANDRABINDU;ANUSVARA;VISARGA;VIRAMA;NUKTA;AVAGRAHA];GVANG;ABBREVIATION SIGN;OM]"]),
  (0x114d0, ["TIRHUTA DIGIT [ZERO;ONE;TWO;THREE;FOUR;FIVE;SIX;SEVEN;EIGHT;NINE]"]),
  (0x11580, ["SIDDHAM [LETTER [A;AA;I;II;U;UU;VOCALIC [R;RR;L;LL];E;AI;O;AU;KA;KHA;GA;GHA;NGA;",
    "CA;CHA;JA;JHA;NYA;TTA;TTHA;DDA;DDHA;NNA;TA;THA;DA;DHA;NA;PA;PHA;BA;BHA;MA;YA;RA;LA;VA;SHA;",
    "SSA;SA;HA];VOWEL SIGN [AA;I;II;U;UU;VOCALIC [R;RR];=;=;E;AI;O;AU];SIGN [CANDRABINDU;",
    "ANUSVARA;VISARGA;VIRAMA;NUKTA;SIDDHAM];DANDA;DOUBLE DANDA;SEPARATOR [DOT;BAR];REPETITION ",
    "MARK-[1;2;3];END OF TEXT MARK;SECTION MARK [WITH [TRIDENT AND [U-SHAPED ORNAMENTS;DOTTED ",
    "CRESCENTS];RAYS AND DOTTED [CRESCENTS;DOUBLE CRESCENTS;TRIPLE CRESCENTS]];DOUBLE [RING;",
    "RING WITH RAYS];WITH [DOUBLE CRESCENTS;TRIPLE CRESCENTS;QUADRUPLE CRESCENTS;SEPTUPLE ",
    "CRESCENTS;CIRCLES AND [RAYS;TWO ENCLOSURES;FOUR ENCLOSURES]]];LETTER [THREE-CIRCLE ",
    "ALTERNATE I;TWO-CIRCLE ALTERNATE [I;II];ALTERNATE U];VOWEL SIGN ALTERNATE [U;UU]]"]),
  (0x11600, ["MODI LETTER [A;AA;I;II;U;UU;VOCALIC [R;RR;L;LL];E;AI;O;AU;KA;KHA;GA;GHA;NGA;CA;",
    "CHA;JA;JHA;NYA;TTA;TTHA;DDA;DDHA;NNA;TA;THA;DA;DHA;NA;PA;PHA;BA;BHA;MA;YA;RA;LA;VA;SHA;",
    "SSA;SA;HA;LLA];MODI VOWEL SIGN [AA;I;II;U;UU;VOCALIC [R;RR;L;LL];E;AI;O;AU];MODI [SIGN [",
    "ANUSVARA;VISARGA;VIRAMA;ARDHACANDRA];DANDA;DOUBLE DANDA;ABBREVIATION SIGN;SIGN HUVA]"]),
  (0x11650, ["MODI DIGIT [ZERO;ONE;TWO;THREE;FOUR;FIVE;SIX;SEVEN;EIGHT;NINE]"]),
  (0x11660, ["MONGOLIAN [BIRGA WITH ORNAMENT;ROTATED BIRGA;DOUBLE BIRGA WITH ORNAMENT;TRIPLE ",
    "BIRGA WITH ORNAMENT;BIRGA WITH DOUBLE ORNAMENT;ROTATED BIRGA WITH [ORNAMENT;DOUBLE ",
    "ORNAMENT];INVERTED [BIRGA;BIRGA WITH DOUBLE ORNAMENT];SWIRL [BIRGA;BIRGA WITH [ORNAMENT;",
    "DOUBLE ORNAMENT]];TURNED SWIRL BIRGA WITH DOUBLE ORNAMENT]"]),
  (0x11680, ["TAKRI LETTER [A;AA;I;II;U;UU;E;AI;O;AU;KA;KHA;GA;GHA;NGA;CA;CHA;JA;JHA;NYA;TTA;",
    "TTHA;DDA;DDHA;NNA;TA;THA;DA;DHA;NA;PA;PHA;BA;BHA;MA;YA;RA;LA;VA;SHA;SA;HA;RRA];TAKRI [",
    "SIGN [ANUSVARA;VISARGA];VOWEL SIGN [AA;I;II;U;UU;E;AI;O;AU];SIGN [VIRAMA;NUKTA];LETTER ",
    "ARCHAIC KHA;ABBREVIATION SIGN]"]),
  (0x116c0, ["TAKRI DIGIT [ZERO;ONE;TWO;THREE;FOUR;FIVE;SIX;SEVEN;EIGHT;NINE]"]),
  (0x11700, ["AHOM [LETTER [KA;KHA;NGA;NA;TA;ALTERNATE TA;PA;PHA;BA;MA;JA;CHA;THA;RA;LA;SA;NYA;",
    "HA;A;DA;DHA;GA;ALTERNATE GA;GHA;BHA;JHA;ALTERNATE BA];=;=;CONSONANT SIGN MEDIAL [LA;RA;",
    "LIGATING RA];VOWEL SIGN [A;AA;I;II;U;UU;E;AW;O;AI;AM];SIGN KILLER;=;=;=;=;DIGIT [ZERO;ONE;",
    "TWO;THREE;FOUR;FIVE;SIX;SEVEN;EIGHT;NINE];NUMBER [TEN;TWENTY];SIGN [SMALL SECTION;SECTION;",
    "RULAI];SYMBOL VI;LETTER [CA;TTA;TTHA;DDA;DDHA;NNA;LLA]]"]),
  (0x11800, ["DOGRA LETTER [A;AA;I;II;U;UU;E;AI;O;AU;KA;KHA;GA;GHA;NGA;CA;CHA;JA;JHA;NYA;TTA;",
    "TTHA;DDA;DDHA;NNA;TA;THA;DA;DHA;NA;PA;PHA;BA;BHA;MA;YA;RA;LA;VA;SHA;SSA;SA;HA;RRA];DOGRA ",
    "VOWEL SIGN [AA;I;II;U;UU;VOCALIC [R;RR];E;AI;O;AU];DOGRA SIGN [ANUSVARA;VISARGA;VIRAMA;",
    "NUKTA];DOGRA ABBREVIATION SIGN"]),
  (0x118a0, ["WARANG CITI [CAPITAL LETTER [NGAA;A;WI;YU;YA;YO;II;UU;E;O;ANG;GA;KO;ENY;YUJ;UC;",
    "ENN;ODD;TTE;NUNG;DA;AT;AM;BU;PU;HIYO;HOLO;HORR;HAR;SSUU;SII;VIYO];SMALL LETTER [NGAA;A;WI;",
    "YU;YA;YO;II;UU;E;O;ANG;GA;KO;ENY;YUJ;UC;ENN;ODD;TTE;NUNG;DA;AT;AM;BU;PU;HIYO;HOLO;HORR;",
    "HAR;SSUU;SII;VIYO];DIGIT [ZERO;ONE;TWO;THREE;FOUR;FIVE;SIX;SEVEN;EIGHT;NINE];NUMBER [TEN;",
    "TWENTY;THIRTY;FORTY;FIFTY;SIXTY;SEVENTY;EIGHTY;NINETY]]"]),
  (0x118ff, ["WARANG CITI OM;DIVES AKURU LETTER [A;AA;I;II;U;UU;E;=;=;O;=;=;KA;KHA;GA;GHA;NGA;",
    "CA;CHA;JA;=;NYA;TTA;=;DDA;DDHA;NNA;TA;THA;DA;DHA;NA;PA;PHA;BA;BHA;MA;YA;YYA;RA;LA;VA;SHA;",
    "SSA;SA;HA;LLA;ZA];DIVES AKURU [VOWEL SIGN [AA;I;II;U;UU;E;=;AI;O];=;=;SIGN [ANUSVARA;",
    "CANDRABINDU;HALANTA];VIRAMA;PREFIXED NASAL SIGN;MEDIAL YA;INITIAL RA;MEDIAL RA;SIGN NUKTA;",
    "DOUBLE DANDA;GAP FILLER;END OF TEXT MARK]"]),
  (0x11950, ["DIVES AKURU DIGIT [ZERO;ONE;TWO;THREE;FOUR;FIVE;SIX;SEVEN;EIGHT;NINE]"]),
  (0x119a0, ["NANDINAGARI LETTER [A;AA;I;II;U;UU;VOCALIC [R;RR];=;=;E;AI;O;AU;KA;KHA;GA;GHA;",
    "NGA;CA;CHA;JA;JHA;NYA;TTA;TTHA;DDA;DDHA;NNA;TA;THA;DA;DHA;NA;PA;PHA;BA;BHA;MA;YA;RA;LA;VA;",
    "SHA;SSA;SA;HA;LLA;RRA];NANDINAGARI VOWEL SIGN [AA;I;II;U;UU;VOCALIC [R;RR];=;=;E;AI;O;AU];",
    "NANDINAGARI [SIGN [ANUSVARA;VISARGA;VIRAMA;AVAGRAHA;SIDDHAM];HEADSTROKE;VOWEL SIGN ",
    "PRISHTHAMATRA E]"]),
  (0x11a00, ["ZANABAZAR SQUARE [LETTER A;VOWEL SIGN [I;UE;U;E;OE;O;AI;AU;REVERSED I];VOWEL ",
    "LENGTH MARK;LETTER [KA;KHA;GA;GHA;NGA;CA;CHA;JA;NYA;TTA;TTHA;DDA;DDHA;NNA;TA;THA;DA;DHA;",
    "NA;PA;PHA;BA;BHA;MA;TSA;TSHA;DZA;DZHA;ZHA;ZA;-A;YA;RA;LA;VA;SHA;SSA;SA;HA;KSSA];FINAL ",
    "CONSONANT MARK;SIGN [VIRAMA;CANDRABINDU;CANDRABINDU WITH ORNAMENT;CANDRA WITH ORNAMENT;",
    "ANUSVARA;VISARGA];CLUSTER-[INITIAL LETTER RA;FINAL LETTER [YA;RA;LA;VA]];INITIAL HEAD ",
    "MARK;CLOSING HEAD MARK;MARK [TSHEG;SHAD;DOUBLE SHAD;LONG TSHEG];INITIAL DOUBLE-LINED HEAD ",
    "MARK;CLOSING DOUBLE-LINED HEAD MARK;SUBJOINER]"]),
  (0x11a50, ["SOYOMBO [LETTER A;VOWEL SIGN [I;UE;U;E;O;OE;AI;AU;VOCALIC [R;L]];VOWEL LENGTH ",
    "MARK;LETTER [KA;KHA;GA;GHA;NGA;CA;CHA;JA;JHA;NYA;TTA;TTHA;DDA;DDHA;NNA;TA;THA;DA;DHA;NA;",
    "PA;PHA;BA;BHA;MA;TSA;TSHA;DZA;ZHA;ZA;-A;YA;RA;LA;VA;SHA;SSA;SA;HA;KSSA];SIGN [JIHVAMULIYA;",
    "UPADHMANIYA];CLUSTER-INITIAL LETTER [RA;LA;SHA;SA];FINAL CONSONANT SIGN [G;K;NG;D;N;B;M;R;",
    "L;SH;S;-A];SIGN [ANUSVARA;VISARGA];GEMINATION MARK;SUBJOINER;MARK [TSHEG;SHAD;DOUBLE SHAD;",
    "PLUTA];HEAD MARK WITH MOON AND [SUN AND [TRIPLE FLAME;FLAME];SUN];TERMINAL MARK-[1;2]]"]),
  (0x11ab0, ["CANADIAN SYLLABICS NATTILIK [HI;HII;HO;HOO;HA;HAA;SHRI;SHRII;SHRO;SHROO;SHRA;",
    "SHRAA];CANADIAN SYLLABICS [SPE;SPI;SPO;SPA];PAU CIN HAU LETTER [PA;KA;LA;MA;DA;ZA;VA;NGA;",
    "HA;GA;KHA;SA;BA;CA;TA;THA;NA;PHA;RA;FA;CHA;A;E;I;O;U;UA;IA;FINAL [P;K;T;M;N;L;W;NG;Y]];",
    "PAU CIN HAU [RISING [TONE LONG;TONE];SANDHI GLOTTAL STOP;RISING TONE [LONG FINAL;FINAL];",
    "SANDHI [GLOTTAL STOP FINAL;TONE LONG;TONE;TONE [LONG FINAL;FINAL]];MID-LEVEL TONE;GLOTTAL ",
    "STOP VARIANT;MID-LEVEL TONE [LONG FINAL;FINAL];LOW-FALLING [TONE LONG;TONE];GLOTTAL STOP;",
    "LOW-FALLING TONE [LONG FINAL;FINAL];GLOTTAL STOP FINAL]"]),
  (0x11c00, ["BHAIKSUKI LETTER [A;AA;I;II;U;UU;VOCALIC [R;RR;L];=;E;AI;O;AU;KA;KHA;GA;GHA;NGA;",
    "CA;CHA;JA;JHA;NYA;TTA;TTHA;DDA;DDHA;NNA;TA;THA;DA;DHA;NA;PA;PHA;BA;BHA;MA;YA;RA;LA;VA;SHA;",
    "SSA;SA;HA];BHAIKSUKI VOWEL SIGN [AA;I;II;U;UU;VOCALIC [R;RR;L];=;E;AI;O;AU];BHAIKSUKI [",
    "SIGN [CANDRABINDU;ANUSVARA;VISARGA;VIRAMA;AVAGRAHA];DANDA;DOUBLE DANDA;WORD SEPARATOR;GAP ",
    "FILLER-[1;2]]"]),
  (0x11c50, ["BHAIKSUKI [DIGIT [ZERO;ONE;TWO;THREE;FOUR;FIVE;SIX;SEVEN;EIGHT;NINE];NUMBER [ONE;",
    "TWO;THREE;FOUR;FIVE;SIX;SEVEN;EIGHT;NINE;TEN;TWENTY;THIRTY;FORTY;FIFTY;SIXTY;SEVENTY;",
    "EIGHTY;NINETY];HUNDREDS UNIT MARK];=;=;=;MARCHEN [HEAD MARK;MARK SHAD;LETTER [KA;KHA;GA;",
    "NGA;CA;CHA;JA;NYA;TA;THA;DA;NA;PA;PHA;BA;MA;TSA;TSHA;DZA;WA;ZHA;ZA;-A;YA;RA;LA;SHA;SA;HA;",
    "A];=;=;SUBJOINED LETTER [KA;KHA;GA;NGA;CA;CHA;JA;NYA;TA;THA;DA;NA;PA;PHA;BA;MA;TSA;TSHA;",
    "DZA;WA;ZHA;ZA;=;YA;RA;LA;SHA;SA;HA;A];VOWEL SIGN [AA;I;U;E;O];SIGN [ANUSVARA;CANDRABINDU]]"]),
  (0x11d00, ["MASARAM GONDI LETTER [A;AA;I;II;U;UU;E;=;AI;O;=;AU;KA;KHA;GA;GHA;NGA;CA;CHA;JA;",
    "JHA;NYA;TTA;TTHA;DDA;DDHA;NNA;TA;THA;DA;DHA;NA;PA;PHA;BA;BHA;MA;YA;RA;LA;VA;SHA;SSA;SA;HA;",
    "LLA;KSSA;JNYA;TRA];MASARAM GONDI [VOWEL SIGN [AA;I;II;U;UU;VOCALIC R;=;=;=;E;=;AI;O;=;AU];",
    "SIGN [ANUSVARA;VISARGA;NUKTA;CANDRA;HALANTA];VIRAMA;REPHA;RA-KARA]"]),
  (0x11d50, ["MASARAM GONDI DIGIT [ZERO;ONE;TWO;THREE;FOUR;FIVE;SIX;SEVEN;EIGHT;NINE]"]),
  (0x11d60, ["GUNJALA GONDI LETTER [A;AA;I;II;U;UU;=;EE;AI;=;OO;AU;YA;VA;BA;BHA;MA;KA;KHA;TA;",
    "THA;LA;GA;GHA;DA;DHA;NA;CA;CHA;TTA;TTHA;LLA;JA;JHA;DDA;DDHA;NGA;PA;PHA;HA;RA;SA];GUNJALA ",
    "GONDI VOWEL SIGN [AA;I;II;U;UU;=;EE;AI;=;OO;AU];GUNJALA GONDI [SIGN [ANUSVARA;VISARGA];",
    "VIRAMA;OM]"]),
  (0x11da0, ["GUNJALA GONDI DIGIT [ZERO;ONE;TWO;THREE;FOUR;FIVE;SIX;SEVEN;EIGHT;NINE]"]),
  (0x11ee0, ["MAKASAR LETTER [KA;GA;NGA;PA;BA;MA;TA;DA;NA;CA;JA;NYA;YA;RA;LA;VA;SA;A];MAKASAR [",
    "ANGKA;VOWEL SIGN [I;U;E;O];PASSIMBANG;END OF SECTION]"]),
  (0x11fb0, ["LISU LETTER YHA"]),
  (0x11fc0, ["TAMIL FRACTION [ONE [THREE-HUNDRED-AND-TWENTIETH;ONE-HUNDRED-AND-SIXTIETH;",
    "EIGHTIETH;SIXTY-FOURTH;FORTIETH;THIRTY-SECOND];THREE [EIGHTIETHS;SIXTY-FOURTHS];ONE [",
    "TWENTIETH;SIXTEENTH-[1;2];TENTH;EIGHTH];THREE [TWENTIETHS;SIXTEENTHS];ONE [FIFTH;QUARTER;",
    "HALF-[1;2]];THREE QUARTERS;DOWNSCALING FACTOR KIIZH];TAMIL [SIGN [NEL;CEVITU;AAZHAAKKU;",
    "UZHAKKU;MUUVUZHAKKU;KURUNI;PATHAKKU;MUKKURUNI;KAACU;PANAM;PON;VARAAKAN;PAARAM;KUZHI;VELI];",
    "WET CULTIVATION SIGN;DRY CULTIVATION SIGN;LAND SIGN;SALT PAN SIGN;TRADITIONAL [CREDIT ",
    "SIGN;NUMBER SIGN];CURRENT SIGN;AND ODD SIGN;SPENT SIGN;TOTAL SIGN;IN POSSESSION SIGN;",
    "STARTING FROM SIGN;SIGN [MUTHALIYA;VAKAIYARAA]]"]),
  (0x11fff, ["TAMIL PUNCTUATION END OF TEXT;CUNEIFORM SIGN [A;A TIMES [A;BAD;GAN2 TENU;HA;IGI;",
    "LAGAR GUNU;MUSH;SAG];A2;AB;AB TIMES [ASH2;DUN3 GUNU;GAL;GAN2 TENU;HA;IGI GUNU;IMIN;LAGAB;",
    "SHESH;U PLUS U PLUS U];AB GUNU;AB[2;2 TIMES [BALAG;GAN2 TENU;ME PLUS EN;SHA3;TAK4]];AD;AK;",
    "AK TIMES [ERIN2;SHITA PLUS GISH];AL;AL TIMES [AL;DIM2;GISH;HA;KAD3;KI;SHE;USH];ALAN;ALEPH;",
    "AMAR;AMAR TIMES SHE;AN;AN [OVER AN;THREE TIMES;PLUS NAGA [OPPOSING AN PLUS NAGA;SQUARED]];",
    "ANSHE;APIN;ARAD;ARAD TIMES KUR;ARKAB;ASAL2;ASH;ASH [ZIDA TENU;KABA TENU;OVER ASH [TUG2 ",
    "OVER TUG2 TUG2 OVER TUG2 PAP;OVER [ASH;ASH CROSSING ASH OVER ASH OVER ASH]]];ASH2;ASHGAB;",
    "BA;BAD;BAG3;BAHAR2;BAL;BAL OVER BAL;BALAG;BAR;BARA2;BI;BI TIMES [A;GAR;IGI GUNU];BU;BU ",
    "OVER BU [AB;UN];BU CROSSING BU;BULUG;BULUG OVER BULUG;BUR;BUR2;DA;DAG;DAG KISIM5 TIMES [A ",
    "PLUS MASH;AMAR;BALAG;BI;GA;GA PLUS MASH;GI;GIR2;GUD;HA;IR;IR PLUS LU;KAK;LA;LU;LU PLUS ",
    "MASH2;LUM;NE;PAP PLUS PAP;SI;TAK4;U2 PLUS GIR2;USH];DAM;DAR;DARA[3;4];DI;DIB;DIM;DIM ",
    "TIMES SHE;DIM2;DIN;DIN KASKAL U GUNU DISH;DISH;DU;DU [OVER DU;GUNU;SHESHIG];DUB;DUB TIMES ",
    "ESH2;DUB2;DUG;DUGUD;DUH;DUN;DUN[3;3 GUNU;3 GUNU GUNU;4];DUR2;E;E TIMES PAP;E OVER E NUN ",
    "OVER NUN;E[2;2 TIMES [A PLUS HA PLUS DA;GAR;MI;SAL;SHE;U]];EDIN;EGIR;EL;EN;EN TIMES [GAN[",
    "2;2 TENU];ME];EN [CROSSING EN;OPPOSING EN;SQUARED];EREN;ERIN2;ESH2;EZEN;EZEN TIMES [A;A ",
    "PLUS [LAL;LAL TIMES LAL];AN;BAD;DUN3 [GUNU;GUNU GUNU];HA;HA GUNU;IGI GUNU;KASKAL;KASKAL ",
    "SQUARED;KU3;LA;LAL TIMES LAL;LI;LU;U2;UD];GA;GA GUNU;GA[2;2 TIMES [A PLUS [DA PLUS HA;HA;",
    "IGI];AB2 TENU PLUS TAB;AN;ASH;ASH2 PLUS GAL;BAD;BAR PLUS RA;BUR;BUR PLUS RA;DA;DI;DIM ",
    "TIMES SHE;DUB;EL;EL PLUS LA;EN;EN TIMES GAN2 TENU;GAN2 TENU;GAR;GI;GI4;GI4 PLUS A;GIR2 ",
    "PLUS SU;HA PLUS LU PLUS ESH2;HAL;HAL PLUS LA;HI PLUS LI;HUB2;IGI GUNU;ISH PLUS HU PLUS ",
    "ASH;KAK;KASKAL;KID;KID PLUS LAL;KU3 PLUS AN;LA;ME PLUS EN;MI;NUN;NUN OVER NUN;PA;SAL;SAR;",
    "SHE;SHE PLUS TUR;SHID;SUM;TAK4;U;UD;UD PLUS DU];2 OVER GA2];GABA;GABA CROSSING GABA;GAD;",
    "GAD OVER GAD GAR OVER GAR;GAL;GAL GAD OVER GAD GAR OVER GAR;GALAM;GAM;GAN;GAN[2;2 [TENU;",
    "OVER GAN2;CROSSING GAN2]];GAR;GAR3;GASHAN;GESHTIN;GESHTIN TIMES KUR;GI;GI TIMES [E;U];GI ",
    "CROSSING GI;GI[4;4 OVER GI4;4 CROSSING GI4];GIDIM;GIR[2;2 GUNU;3;3 TIMES [A PLUS IGI;GAN2 ",
    "TENU;IGI;LU PLUS IGI;PA]];GISAL;GISH;GISH [CROSSING GISH;TIMES [BAD;TAK4];TENU];GU;GU ",
    "CROSSING GU;GU[2;2 TIMES [KAK;KAK TIMES IGI GUNU;NUN;SAL PLUS TUG2];2 GUNU];GUD;GUD TIMES ",
    "[A PLUS KUR;KUR];GUD OVER GUD LUGAL;GUL;GUM;GUM TIMES SHE;GUR;GUR7;GURUN;GURUSH;HA;HA [",
    "TENU;GUNU];HAL;HI;HI TIMES [ASH;ASH2;BAD;DISH;GAD;KIN;NUN;SHE;U];HU;HUB[2;2 TIMES [AN;HAL;",
    "KASKAL;LISH;UD]];HUL2;I;I A;IB;IDIM;IDIM OVER IDIM [BUR;SQUARED];IG;IGI;IGI [DIB;RI;OVER ",
    "IGI SHIR OVER SHIR UD OVER UD;GUNU];IL;IL TIMES GAN2 TENU;IL2;IM;IM [TIMES TAK4;CROSSING ",
    "IM;OPPOSING IM;SQUARED];IMIN;IN;IR;ISH;KA;KA TIMES [A;AD;AD PLUS KU3;ASH2;BAD;BALAG;BAR;",
    "BI;ERIN2;ESH2;GA;GAL;GAN2 TENU;GAR;GAR PLUS SHA3 PLUS A;GI;GIR2;GISH [PLUS SAR;CROSSING ",
    "GISH];GU;GUR7;IGI;IM;KAK;KI;KID;LI;LU;ME;ME PLUS [DU;GI;TE];MI;MI PLUS NUNUZ;NE;NUN;PI;RU;",
    "SA;SAR;SHA;SHE;SHID;SHU;SIG;SUHUR;TAR;U;U2;UD;UMUM TIMES PA;USH;ZI];KA2;KA2 CROSSING KA2;",
    "KAB;KAD[2;3;4;5;5 OVER KAD5];KAK;KAK TIMES IGI GUNU;KAL;KAL [TIMES BAD;CROSSING KAL];KAM[",
    "2;4];KASKAL;KASKAL [LAGAB TIMES U OVER LAGAB TIMES U;OVER KASKAL LAGAB TIMES U OVER LAGAB ",
    "TIMES U];KESH2;KI;KI TIMES [BAD;U;UD];KID;KIN;KISAL;KISH;KISIM[5;5 OVER KISIM5];KU;KU ",
    "OVER HI TIMES ASH2 KU OVER HI TIMES ASH2;KU[3;4;4 VARIANT FORM;7];KUL;KUL GUNU;KUN;KUR;",
    "KUR OPPOSING KUR;KUSHU2;KWU318;LA;LAGAB;LAGAB TIMES [A;A PLUS [DA PLUS HA;GAR;LAL];AL;AN;",
    "ASH ZIDA TENU;BAD;BI;DAR;EN;GA;GAR;GUD;GUD PLUS GUD;HA;HAL;HI TIMES NUN;IGI GUNU;IM;IM ",
    "PLUS [HA;LU];KI;KIN;KU3;KUL;KUL PLUS HI PLUS A;LAGAB;LISH;LU;LUL;ME;ME PLUS EN;MUSH;NE;",
    "SHE PLUS SUM;SHITA PLUS GISH [PLUS ERIN2;TENU];SHU[2;2 PLUS SHU2];SUM;TAG;TAK4;TE PLUS A ",
    "PLUS SU PLUS NA;U;U PLUS [A;U PLUS U];U2 PLUS ASH;UD;USH];LAGAB SQUARED;LAGAR;LAGAR [",
    "TIMES [SHE;SHE PLUS SUM];GUNU;GUNU OVER LAGAR GUNU SHE];LAHSHU;LAL;LAL TIMES LAL;LAM;LAM ",
    "TIMES [KUR;KUR PLUS RU];LI;LIL;LIMMU2;LISH;LU;LU TIMES BAD;LU[2;2 TIMES [AL;BAD;ESH[2;2 ",
    "TENU];GAN2 TENU;HI TIMES BAD;IM;KAD[2;3;3 PLUS ASH];KI;LA PLUS ASH;LAGAB;ME PLUS EN;NE;NU;",
    "SI PLUS ASH;SIK2 PLUS BU;TUG2];2 [TENU;CROSSING LU2;OPPOSING LU2;SQUARED;SHESHIG];3];",
    "LUGAL;LUGAL [OVER LUGAL;OPPOSING LUGAL;SHESHIG];LUH;LUL;LUM;LUM OVER [LUM;LUM GAR OVER ",
    "GAR];MA;MA [TIMES TAK4;GUNU];MA2;MAH;MAR;MASH;MASH2;ME;MES;MI;MIN;MU;MU OVER MU;MUG;MUG ",
    "GUNU;MUNSUB;MURGU2;MUSH;MUSH [TIMES [A;KUR;ZA];OVER [MUSH;MUSH TIMES A PLUS NA];CROSSING ",
    "MUSH];MUSH[3;3 TIMES [A;A PLUS DI;DI];3 GUNU];NA;NA2;NAGA;NAGA [INVERTED;TIMES SHU TENU;",
    "OPPOSING NAGA];NAGAR;NAM NUTILLU;NAM;NAM2;NE;NE TIMES [A;UD];NE SHESHIG;NI;NI TIMES E;NI2;",
    "NIM;NIM TIMES [GAN2 TENU;GAR PLUS GAN2 TENU];NINDA[2;2 TIMES [AN;ASH;ASH PLUS ASH;GUD;ME ",
    "PLUS GAN2 TENU;NE;NUN;SHE;SHE PLUS [A AN;ASH;ASH PLUS ASH];U2 PLUS ASH;USH]];NISAG;NU;",
    "NU11;NUN;NUN LAGAR TIMES [GAR;MASH;SAL;SAL OVER NUN LAGAR TIMES SAL;USH];NUN [TENU;OVER ",
    "NUN;CROSSING [NUN;NUN LAGAR OVER LAGAR]];NUNUZ;NUNUZ AB2 TIMES [ASHGAB;BI;DUG;GUD;IGI ",
    "GUNU;KAD3;LA;NE;SILA3;U2];NUNUZ KISIM5 TIMES [BI;BI U];PA;PAD;PAN;PAP;PESH2;PI;PI TIMES [",
    "A;AB;BI;BU;E;I;IB;U;U2];PI CROSSING PI;PIRIG;PIRIG TIMES [KAL;UD;ZA];PIRIG OPPOSING PIRIG;",
    "RA;RAB;RI;RU;SA;SAG NUTILLU;SAG;SAG TIMES [A;DU;DUB;HA;KAK;KUR;LUM;MI;NUN;SAL;SHID;TAB;U2;",
    "UB;UM;UR;USH];SAG [OVER SAG;GUNU];SAL;SAL LAGAB TIMES ASH2;SANGA2;SAR;SHA;SHA[3;3 TIMES [",
    "A;BAD;GISH;NE;SHU2;TUR;U;U PLUS A];6];SHAB6;SHAR2;SHE;SHE [HU;OVER SHE [GAD OVER GAD GAR ",
    "OVER GAR;TAB OVER TAB GAR OVER GAR]];SHEG9;SHEN;SHESH;SHESH2;SHESHLAM;SHID;SHID TIMES [A;",
    "IM];SHIM;SHIM TIMES [A;BAL;BULUG;DIN;GAR;IGI;IGI GUNU;KUSHU2;LUL;MUG;SAL];SHINIG;SHIR;",
    "SHIR [TENU;OVER SHIR BUR OVER BUR];SHITA;SHU;SHU OVER INVERTED SHU;SHU2;SHUBUR;SI;SI GUNU;",
    "SIG;SIG[4;4 OVER SIG4 SHU2];SIK2;SILA3;SU;SU OVER SU;SUD;SUD2;SUHUR;SUM;SUMASH;SUR;SUR9;",
    "TA;TA [ASTERISK;TIMES [HI;MI];GUNU];TAB;TAB [OVER TAB NI OVER NI DISH OVER DISH;SQUARED];",
    "TAG;TAG TIMES [BI;GUD;SHE;SHU;TUG2;UD];TAK4;TAR;TE;TE GUNU;TI;TI TENU;TIL;TIR;TIR [TIMES ",
    "TAK4;OVER [TIR;TIR GAD OVER GAD GAR OVER GAR]];TU;TUG2;TUK;TUM;TUR;TUR OVER TUR ZA OVER ",
    "ZA;U;U [GUD;U U;OVER U [PA OVER PA GAR OVER GAR;SUR OVER SUR;U REVERSED OVER U REVERSED]];",
    "U2;UB;UD;UD [KUSHU2;TIMES [BAD;MI;U PLUS U PLUS [U;U GUNU]];GUNU;SHESHIG;SHESHIG TIMES ",
    "BAD];UDUG;UM;UM TIMES [LAGAB;ME PLUS DA;SHA3;U];UMBIN;UMUM;UMUM TIMES [KASKAL;PA];UN;UN ",
    "GUNU;UR;UR [CROSSING UR;SHESHIG];UR[2;2 TIMES [A PLUS [HA;NA];AL;HA;NUN;U2;U2 PLUS [ASH;",
    "BI]];4];URI;URI3;URU;URU TIMES [A;ASHGAB;BAR;DUN;GA;GAL;GAN2 TENU;GAR;GU;HA;IGI;IM;ISH;KI;",
    "LUM;MIN;PA;SHE;SIG4;TU;U PLUS GUD;UD;URUDA];URUDA;URUDA TIMES U;USH;USH TIMES [A;KU;KUR;",
    "TAK4];USHX;USH2;USHUMX;UTUKI;UZ3;UZ3 TIMES KASKAL;UZU;ZA;ZA [TENU;SQUARED TIMES KUR];ZAG;",
    "ZAMX;ZE2;ZI;ZI OVER ZI;ZI3;ZIB;ZIB KABA TENU;ZIG;ZIZ2;ZU;ZU5;ZU5 TIMES A;ZUBUR;ZUM;KAP ",
    "ELAMITE;AB TIMES NUN;AB2 TIMES A;AMAR TIMES KUG;DAG KISIM5 TIMES U2 PLUS MASH;DAG3;DISH ",
    "PLUS SHU;DUB TIMES SHE;EZEN TIMES [GUD;SHE];GA2 TIMES [AN PLUS KAK PLUS A;ASH2];GE22;GIG;",
    "HUSH;KA TIMES [ANSHE;ASH3;GISH;GUD;HI TIMES ASH2;LUM;PA;SHUL;TU;UR2];LAGAB TIMES GI;LU2 [",
    "SHESHIG TIMES BAD;TIMES [ESH2 PLUS LAL;SHU]];MESH;MUSH3 TIMES ZA;NA4;NIN;NIN9;NINDA2 ",
    "TIMES [BAL;GI];NU11 ROTATED NINETY DEGREES;PESH2 ASTERISK;PIR2;SAG TIMES IGI GUNU;TI2;UM ",
    "TIMES ME;U U]"]),
  (0x12400, ["CUNEIFORM NUMERIC SIGN [TWO ASH;THREE ASH;FOUR ASH;FIVE ASH;SIX ASH;SEVEN ASH;",
    "EIGHT ASH;NINE ASH;THREE DISH;FOUR DISH;FIVE DISH;SIX DISH;SEVEN DISH;EIGHT DISH;NINE ",
    "DISH;FOUR U;FIVE U;SIX U;SEVEN U;EIGHT U;NINE U;ONE GESH2;TWO GESH2;THREE GESH2;FOUR ",
    "GESH2;FIVE GESH2;SIX GESH2;SEVEN GESH2;EIGHT GESH2;NINE GESH2;ONE GESHU;TWO GESHU;THREE ",
    "GESHU;FOUR GESHU;FIVE GESHU;TWO SHAR2;THREE SHAR[2;2 VARIANT FORM];FOUR SHAR2;FIVE SHAR2;",
    "SIX SHAR2;SEVEN SHAR2;EIGHT SHAR2;NINE SHAR2;ONE SHARU;TWO SHARU;THREE [SHARU;SHARU ",
    "VARIANT FORM];FOUR SHARU;FIVE SHARU;SHAR2 TIMES GAL PLUS [DISH;MIN];ONE BURU;TWO BURU;",
    "THREE [BURU;BURU VARIANT FORM];FOUR BURU;FIVE BURU;THREE VARIANT FORM ESH[16;21];FOUR ",
    "VARIANT FORM [LIMMU;LIMMU4;LIMMU [A;B]];SIX VARIANT FORM ASH9;SEVEN VARIANT FORM [IMIN3;",
    "IMIN [A;B]];EIGHT VARIANT FORM [USSU;USSU3];NINE VARIANT FORM [ILIMMU;ILIMMU[3;4];ILIMMU ",
    "A];TWO ASH TENU;THREE ASH TENU;FOUR ASH TENU;FIVE ASH TENU;SIX ASH TENU;ONE BAN2;TWO BAN2;",
    "THREE BAN2;FOUR BAN[2;2 VARIANT FORM];FIVE BAN[2;2 VARIANT FORM];NIGIDAMIN;NIGIDAESH;ONE ",
    "ESHE3;TWO ESHE3;ONE THIRD DISH;TWO THIRDS DISH;FIVE SIXTHS DISH;ONE THIRD VARIANT FORM A;",
    "TWO THIRDS VARIANT FORM A;ONE [EIGHTH ASH;QUARTER ASH];OLD ASSYRIAN ONE [SIXTH;QUARTER];",
    "ONE [QUARTER GUR;HALF GUR];ELAMITE [ONE THIRD;TWO THIRDS;FORTY;FIFTY];FOUR U VARIANT FORM;",
    "FIVE U VARIANT FORM;SIX U VARIANT FORM;SEVEN U VARIANT FORM;EIGHT U VARIANT FORM;NINE U ",
    "VARIANT FORM];=;CUNEIFORM PUNCTUATION SIGN [OLD ASSYRIAN WORD DIVIDER;VERTICAL COLON;",
    "DIAGONAL [COLON;TRICOLON;QUADCOLON]]"]),
  (0x12480, ["CUNEIFORM SIGN [AB TIMES [NUN TENU;SHU2];AD TIMES ESH2;BAD TIMES DISH TENU;",
    "BAHAR2 TIMES [AB2;NI;ZA];BU OVER BU TIMES NA2;DA TIMES TAK4;DAG TIMES KUR;DIM TIMES [IGI;",
    "U U U];DIM2 TIMES UD;DUG TIMES [ANSHE;ASH;ASH AT LEFT;DIN;DUN;ERIN2;GA;GI;GIR2 GUNU;GISH;",
    "HA;HI;IGI GUNU;KASKAL;KUR;KUSHU[2;2 PLUS KASKAL];LAK-020;LAM;LAM TIMES KUR;LUH PLUS GISH;",
    "MASH;MES;MI;NI;PI;SHE;SI GUNU];E2 TIMES [KUR;PAP];ERIN2 X;ESH2 CROSSING ESH2;EZEN SHESHIG ",
    "TIMES [ASH;HI;IGI GUNU;LA;LAL;ME;MES;SU];EZEN TIMES SU;GA2 TIMES [BAHAR2;DIM GUNU;DUG ",
    "TIMES [IGI GUNU;KASKAL];EREN;GA;GAR PLUS [DI;NE];HA PLUS A;KUSHU2 PLUS KASKAL;LAM;LAM ",
    "TIMES KUR;LUH;MUSH;NE;NE PLUS [E2;GI];SHIM;ZIZ2];GABA ROTATED NINETY DEGREES;GESHTIN ",
    "TIMES U;GISH TIMES GISH CROSSING GISH;GU2 TIMES IGI GUNU;GUD PLUS GISH TIMES TAK4;HA TENU ",
    "GUNU;HI TIMES ASH OVER HI TIMES ASH;KA TIMES [BU;KA;U U U;UR];LAGAB TIMES ZU OVER ZU;LAK-[",
    "003;021;025;030;050;051;062;079 OVER LAK-079 GUNU;080;081 OVER LAK-081;092;130;142;210;",
    "219;220;225;228;238;265;266;343;347;348;383;384;390;441;449;449 TIMES [GU;IGI;PAP PLUS [",
    "LU3;PAP PLUS LU3];U2 PLUS BA];450;457;470;483;490;492;493;495;550;608;617;617 TIMES [ASH;",
    "BAD;DUN3 GUNU GUNU;KU3;LA;TAR;TE;U2;UD;URUDA];636;648;648 TIMES [DUB;GA;IGI;IGI GUNU;NI;",
    "PAP PLUS PAP PLUS LU3;SHESH PLUS KI;UD;URUDA];724;749];LU2 [GUNU TIMES ASH;TIMES [DISH;",
    "HAL;PAP;PAP PLUS PAP PLUS LU3;TAK4]];MI PLUS ZA7;MUSH OVER MUSH TIMES [GA;KAK];NINDA2 ",
    "TIMES [DIM GUNU;GISH;GUL;HI;KESH2;LAK-050;MASH;PAP PLUS PAP;U;U PLUS U;URUDA];SAG [GUNU ",
    "TIMES HA;TIMES [EN;SHE AT LEFT;TAK4]];SHA6 TENU;SHE [OVER SHE;PLUS [HUB2;NAM2;SAR]];SHU2 ",
    "PLUS [DUG TIMES NI;E2 TIMES AN];SI TIMES TAK4;TAK4 PLUS SAG;TUM TIMES [GAN2 TENU;THREE ",
    "DISH];UR2 [INVERTED;TIMES UD];URU TIMES [DARA3;LAK-668;LU3];ZA7;ZU OVER ZU PLUS SAR;ZU5 ",
    "TIMES THREE DISH TENU]"]),
  (0x12f90, ["CYPRO-MINOAN SIGN CM[001;002;004;005;006;007;008;009;010;011;012;012B;013;015;",
    "017;019;021;023;024;025;026;027;028;029;030;033;034;035;036;037;038;039;040;041;044;046;",
    "047;049;050;051;052;053;054;055;056;058;059;060;061;062;063;064;066;067;068;069;070;071;",
    "072;073;074;075;075B;076;078;079;080;081;082;083;084;085;086;087;088;089;090;091;092;094;",
    "095;096;097;098;099;100;101;102;103;104;105;107;108;109;110;112;114;301;302]"]),
  (0x13000, ["EGYPTIAN HIEROGLYPH [A[001;002;003;004;005;005A;006;006A;006B;007;008;009;010;",
    "011;012;013;014;014A;015;016;017;017A;018;019;020;021;022;023;024;025;026;027;028;029;030;",
    "031;032;032A;033;034;035;036;037;038;039;040;040A;041;042;042A;043;043A;044;045;045A;046;",
    "047;048;049;050;051;052;053;054;055;056;057;058;059;060;061;062;063;064;065;066;067;068;",
    "069;070];B[001;002;003;004;005;005A;006;007;008;009];C[001;002;002A;002B;002C;003;004;005;",
    "006;007;008;009;010;010A;011;012;013;014;015;016;017;018;019;020;021;022;023;024];D[001;",
    "002;003;004;005;006;007;008;008A;009;010;011;012;013;014;015;016;017;018;019;020;021;022;",
    "023;024;025;026;027;027A;028;029;030;031;031A;032;033;034;034A;035;036;037;038;039;040;",
    "041;042;043;044;045;046;046A;047;048;048A;049;050;050A;050B;050C;050D;050E;050F;050G;050H;",
    "050I;051;052;052A;053;054;054A;055;056;057;058;059;060;061;062;063;064;065;066;067;067A;",
    "067B;067C;067D;067E;067F;067G;067H];E[001;002;003;004;005;006;007;008;008A;009;009A;010;",
    "011;012;013;014;015;016;016A;017;017A;018;019;020;020A;021;022;023;024;025;026;027;028;",
    "028A;029;030;031;032;033;034;034A;036;037;038];F[001;001A;002;003;004;005;006;007;008;009;",
    "010;011;012;013;013A;014;015;016;017;018;019;020;021;021A;022;023;024;025;026;027;028;029;",
    "030;031;031A;032;033;034;035;036;037;037A;038;038A;039;040;041;042;043;044;045;045A;046;",
    "046A;047;047A;048;049;050;051;051A;051B;051C;052;053];G[001;002;003;004;005;006;006A;007;",
    "007A;007B;008;009;010;011;011A;012;013;014;015;016;017;018;019;020;020A;021;022;023;024;",
    "025;026;026A;027;028;029;030;031;032;033;034;035;036;036A;037;037A;038;039;040;041;042;",
    "043;043A;044;045;045A;046;047;048;049;050;051;052;053;054];H[001;002;003;004;005;006;006A;",
    "007;008];I[001;002;003;004;005;005A;006;007;008;009;009A;010;010A;011;011A;012;013;014;",
    "015];K[001;002;003;004;005;006;007;008];L[001;002;002A;003;004;005;006;006A;007;008];M[",
    "001;001A;001B;002;003;003A;004;005;006;007;008;009;010;010A;011;012;012A;012B;012C;012D;",
    "012E;012F;012G;012H;013;014;015;015A;016;016A;017;017A;018;019;020;021;022;022A;023;024;",
    "024A;025;026;027;028;028A;029;030;031;031A;032;033;033A;033B;034;035;036;037;038;039;040;",
    "040A;041;042;043;044];N[001;002;003;004;005;006;007;008;009;010;011;012;013;014;015;016;",
    "017;018;018A;018B;019;020;021;022;023;024;025;025A;026;027;028;029;030;031;032;033;033A;",
    "034;034A;035;035A;036;037;037A;038;039;040;041;042];NL[001;002;003;004;005;005A;006;007;",
    "008;009;010;011;012;013;014;015;016;017;017A;018;019;020];NU[001;002;003;004;005;006;007;",
    "008;009;010;010A;011;011A;012;013;014;015;016;017;018;018A;019;020;021;022;022A];O[001;",
    "001A;002;003;004;005;005A;006;006A;006B;006C;006D;006E;006F;007;008;009;010;010A;010B;",
    "010C;011;012;013;014;015;016;017;018;019;019A;020;020A;021;022;023;024;024A;025;025A;026;",
    "027;028;029;029A;030;030A;031;032;033;033A;034;035;036;036A;036B;036C;036D;037;038;039;",
    "040;041;042;043;044;045;046;047;048;049;050;050A;050B;051];P[001;001A;002;003;003A;004;",
    "005;006;007;008;009;010;011];Q[001;002;003;004;005;006;007];R[001;002;002A;003;003A;003B;",
    "004;005;006;007;008;009;010;010A;011;012;013;014;015;016;016A;017;018;019;020;021;022;023;",
    "024;025;026;027;028;029];S[001;002;002A;003;004;005;006;006A;007;008;009;010;011;012;013;",
    "014;014A;014B;015;016;017;017A;018;019;020;021;022;023;024;025;026;026A;026B;027;028;029;",
    "030;031;032;033;034;035;035A;036;037;038;039;040;041;042;043;044;045;046];T[001;002;003;",
    "003A;004;005;006;007;007A;008;008A;009;009A;010;011;011A;012;013;014;015;016;016A;017;018;",
    "019;020;021;022;023;024;025;026;027;028;029;030;031;032;032A;033;033A;034;035;036];U[001;",
    "002;003;004;005;006;006A;006B;007;008;009;010;011;012;013;014;015;016;017;018;019;020;021;",
    "022;023;023A;024;025;026;027;028;029;029A;030;031;032;032A;033;034;035;036;037;038;039;",
    "040;041;042];V[001;001A;001B;001C;001D;001E;001F;001G;001H;001I;002;002A;003;004;005;006;",
    "007;007A;007B;008;009;010;011;011A;011B;011C;012;012A;012B;013;014;015;016;017;018;019;",
    "020;020A;020B;020C;020D;020E;020F;020G;020H;020I;020J;020K;020L;021;022;023;023A;024;025;",
    "026;027;028;028A;029;029A;030;030A;031;031A;032;033;033A;034;035;036;037;037A;038;039;040;",
    "040A];W[001;002;003;003A;004;005;006;007;008;009;009A;010;010A;011;012;013;014;014A;015;",
    "016;017;017A;018;018A;019;020;021;022;023;024;024A;025];X[001;002;003;004;004A;004B;005;",
    "006;006A;007;008;008A];Y[001;001A;002;003;004;005;006;007;008];Z[001;002;002A;002B;002C;",
    "002D;003;003A;003B;004;004A;005;005A;006;007;008;009;010;011;012;013;014;015;015A;015B;",
    "015C;015D;015E;015F;015G;015H;015I;016;016A;016B;016C;016D;016E;016F;016G;016H];AA[001;",
    "002;003;004;005;006;007;007A;007B;008;009;010;011;012;013;014;015;016;017;018;019;020;021;",
    "022;023;024;025;026;027;028;029;030;031;032];=;VERTICAL JOINER;HORIZONTAL JOINER;INSERT ",
    "AT [TOP START;BOTTOM START;TOP END;BOTTOM END];OVERLAY MIDDLE;BEGIN SEGMENT;END SEGMENT]"]),
  (0x14400, ["ANATOLIAN HIEROGLYPH A[001;002;003;004;005;006;007;008;009;010;010A;011;012;013;",
    "014;015;016;017;018;019;020;021;022;023;024;025;026;026A;027;028;029;030;031;032;033;034;",
    "035;036;037;038;039;039A;040;041;041A;042;043;044;045;045A;046;046A;046B;047;048;049;050;",
    "051;052;053;054;055;056;057;058;059;060;061;062;063;064;065;066;066A;066B;066C;067;068;",
    "069;070;071;072;073;074;075;076;077;078;079;080;081;082;083;084;085;086;087;088;089;090;",
    "091;092;093;094;095;096;097;097A;098;098A;099;100;100A;101;101A;102;102A;103;104;104A;",
    "104B;104C;105;105A;105B;106;107;107A;107B;107C;108;109;110;110A;110B;111;112;113;114;115;",
    "115A;116;117;118;119;120;121;122;123;124;125;125A;126;127;128;129;130;131;132;133;134;135;",
    "135A;136;137;138;139;140;141;142;143;144;145;146;147;148;149;150;151;152;153;154;155;156;",
    "157;158;159;160;161;162;163;164;165;166;167;168;169;170;171;172;173;174;175;176;177;178;",
    "179;180;181;182;183;184;185;186;187;188;189;190;191;192;193;194;195;196;197;198;199;200;",
    "201;202;202A;202B;203;204;205;206;207;207A;208;209;209A;210;211;212;213;214;215;215A;216;",
    "216A;217;218;219;220;221;222;223;224;225;226;227;227A;228;229;230;231;232;233;234;235;236;",
    "237;238;239;240;241;242;243;244;245;246;247;248;249;250;251;252;253;254;255;256;257;258;",
    "259;260;261;262;263;264;265;266;267;267A;268;269;270;271;272;273;274;275;276;277;278;279;",
    "280;281;282;283;284;285;286;287;288;289;289A;290;291;292;293;294;294A;295;296;297;298;299;",
    "299A;300;301;302;303;304;305;306;307;308;309;309A;310;311;312;313;314;315;316;317;318;319;",
    "320;321;322;323;324;325;326;327;328;329;329A;330;331;332A;332B;332C;333;334;335;336;336A;",
    "336B;336C;337;338;339;340;341;342;343;344;345;346;347;348;349;350;351;352;353;354;355;356;",
    "357;358;359;359A;360;361;362;363;364;364A;365;366;367;368;368A;369;370;371;371A;372;373;",
    "374;375;376;377;378;379;380;381;381A;382;383 RA OR RI;383A;384;385;386;386A;387;388;389;",
    "390;391;392;393 EIGHT;394;395;396;397;398;399;400;401;402;403;404;405;406;407;408;409;410 ",
    "BEGIN LOGOGRAM MARK;410A END LOGOGRAM MARK;411;412;413;414;415;416;417;418;419;420;421;",
    "422;423;424;425;426;427;428;429;430;431;432;433;434;435;436;437;438;439;440;441;442;443;",
    "444;445;446;447;448;449;450;450A;451;452;453;454;455;456;457;457A;458;459;460;461;462;463;",
    "464;465;466;467;468;469;470;471;472;473;474;475;476;477;478;479;480;481;482;483;484;485;",
    "486;487;488;489;490;491;492;493;494;495;496;497;501;502;503;504;505;506;507;508;509;510;",
    "511;512;513;514;515;516;517;518;519;520;521;522;523;524;525;526;527;528;529;530]"]),
  (0x16800, ["BAMUM LETTER PHASE-[A [NGKUE MFON;GBIEE FON;PON MFON [PIPAEMGBIEE;PIPAEMBA];NAA ",
    "MFON;SHUENSHUET;TITA MFON;NZA MFON;SHINDA PA NJI;PON PA NJI [PIPAEMGBIEE;PIPAEMBA];",
    "MAEMBGBIEE;TU MAEMBA;NGANGU;MAEMVEUX;MANSUAE;MVEUAENGAM;SEUNYAM;NTOQPEN;KEUKEUTNDA;NKINDI;",
    "SUU;NGKUENZEUM;LAPAQ;LET KUT;NTAP MFAA;MAEKEUP;PASHAE;GHEUAERAE;PAMSHAE;MON NGGEUAET;NZUN ",
    "MEUT;U YUQ NAE;GHEUAEGHEUAE;NTAP NTAA;SISA;MGBASA;MEUNJOMNDEUQ;MOOMPUQ;KAFA;PA LEERAEWA;",
    "NDA LEERAEWA;PET;MAEMKPEN;NIKA;PUP;TUAEP;LUAEP;SONJAM;TEUTEUWEN;MAENYI;KET;NDAANGGEUAET;",
    "KUOQ;MOOMEUT;SHUM;LOMMAE;FIRI;ROM;KPOQ;SOQ;MAP PIEET;SHIRAE;NTAP;SHOQ NSHUT YUM;NYIT ",
    "MONGKEUAEQ;PAARAE;NKAARAE;UNKNOWN;NGGEN;MAESI;NJAM;MBANYI;NYET;TEUAEN;SOT;PAAM;NSHIEE;",
    "MAEM;NYI;KAQ;NSHA;VEE;LU;NEN;NAQ;MBAQ];B [NSHUET;TU MAEMGBIEE;SIEE;SET TU;LOM NTEUM;MBA ",
    "MAELEE;KIEEM;YEURAE;MBAARAE;KAM;PEESHI;YAFU LEERAEWA;LAM NSHUT NYAM;NTIEE SHEUOQ;NDU NJAA;",
    "GHEUGHEUAEM;PIT;TU NSIEE;SHET NJAQ;SHEUAEQTU;MFON TEUAEQ;MBIT MBAAKET;NYI NTEUM;KEUPUQ;",
    "GHEUGHEN;KEUYEUX;LAANAE;PARUM;VEUM;NGKINDI MVOP;NGGEU MBU;WUAET;SAKEUAE;TAAM;MEUQ;NGGUOQ;",
    "NGGUOQ LARGE;MFIYAQ;SUE;MBEURI;MONTIEEN;NYAEMAE;PUNGAAM;MEUT NGGEET;FEUX;MBUOQ;FEE;KEUAEM;",
    "MA [NJEUAENA;NJUQA];LET;NGGAAM;NSEN;MA;KIQ;NGOM];C [NGKUE MAEMBA;NZA;YUM;WANGKUOQ;NGGEN;",
    "NDEUAEREE;NGKAQ;GHARAE;MBEEKEET;GBAYI;NYIR MKPARAQ MEUN;NTU MBIT;MBEUM;PIRIEEN;NDOMBU;",
    "MBAA CABBAGE-TREE;KEUSHEUAEP;GHAP;KEUKAQ;YU MUOMAE;NZEUM;MBUE;NSEUAEN;MBIT;YEUQ;KPARAQ;",
    "KAA;SEUX;NDIDA;TAASHAE;NJUEQ;TITA YUE;SUAET;NGGUAEN NYAM;VEUX;NANSANAQ;MA KEUAERI;NTAA;",
    "NGGUON;LAP;MBIRIEEN;MGBASAQ;NTEUNGBA;TEUTEUX;NGGUM;FUE;NDEUT;NSA;NSHAQ;BUNG;VEUAEPEN;",
    "MBERAE;RU;NJAEM;LAM;TITUAEP;NSUOT NGOM;NJEEEE;KET;NGGU;MAESI;MBUAEM;LU;KUT;NJAM;NGOM;WUP;",
    "NGGUEET;NSOM;NTEN;KUOP NKAARAE;NSUN;NDAM;MA NSIEE;YAA;NDAP;SHUEQ;SETFON;MBI;MAEMBA;MBANYI;",
    "KEUSEUX;MBEUX;KEUM;MBAA PICKET;YUWOQ;NJEUX;MIEE;MUAE;SHIQ;KEN [LAW;FATIGUE];NGAQ;NAQ;LIQ;",
    "PIN;PEN;TET];D [MBUO;WAP;NJI;MFON;NJIEE;LIEE;NJEUT;NSHEE;NGGAAMAE;NYAM;WUAEN;NGKUN;SHEE;",
    "NGKAP;KEUAETMEUN;TEUT;SHEUAE;NJAP;SUE;KET;YAEMMAE;KUOM;SAP;MFEUT;NDEUX;MALEERI;MEUT;",
    "SEUAEQ;YEN;NJEUAEM;KEUOT MBUAE;NGKEURI;TU;GHAA;NGKYEE;FEUFEUAET;NDEE;MGBOFUM;LEUAEP;NDON;",
    "MONI;MGBEUN;PUUT;MGBIEE;MFO;LUM;NSIEEP;MBAA;KWAET;NYET;TEUAEN;SOT;YUWOQ;KEUM;RAEM;TEEEE;",
    "NGKEUAEQ;MFEUAE;NSIEET;KEUP;PIP;PEUTAE;NYUE;LET;NGGAAM;MFIEE;NGGWAEN;YUOM;PAP;YUOP;NDAM;",
    "NTEUM;SUAE;KUN;NGGEUX;NGKIEE;TUOT;MEUN;KUQ;NSUM;TEUN;MAENJET;NGGAP;LEUM;NGGUOM;NSHUT;",
    "NJUEQ;GHEUAE;KU;REN OLD;TAE;TOQ;NYI;RII;LEEEE;MEEEE;M;SUU;MU;SHII;SHEUX;KYEE;NU;SHU;NTEE;",
    "PEE;NI;SHOQ;PUQ;MVOP;LOQ;REN MUCH;TI;NTUU;MBAA SEVEN;SAQ;FAA];E [NDAP;TOON;MBEUM;LAP;VOM;",
    "LOON;PAA;SOM;RAQ;NSHUOP;NDUN;PUAE;TAM;NGKA;KPEUX;WUO;SEE;NGGEUAET;PAAM;TOO;KUOP;LOM;",
    "NSHIEE;NGOP;MAEM;NGKEUX;NGOQ;NSHUE;RIMGBA;NJEUX;PEEM;SAA;NGGURAE;MGBA;GHEUX;NGKEUAEM;",
    "NJAEMLI;MAP;LOOT;NGGEEEE;NDIQ;TAEN NTEUM;SET;PUM;NDAA SOFTNESS;NGGUAESHAE NYAM;YIEE;GHEUN;",
    "TUAE;YEUAE;PO;TUMAE;KEUAE;SUAEN;TEUAEQ;VEUAE;WEUX;LAAM;PU;TAAQ;GHAAMAE;NGEUREUT;SHEUAEQ;",
    "MGBEN;MBEE;NZAQ;NKOM;GBET;TUM;KUET;YAP;NYI CLEAVER;YIT;MFEUQ;NDIAQ;PIEEQ;YUEQ;LEUAEM;FUE;",
    "GBEUX;NGKUP;KET;MAE;NGKAAMI;GHET;FA;NTUM;PEUT;YEUM;NGGEUAE;NYI BETWEEN;NZUQ;POON;MIEE;",
    "FUET;NAE;MUAE;GHEUAE;FU I;MVI;PUAQ;NGKUM;KUT;PIET;NTAP;YEUAET;NGGUP;PA PEOPLE;FU CALL;FOM;",
    "NJEE;A;TOQ;O;I;LAQ;PA PLURAL;TAA;TAQ;NDAA MY HOUSE;SHIQ;YEUX;NGUAE;YUAEN;YOQ [SWIMMING;",
    "COVER];YUQ;YUN;KEUX;PEUX;NJEE EPOCH;PUE;WUE;FEE;VEE;LU;MI;REUX;RAE;NGUAET;NGA;SHO;SHOQ;FU ",
    "REMEDY;NA;PI;LOQ;KO;MEN;MA;MAQ;TEU;KI;MON;TEN;FAQ;GHOM];F [KA;U;KU;EE;REE;TAE;NYI;LA;RII;",
    "RIEE;MEEEE;TAA;NDAA;NJAEM;M;SUU;SHII;SI;SEUX;KYEE;KET;NUAE;NU;NJUAE;YOQ;SHU;YA;NSHA;PEUX;",
    "NTEE;WUE;PEE;RU;NI;REUX;KEN;NGKWAEN;NGGA;SHO;PUAE;FOM;WA;LI;LOQ;KO;MBEN;REN;MA;MO;MBAA;",
    "TET;KPA;SAMBA;VUEQ]]"]),
  (0x16a40, ["MRO LETTER [TA;NGI;YO;MIM;BA;DA;A;PHI;KHAI;HAO;DAI;CHU;KEAAE;OL;MAEM;NIN;PA;OO;O;",
    "RO;SHI;THEA;EA;WA;E;KO;LAN;LA;HAI;RI;TEK];=;MRO DIGIT [ZERO;ONE;TWO;THREE;FOUR;FIVE;SIX;",
    "SEVEN;EIGHT;NINE];=;=;=;=;MRO [DANDA;DOUBLE DANDA];TANGSA LETTER [OZ;OC;OQ;OX;AZ;AC;AQ;AX;",
    "VZ;VC;VQ;VX;EZ;EC;EQ;EX;IZ;IC;IQ;IX;UZ;UC;UQ;UX;AWZ;AWC;AWQ;AWX;UIZ;UIC;UIQ;UIX;FINAL NG;",
    "LONG UEX;SHORT [UEZ;AWX];UEC;UEZ;UEQ;UEX;UIUZ;UIUC;UIUQ;UIUX;MZ;MC;MQ;MX;KA;KHA;GA;NGA;SA;",
    "YA;WA;PA;NYA;PHA;BA;MA;NA;HA;LA;HTA;TA;DA;RA;NHA;SHA;CA;TSA;GHA;HTTA;THA;XA;FA;DHA;CHA;",
    "ZA];=;TANGSA DIGIT [ZERO;ONE;TWO;THREE;FOUR;FIVE;SIX;SEVEN;EIGHT;NINE]"]),
  (0x16ad0, ["BASSA VAH LETTER [ENNI;KA;SE;FA;MBE;YIE;GAH;DHII;KPAH;JO;HWAH;WA;ZO;GBU;DO;CE;",
    "UWU;TO;BA;VU;YEIN;PA;WADDA;A;O;OO;U;EE;E;I];=;=;BASSA VAH COMBINING [HIGH TONE;LOW TONE;",
    "MID TONE;LOW-MID TONE;HIGH-LOW TONE];BASSA VAH FULL STOP"]),
  (0x16b00, ["PAHAWH HMONG [VOWEL [KEEB;KEEV;KIB;KIV;KAUB;KAUV;KUB;KUV;KEB;KEV;KAIB;KAIV;KOOB;",
    "KOOV;KAWB;KAWV;KUAB;KUAV;KOB;KOV;KIAB;KIAV;KAB;KAV;KWB;KWV;KAAB;KAAV];CONSONANT [VAU;",
    "NTSAU;LAU;HAU;NLAU;RAU;NKAU;QHAU;YAU;HLAU;MAU;CHAU;NCHAU;HNAU;PLHAU;NTHAU;NAU;AU;XAU;CAU];",
    "MARK CIM [TUB;SO;KES;KHAV;SUAM;HOM;TAUM];SIGN [VOS [THOM;TSHAB CEEB];CIM CHEEM;VOS [THIAB;",
    "FEEM];XYEEM [NTXIV;RHO;TOV;FAIB];VOS SEEV;MEEJ SUAB;VOS NRUA;IB YAM;XAUS;CIM TSOV ROG]]"]),
  (0x16b50, ["PAHAWH HMONG [DIGIT [ZERO;ONE;TWO;THREE;FOUR;FIVE;SIX;SEVEN;EIGHT;NINE];=;NUMBER ",
    "[TENS;HUNDREDS;TEN THOUSANDS;MILLIONS;HUNDRED MILLIONS;TEN BILLIONS;TRILLIONS];=;SIGN [",
    "VOS LUB;XYOO;HLI;THIRD-STAGE HLI;ZWJ THAJ;HNUB;NQIG;XIAB;NTUJ;AV;TXHEEJ CEEV;MEEJ TSEEB;",
    "TAU;LOS;MUS;CIM [HAIS LUS NTOG NTOG;CUAM TSHOOJ;TXWV;TXWV CHWV;PUB DAWB;NRES TOS]];=;=;=;",
    "=;=;CLAN SIGN [TSHEEJ;YEEG;LIS;LAUJ;XYOOJ;KOO;HAWJ;MUAS;THOJ;TSAB;PHAB;KHAB;HAM;VAJ;FAJ;",
    "YAJ;TSWB;KWM;VWJ]]"]),
  (0x16e40, ["MEDEFAIDRIN [CAPITAL LETTER [M;S;V;W;ATIU;Z;KP;P;T;G;F;I;K;A;J;E;B;C;U;YU;L;Q;HP;",
    "NY;X;D;OE;N;R;O;AI;Y];SMALL LETTER [M;S;V;W;ATIU;Z;KP;P;T;G;F;I;K;A;J;E;B;C;U;YU;L;Q;HP;",
    "NY;X;D;OE;N;R;O;AI;Y];DIGIT [ZERO;ONE;TWO;THREE;FOUR;FIVE;SIX;SEVEN;EIGHT;NINE];NUMBER [",
    "TEN;ELEVEN;TWELVE;THIRTEEN;FOURTEEN;FIFTEEN;SIXTEEN;SEVENTEEN;EIGHTEEN;NINETEEN];DIGIT [",
    "ONE ALTERNATE FORM;TWO ALTERNATE FORM;THREE ALTERNATE FORM];COMMA;FULL STOP;SYMBOL AIVA;",
    "EXCLAMATION OH]"]),
  (0x16f00, ["MIAO LETTER [PA;BA;YI PA;PLA;MA;MHA;ARCHAIC MA;FA;VA;VFA;TA;DA;YI [TTA;TA];TTA;",
    "DDA;NA;NHA;YI NNA;ARCHAIC NA;NNA;NNHA;LA;LYA;LHA;LHYA;TLHA;DLHA;TLHYA;DLHYA;KA;GA;YI KA;",
    "QA;QGA;NGA;NGHA;ARCHAIC NGA;HA;XA;GHA;GHHA;TSSA;DZZA;NYA;NYHA;TSHA;DZHA;YI [TSHA;DZHA];",
    "REFORMED TSHA;SHA;SSA;ZHA;ZSHA;TSA;DZA;YI TSA;SA;ZA;ZSA;ZZA;ZZSA;ARCHAIC ZZA;ZZYA;ZZSYA;",
    "WA;AH;HHA;BRI;SYI;DZYI;TE;TSE;RTE];=;=;=;=;MIAO [SIGN CONSONANT MODIFIER BAR;LETTER ",
    "NASALIZATION;SIGN [ASPIRATION;REFORMED [VOICING;ASPIRATION]];VOWEL SIGN [A;AA;AHH;AN;ANG;",
    "O;OO;WO;W;E;EN;ENG;OEY;I;IA;IAN;IANG;IO;IE;II;IU;ING;U;UA;UAN;UANG;UU;UEI;UNG;Y;YI;AE;AEE;",
    "ERR;ROUNDED ERR;ER;ROUNDED ER;AI;EI;AU;OU;N;NG;UOG;YUI;OG;OER;VW;IG;EA;IONG;UI]]"]),
  (0x16f8f, ["MIAO [TONE [RIGHT;TOP RIGHT;ABOVE;BELOW];LETTER [TONE-[2;3;4;5;6;7;8];REFORMED ",
    "TONE-[1;2;4;5;6;8]]]"]),
  (0x16fe0, ["TANGUT ITERATION MARK;NUSHU ITERATION MARK;OLD CHINESE [HOOK MARK;ITERATION ",
    "MARK];KHITAN SMALL SCRIPT FILLER"]),
  (0x16ff0, ["VIETNAMESE ALTERNATE READING MARK [CA;NHAY]"]),
  (0x18800, ["TANGUT COMPONENT-[001;002;003;004;005;006;007;008;009;010;011;012;013;014;015;",
    "016;017;018;019;020;021;022;023;024;025;026;027;028;029;030;031;032;033;034;035;036;037;",
    "038;039;040;041;042;043;044;045;046;047;048;049;050;051;052;053;054;055;056;057;058;059;",
    "060;061;062;063;064;065;066;067;068;069;070;071;072;073;074;075;076;077;078;079;080;081;",
    "082;083;084;085;086;087;088;089;090;091;092;093;094;095;096;097;098;099;100;101;102;103;",
    "104;105;106;107;108;109;110;111;112;113;114;115;116;117;118;119;120;121;122;123;124;125;",
    "126;127;128;129;130;131;132;133;134;135;136;137;138;139;140;141;142;143;144;145;146;147;",
    "148;149;150;151;152;153;154;155;156;157;158;159;160;161;162;163;164;165;166;167;168;169;",
    "170;171;172;173;174;175;176;177;178;179;180;181;182;183;184;185;186;187;188;189;190;191;",
    "192;193;194;195;196;197;198;199;200;201;202;203;204;205;206;207;208;209;210;211;212;213;",
    "214;215;216;217;218;219;220;221;222;223;224;225;226;227;228;229;230;231;232;233;234;235;",
    "236;237;238;239;240;241;242;243;244;245;246;247;248;249;250;251;252;253;254;255;256;257;",
    "258;259;260;261;262;263;264;265;266;267;268;269;270;271;272;273;274;275;276;277;278;279;",
    "280;281;282;283;284;285;286;287;288;289;290;291;292;293;294;295;296;297;298;299;300;301;",
    "302;303;304;305;306;307;308;309;310;311;312;313;314;315;316;317;318;319;320;321;322;323;",
    "324;325;326;327;328;329;330;331;332;333;334;335;336;337;338;339;340;341;342;343;344;345;",
    "346;347;348;349;350;351;352;353;354;355;356;357;358;359;360;361;362;363;364;365;366;367;",
    "368;369;370;371;372;373;374;375;376;377;378;379;380;381;382;383;384;385;386;387;388;389;",
    "390;391;392;393;394;395;396;397;398;399;400;401;402;403;404;405;406;407;408;409;410;411;",
    "412;413;414;415;416;417;418;419;420;421;422;423;424;425;426;427;428;429;430;431;432;433;",
    "434;435;436;437;438;439;440;441;442;443;444;445;446;447;448;449;450;451;452;453;454;455;",
    "456;457;458;459;460;461;462;463;464;465;466;467;468;469;470;471;472;473;474;475;476;477;",
    "478;479;480;481;482;483;484;485;486;487;488;489;490;491;492;493;494;495;496;497;498;499;",
    "500;501;502;503;504;505;506;507;508;509;510;511;512;513;514;515;516;517;518;519;520;521;",
    "522;523;524;525;526;527;528;529;530;531;532;533;534;535;536;537;538;539;540;541;542;543;",
    "544;545;546;547;548;549;550;551;552;553;554;555;556;557;558;559;560;561;562;563;564;565;",
    "566;567;568;569;570;571;572;573;574;575;576;577;578;579;580;581;582;583;584;585;586;587;",
    "588;589;590;591;592;593;594;595;596;597;598;599;600;601;602;603;604;605;606;607;608;609;",
    "610;611;612;613;614;615;616;617;618;619;620;621;622;623;624;625;626;627;628;629;630;631;",
    "632;633;634;635;636;637;638;639;640;641;642;643;644;645;646;647;648;649;650;651;652;653;",
    "654;655;656;657;658;659;660;661;662;663;664;665;666;667;668;669;670;671;672;673;674;675;",
    "676;677;678;679;680;681;682;683;684;685;686;687;688;689;690;691;692;693;694;695;696;697;",
    "698;699;700;701;702;703;704;705;706;707;708;709;710;711;712;713;714;715;716;717;718;719;",
    "720;721;722;723;724;725;726;727;728;729;730;731;732;733;734;735;736;737;738;739;740;741;",
    "742;743;744;745;746;747;748;749;750;751;752;753;754;755;756;757;758;759;760;761;762;763;",
    "764;765;766;767;768]"]),
  (0x1aff0, ["KATAKANA LETTER MINNAN [TONE-[2;3;4;5;=;7;8];NASALIZED TONE-[1;2;3;4;5;=;7;8]];=;",
    "KATAKANA LETTER ARCHAIC E;HIRAGANA LETTER ARCHAIC YE;HENTAIGANA LETTER [A-[1;2;3;WO];I-[1;",
    "2;3;4];U-[1;2;3;4;5];E-[2;3;4;5;6];O-[1;2;3];KA-[1;2;3;4;5;6;7;8;9;10;11;KE];KI-[1;2;3;4;",
    "5;6;7;8];KU-[1;2;3;4;5;6;7];KE-[1;2;3;4;5;6];KO-[1;2;3;KI];SA-[1;2;3;4;5;6;7;8];SI-[1;2;3;",
    "4;5;6];SU-[1;2;3;4;5;6;7;8];SE-[1;2;3;4;5];SO-[1;2;3;4;5;6;7];TA-[1;2;3;4];TI-[1;2;3;4;5;",
    "6;7];TU-[1;2;3;4;TO];TE-[1;2;3;4;5;6;7;8;9];TO-[1;2;3;4;5;6;RA];NA-[1;2;3;4;5;6;7;8;9];",
    "NI-[1;2;3;4;5;6;7;TE];NU-[1;2;3];NE-[1;2;3;4;5;6;KO];NO-[1;2;3;4;5];HA-[1;2;3;4;5;6;7;8;9;",
    "10;11];HI-[1;2;3;4;5;6;7];HU-[1;2;3];HE-[1;2;3;4;5;6;7];HO-[1;2;3;4;5;6;7;8];MA-[1;2;3;4;",
    "5;6;7];MI-[1;2;3;4;5;6;7];MU-[1;2;3;4];ME-[1;2;MA];MO-[1;2;3;4;5;6];YA-[1;2;3;4;5;YO];YU-[",
    "1;2;3;4];YO-[1;2;3;4;5;6];RA-[1;2;3;4];RI-[1;2;3;4;5;6;7];RU-[1;2;3;4;5;6];RE-[1;2;3;4];",
    "RO-[1;2;3;4;5;6];WA-[1;2;3;4;5];WI-[1;2;3;4;5];WE-[1;2;3;4];WO-[1;2;3;4;5;6;7];N-MU-MO-[1;",
    "2]];HIRAGANA LETTER ARCHAIC WU;KATAKANA LETTER ARCHAIC [YI;YE;WU]"])]

end Mend.Text.CharName
