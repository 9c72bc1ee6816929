namespace Mend.Text.CharName

def syllables : List (Nat × List String) := [
  (0x31f0, ["KATAKANA LETTER SMALL [KU;SI;SU;TO;NU;HA;HI;HU;HE;HO;MU;RA;RI;RU;RE;RO];",
    "PARENTHESIZED [HANGUL [KIYEOK;NIEUN;TIKEUT;RIEUL;MIEUM;PIEUP;SIOS;IEUNG;CIEUC;CHIEUCH;",
    "KHIEUKH;THIEUTH;PHIEUPH;HIEUH;KIYEOK A;NIEUN A;TIKEUT A;RIEUL A;MIEUM A;PIEUP A;SIOS A;",
    "IEUNG A;CIEUC A;CHIEUCH A;KHIEUKH A;THIEUTH A;PHIEUPH A;HIEUH A;CIEUC U];KOREAN CHARACTER ",
    "[OJEON;O HU];=;IDEOGRAPH [ONE;TWO;THREE;FOUR;FIVE;SIX;SEVEN;EIGHT;NINE;TEN;MOON;FIRE;",
    "WATER;WOOD;METAL;EARTH;SUN;STOCK;HAVE;SOCIETY;NAME;SPECIAL;FINANCIAL;CONGRATULATION;LABOR;",
    "REPRESENT;CALL;STUDY;SUPERVISE;ENTERPRISE;RESOURCE;ALLIANCE;FESTIVAL;REST;SELF;REACH]];",
    "CIRCLED [IDEOGRAPH [QUESTION;KINDERGARTEN;SCHOOL;KOTO];NUMBER [TEN ON BLACK SQUARE;TWENTY ",
    "ON BLACK SQUARE;THIRTY ON BLACK SQUARE;FORTY ON BLACK SQUARE;FIFTY ON BLACK SQUARE;SIXTY ",
    "ON BLACK SQUARE;SEVENTY ON BLACK SQUARE;EIGHTY ON BLACK SQUARE]];PARTNERSHIP SIGN;CIRCLED ",
    "[NUMBER TWENTY [ONE;TWO;THREE;FOUR;FIVE;SIX;SEVEN;EIGHT;NINE];NUMBER [THIRTY;THIRTY [ONE;",
    "TWO;THREE;FOUR;FIVE]];HANGUL [KIYEOK;NIEUN;TIKEUT;RIEUL;MIEUM;PIEUP;SIOS;IEUNG;CIEUC;",
    "CHIEUCH;KHIEUKH;THIEUTH;PHIEUPH;HIEUH;KIYEOK A;NIEUN A;TIKEUT A;RIEUL A;MIEUM A;PIEUP A;",
    "SIOS A;IEUNG A;CIEUC A;CHIEUCH A;KHIEUKH A;THIEUTH A;PHIEUPH A;HIEUH A];KOREAN CHARACTER [",
    "CHAMKO;JUEUI];HANGUL IEUNG U];KOREAN STANDARD SYMBOL;CIRCLED IDEOGRAPH [ONE;TWO;THREE;",
    "FOUR;FIVE;SIX;SEVEN;EIGHT;NINE;TEN;MOON;FIRE;WATER;WOOD;METAL;EARTH;SUN;STOCK;HAVE;",
    "SOCIETY;NAME;SPECIAL;FINANCIAL;CONGRATULATION;LABOR;SECRET;MALE;FEMALE;SUITABLE;EXCELLENT;",
    "PRINT;ATTENTION;ITEM;REST;COPY;CORRECT;HIGH;CENTRE;LOW;LEFT;RIGHT;MEDICINE;RELIGION;STUDY;",
    "SUPERVISE;ENTERPRISE;RESOURCE;ALLIANCE;NIGHT];CIRCLED NUMBER [THIRTY [SIX;SEVEN;EIGHT;",
    "NINE];FORTY;FORTY [ONE;TWO;THREE;FOUR;FIVE;SIX;SEVEN;EIGHT;NINE];FIFTY];IDEOGRAPHIC ",
    "TELEGRAPH SYMBOL FOR [JANUARY;FEBRUARY;MARCH;APRIL;MAY;JUNE;JULY;AUGUST;SEPTEMBER;OCTOBER;",
    "NOVEMBER;DECEMBER];SQUARE [HG;ERG;EV];LIMITED LIABILITY SIGN;CIRCLED KATAKANA [A;I;U;E;O;",
    "KA;KI;KU;KE;KO;SA;SI;SU;SE;SO;TA;TI;TU;TE;TO;NA;NI;NU;NE;NO;HA;HI;HU;HE;HO;MA;MI;MU;ME;MO;",
    "YA;YU;YO;RA;RI;RU;RE;RO;WA;WI;WE;WO];SQUARE [ERA NAME REIWA;APAATO;ARUHUA;ANPEA;AARU;",
    "ININGU;INTI;UON;ESUKUUDO;EEKAA;ONSU;OOMU;KAIRI;KARATTO;KARORII;GARON;GANMA;GIGA;GINII;",
    "KYURII;GIRUDAA;KIRO;KIROGURAMU;KIROMEETORU;KIROWATTO;GURAMU;GURAMUTON;KURUZEIRO;KUROONE;",
    "KEESU;KORUNA;KOOPO;SAIKURU;SANTIIMU;SIRINGU;SENTI;SENTO;DAASU;DESI;DORU;TON;NANO;NOTTO;",
    "HAITU;PAASENTO;PAATU;BAARERU;PIASUTORU;PIKURU;PIKO;BIRU;HUARADDO;HUIITO;BUSSYERU;HURAN;",
    "HEKUTAARU;PESO;PENIHI;HERUTU;PENSU;PEEZI;BEETA;POINTO;BORUTO;HON;PONDO;HOORU;HOON;MAIKURO;",
    "MAIRU;MAHHA;MARUKU;MANSYON;MIKURON;MIRI;MIRIBAARU;MEGA;MEGATON;MEETORU;YAADO;YAARU;YUAN;",
    "RITTORU;RIRA;RUPII;RUUBURU;REMU;RENTOGEN;WATTO];IDEOGRAPHIC TELEGRAPH SYMBOL FOR HOUR [",
    "ZERO;ONE;TWO;THREE;FOUR;FIVE;SIX;SEVEN;EIGHT;NINE;TEN;ELEVEN;TWELVE;THIRTEEN;FOURTEEN;",
    "FIFTEEN;SIXTEEN;SEVENTEEN;EIGHTEEN;NINETEEN;TWENTY;TWENTY-[ONE;TWO;THREE;FOUR]];SQUARE [",
    "HPA;DA;AU;BAR;OV;PC;DM;DM [SQUARED;CUBED];IU;ERA NAME [HEISEI;SYOUWA;TAISYOU;MEIZI];",
    "CORPORATION;PA AMPS;NA;MU A;MA;KA;KB;MB;GB;CAL;KCAL;PF;NF;MU [F;G];MG;KG;HZ;KHZ;MHZ;GHZ;",
    "THZ;MU L;ML;DL;KL;FM;NM;MU M;MM;CM;KM;MM SQUARED;CM SQUARED;M SQUARED;KM SQUARED;MM CUBED;",
    "CM CUBED;M CUBED;KM CUBED;M OVER [S;S SQUARED];PA;KPA;MPA;GPA;RAD;RAD OVER [S;S SQUARED];",
    "PS;NS;MU S;MS;PV;NV;MU V;MV;KV;MV MEGA;PW;NW;MU W;MW;KW;MW MEGA;K OHM;M OHM;AM;BQ;CC;CD;C ",
    "OVER KG;CO;DB;GY;HA;HP;IN;KK;KM CAPITAL;KT;LM;LN;LOG;LX;MB SMALL;MIL;MOL;PH;PM;PPM;PR;SR;",
    "SV;WB;V OVER M;A OVER M];IDEOGRAPHIC TELEGRAPH SYMBOL FOR DAY [ONE;TWO;THREE;FOUR;FIVE;",
    "SIX;SEVEN;EIGHT;NINE;TEN;ELEVEN;TWELVE;THIRTEEN;FOURTEEN;FIFTEEN;SIXTEEN;SEVENTEEN;",
    "EIGHTEEN;NINETEEN;TWENTY;TWENTY-[ONE;TWO;THREE;FOUR;FIVE;SIX;SEVEN;EIGHT;NINE];THIRTY;",
    "THIRTY-ONE];SQUARE GAL"]),
  (0x4dc0, ["HEXAGRAM FOR [THE [CREATIVE HEAVEN;RECEPTIVE EARTH];DIFFICULTY AT THE BEGINNING;",
    "YOUTHFUL FOLLY;WAITING;CONFLICT;THE ARMY;HOLDING TOGETHER;SMALL TAMING;TREADING;PEACE;",
    "STANDSTILL;FELLOWSHIP;GREAT POSSESSION;MODESTY;ENTHUSIASM;FOLLOWING;WORK ON THE DECAYED;",
    "APPROACH;CONTEMPLATION;BITING THROUGH;GRACE;SPLITTING APART;RETURN;INNOCENCE;GREAT TAMING;",
    "MOUTH CORNERS;GREAT PREPONDERANCE;THE [ABYSMAL WATER;CLINGING FIRE];INFLUENCE;DURATION;",
    "RETREAT;GREAT POWER;PROGRESS;DARKENING OF THE LIGHT;THE FAMILY;OPPOSITION;OBSTRUCTION;",
    "DELIVERANCE;DECREASE;INCREASE;BREAKTHROUGH;COMING TO MEET;GATHERING TOGETHER;PUSHING ",
    "UPWARD;OPPRESSION;THE WELL;REVOLUTION;THE [CAULDRON;AROUSING THUNDER;KEEPING STILL ",
    "MOUNTAIN];DEVELOPMENT;THE MARRYING MAIDEN;ABUNDANCE;THE [WANDERER;GENTLE WIND;JOYOUS ",
    "LAKE];DISPERSION;LIMITATION;INNER TRUTH;SMALL PREPONDERANCE;AFTER COMPLETION;BEFORE ",
    "COMPLETION]"]),
  (0xa000, ["YI SYLLABLE [IT;IX;I;IP;IET;IEX;IE;IEP;AT;AX;A;AP;UOX;UO;UOP;OT;OX;O;OP;EX;E;WU;",
    "BIT;BIX;BI;BIP;BIET;BIEX;BIE;BIEP;BAT;BAX;BA;BAP;BUOX;BUO;BUOP;BOT;BOX;BO;BOP;BEX;BE;BEP;",
    "BUT;BUX;BU;BUP;BURX;BUR;BYT;BYX;BY;BYP;BYRX;BYR;PIT;PIX;PI;PIP;PIEX;PIE;PIEP;PAT;PAX;PA;",
    "PAP;PUOX;PUO;PUOP;POT;POX;PO;POP;PUT;PUX;PU;PUP;PURX;PUR;PYT;PYX;PY;PYP;PYRX;PYR;BBIT;",
    "BBIX;BBI;BBIP;BBIET;BBIEX;BBIE;BBIEP;BBAT;BBAX;BBA;BBAP;BBUOX;BBUO;BBUOP;BBOT;BBOX;BBO;",
    "BBOP;BBEX;BBE;BBEP;BBUT;BBUX;BBU;BBUP;BBURX;BBUR;BBYT;BBYX;BBY;BBYP;NBIT;NBIX;NBI;NBIP;",
    "NBIEX;NBIE;NBIEP;NBAT;NBAX;NBA;NBAP;NBOT;NBOX;NBO;NBOP;NBUT;NBUX;NBU;NBUP;NBURX;NBUR;NBYT;",
    "NBYX;NBY;NBYP;NBYRX;NBYR;HMIT;HMIX;HMI;HMIP;HMIEX;HMIE;HMIEP;HMAT;HMAX;HMA;HMAP;HMUOX;",
    "HMUO;HMUOP;HMOT;HMOX;HMO;HMOP;HMUT;HMUX;HMU;HMUP;HMURX;HMUR;HMYX;HMY;HMYP;HMYRX;HMYR;MIT;",
    "MIX;MI;MIP;MIEX;MIE;MIEP;MAT;MAX;MA;MAP;MUOT;MUOX;MUO;MUOP;MOT;MOX;MO;MOP;MEX;ME;MUT;MUX;",
    "MU;MUP;MURX;MUR;MYT;MYX;MY;MYP;FIT;FIX;FI;FIP;FAT;FAX;FA;FAP;FOX;FO;FOP;FUT;FUX;FU;FUP;",
    "FURX;FUR;FYT;FYX;FY;FYP;VIT;VIX;VI;VIP;VIET;VIEX;VIE;VIEP;VAT;VAX;VA;VAP;VOT;VOX;VO;VOP;",
    "VEX;VEP;VUT;VUX;VU;VUP;VURX;VUR;VYT;VYX;VY;VYP;VYRX;VYR;DIT;DIX;DI;DIP;DIEX;DIE;DIEP;DAT;",
    "DAX;DA;DAP;DUOX;DUO;DOT;DOX;DO;DOP;DEX;DE;DEP;DUT;DUX;DU;DUP;DURX;DUR;TIT;TIX;TI;TIP;TIEX;",
    "TIE;TIEP;TAT;TAX;TA;TAP;TUOT;TUOX;TUO;TUOP;TOT;TOX;TO;TOP;TEX;TE;TEP;TUT;TUX;TU;TUP;TURX;",
    "TUR;DDIT;DDIX;DDI;DDIP;DDIEX;DDIE;DDIEP;DDAT;DDAX;DDA;DDAP;DDUOX;DDUO;DDUOP;DDOT;DDOX;DDO;",
    "DDOP;DDEX;DDE;DDEP;DDUT;DDUX;DDU;DDUP;DDURX;DDUR;NDIT;NDIX;NDI;NDIP;NDIEX;NDIE;NDAT;NDAX;",
    "NDA;NDAP;NDOT;NDOX;NDO;NDOP;NDEX;NDE;NDEP;NDUT;NDUX;NDU;NDUP;NDURX;NDUR;HNIT;HNIX;HNI;",
    "HNIP;HNIET;HNIEX;HNIE;HNIEP;HNAT;HNAX;HNA;HNAP;HNUOX;HNUO;HNOT;HNOX;HNOP;HNEX;HNE;HNEP;",
    "HNUT;NIT;NIX;NI;NIP;NIEX;NIE;NIEP;NAX;NA;NAP;NUOX;NUO;NUOP;NOT;NOX;NO;NOP;NEX;NE;NEP;NUT;",
    "NUX;NU;NUP;NURX;NUR;HLIT;HLIX;HLI;HLIP;HLIEX;HLIE;HLIEP;HLAT;HLAX;HLA;HLAP;HLUOX;HLUO;",
    "HLUOP;HLOX;HLO;HLOP;HLEX;HLE;HLEP;HLUT;HLUX;HLU;HLUP;HLURX;HLUR;HLYT;HLYX;HLY;HLYP;HLYRX;",
    "HLYR;LIT;LIX;LI;LIP;LIET;LIEX;LIE;LIEP;LAT;LAX;LA;LAP;LUOT;LUOX;LUO;LUOP;LOT;LOX;LO;LOP;",
    "LEX;LE;LEP;LUT;LUX;LU;LUP;LURX;LUR;LYT;LYX;LY;LYP;LYRX;LYR;GIT;GIX;GI;GIP;GIET;GIEX;GIE;",
    "GIEP;GAT;GAX;GA;GAP;GUOT;GUOX;GUO;GUOP;GOT;GOX;GO;GOP;GET;GEX;GE;GEP;GUT;GUX;GU;GUP;GURX;",
    "GUR;KIT;KIX;KI;KIP;KIEX;KIE;KIEP;KAT;KAX;KA;KAP;KUOX;KUO;KUOP;KOT;KOX;KO;KOP;KET;KEX;KE;",
    "KEP;KUT;KUX;KU;KUP;KURX;KUR;GGIT;GGIX;GGI;GGIEX;GGIE;GGIEP;GGAT;GGAX;GGA;GGAP;GGUOT;GGUOX;",
    "GGUO;GGUOP;GGOT;GGOX;GGO;GGOP;GGET;GGEX;GGE;GGEP;GGUT;GGUX;GGU;GGUP;GGURX;GGUR;MGIEX;MGIE;",
    "MGAT;MGAX;MGA;MGAP;MGUOX;MGUO;MGUOP;MGOT;MGOX;MGO;MGOP;MGEX;MGE;MGEP;MGUT;MGUX;MGU;MGUP;",
    "MGURX;MGUR;HXIT;HXIX;HXI;HXIP;HXIET;HXIEX;HXIE;HXIEP;HXAT;HXAX;HXA;HXAP;HXUOT;HXUOX;HXUO;",
    "HXUOP;HXOT;HXOX;HXO;HXOP;HXEX;HXE;HXEP;NGIEX;NGIE;NGIEP;NGAT;NGAX;NGA;NGAP;NGUOT;NGUOX;",
    "NGUO;NGOT;NGOX;NGO;NGOP;NGEX;NGE;NGEP;HIT;HIEX;HIE;HAT;HAX;HA;HAP;HUOT;HUOX;HUO;HUOP;HOT;",
    "HOX;HO;HOP;HEX;HE;HEP;WAT;WAX;WA;WAP;WUOX;WUO;WUOP;WOX;WO;WOP;WEX;WE;WEP;ZIT;ZIX;ZI;ZIP;",
    "ZIEX;ZIE;ZIEP;ZAT;ZAX;ZA;ZAP;ZUOX;ZUO;ZUOP;ZOT;ZOX;ZO;ZOP;ZEX;ZE;ZEP;ZUT;ZUX;ZU;ZUP;ZURX;",
    "ZUR;ZYT;ZYX;ZY;ZYP;ZYRX;ZYR;CIT;CIX;CI;CIP;CIET;CIEX;CIE;CIEP;CAT;CAX;CA;CAP;CUOX;CUO;",
    "CUOP;COT;COX;CO;COP;CEX;CE;CEP;CUT;CUX;CU;CUP;CURX;CUR;CYT;CYX;CY;CYP;CYRX;CYR;ZZIT;ZZIX;",
    "ZZI;ZZIP;ZZIET;ZZIEX;ZZIE;ZZIEP;ZZAT;ZZAX;ZZA;ZZAP;ZZOX;ZZO;ZZOP;ZZEX;ZZE;ZZEP;ZZUX;ZZU;",
    "ZZUP;ZZURX;ZZUR;ZZYT;ZZYX;ZZY;ZZYP;ZZYRX;ZZYR;NZIT;NZIX;NZI;NZIP;NZIEX;NZIE;NZIEP;NZAT;",
    "NZAX;NZA;NZAP;NZUOX;NZUO;NZOX;NZOP;NZEX;NZE;NZUX;NZU;NZUP;NZURX;NZUR;NZYT;NZYX;NZY;NZYP;",
    "NZYRX;NZYR;SIT;SIX;SI;SIP;SIEX;SIE;SIEP;SAT;SAX;SA;SAP;SUOX;SUO;SUOP;SOT;SOX;SO;SOP;SEX;",
    "SE;SEP;SUT;SUX;SU;SUP;SURX;SUR;SYT;SYX;SY;SYP;SYRX;SYR;SSIT;SSIX;SSI;SSIP;SSIEX;SSIE;",
    "SSIEP;SSAT;SSAX;SSA;SSAP;SSOT;SSOX;SSO;SSOP;SSEX;SSE;SSEP;SSUT;SSUX;SSU;SSUP;SSYT;SSYX;",
    "SSY;SSYP;SSYRX;SSYR;ZHAT;ZHAX;ZHA;ZHAP;ZHUOX;ZHUO;ZHUOP;ZHOT;ZHOX;ZHO;ZHOP;ZHET;ZHEX;ZHE;",
    "ZHEP;ZHUT;ZHUX;ZHU;ZHUP;ZHURX;ZHUR;ZHYT;ZHYX;ZHY;ZHYP;ZHYRX;ZHYR;CHAT;CHAX;CHA;CHAP;CHUOT;",
    "CHUOX;CHUO;CHUOP;CHOT;CHOX;CHO;CHOP;CHET;CHEX;CHE;CHEP;CHUX;CHU;CHUP;CHURX;CHUR;CHYT;CHYX;",
    "CHY;CHYP;CHYRX;CHYR;RRAX;RRA;RRUOX;RRUO;RROT;RROX;RRO;RROP;RRET;RREX;RRE;RREP;RRUT;RRUX;",
    "RRU;RRUP;RRURX;RRUR;RRYT;RRYX;RRY;RRYP;RRYRX;RRYR;NRAT;NRAX;NRA;NRAP;NROX;NRO;NROP;NRET;",
    "NREX;NRE;NREP;NRUT;NRUX;NRU;NRUP;NRURX;NRUR;NRYT;NRYX;NRY;NRYP;NRYRX;NRYR;SHAT;SHAX;SHA;",
    "SHAP;SHUOX;SHUO;SHUOP;SHOT;SHOX;SHO;SHOP;SHET;SHEX;SHE;SHEP;SHUT;SHUX;SHU;SHUP;SHURX;SHUR;",
    "SHYT;SHYX;SHY;SHYP;SHYRX;SHYR;RAT;RAX;RA;RAP;RUOX;RUO;RUOP;ROT;ROX;RO;ROP;REX;RE;REP;RUT;",
    "RUX;RU;RUP;RURX;RUR;RYT;RYX;RY;RYP;RYRX;RYR;JIT;JIX;JI;JIP;JIET;JIEX;JIE;JIEP;JUOT;JUOX;",
    "JUO;JUOP;JOT;JOX;JO;JOP;JUT;JUX;JU;JUP;JURX;JUR;JYT;JYX;JY;JYP;JYRX;JYR;QIT;QIX;QI;QIP;",
    "QIET;QIEX;QIE;QIEP;QUOT;QUOX;QUO;QUOP;QOT;QOX;QO;QOP;QUT;QUX;QU;QUP;QURX;QUR;QYT;QYX;QY;",
    "QYP;QYRX;QYR;JJIT;JJIX;JJI;JJIP;JJIET;JJIEX;JJIE;JJIEP;JJUOX;JJUO;JJUOP;JJOT;JJOX;JJO;",
    "JJOP;JJUT;JJUX;JJU;JJUP;JJURX;JJUR;JJYT;JJYX;JJY;JJYP;NJIT;NJIX;NJI;NJIP;NJIET;NJIEX;NJIE;",
    "NJIEP;NJUOX;NJUO;NJOT;NJOX;NJO;NJOP;NJUX;NJU;NJUP;NJURX;NJUR;NJYT;NJYX;NJY;NJYP;NJYRX;",
    "NJYR;NYIT;NYIX;NYI;NYIP;NYIET;NYIEX;NYIE;NYIEP;NYUOX;NYUO;NYUOP;NYOT;NYOX;NYO;NYOP;NYUT;",
    "NYUX;NYU;NYUP;XIT;XIX;XI;XIP;XIET;XIEX;XIE;XIEP;XUOX;XUO;XOT;XOX;XO;XOP;XYT;XYX;XY;XYP;",
    "XYRX;XYR;YIT;YIX;YI;YIP;YIET;YIEX;YIE;YIEP;YUOT;YUOX;YUO;YUOP;YOT;YOX;YO;YOP;YUT;YUX;YU;",
    "YUP;YURX;YUR;YYT;YYX;YY;YYP;YYRX;YYR];=;=;=;YI RADICAL [QOT;LI;KIT;NYIP;CYP;SSI;GGOP;GEP;",
    "MI;HXIT;LYR;BBUT;MOP;YO;PUT;HXUO;TAT;GA;ZUP;CYT;DDUR;BUR;GGUO;NYOP;TU;OP;JJUT;ZOT;PYT;HMO;",
    "YIT;VUR;SHY;VEP;ZA;JO;NZUP;JJY;GOT;JJIE;WO;DU;SHUR;LIE;CY;CUOP;CIP;HXOP;SHAT;ZUR;SHOP;CHE;",
    "ZZIET;NBIE;KE]"]),
  (0xa4d0, ["LISU LETTER [BA;PA;PHA;DA;TA;THA;GA;KA;KHA;JA;CA;CHA;DZA;TSA;TSHA;MA;NA;LA;SA;ZHA;",
    "ZA;NGA;HA;XA;HHA;FA;WA;SHA;YA;GHA;A;AE;E;EU;I;O;U;UE;UH;OE;TONE [MYA TI;NA PO;MYA [CYA;BO;",
    "NA;JEU]]];LISU PUNCTUATION [COMMA;FULL STOP];VAI SYLLABLE [EE;EEN;HEE;WEE;WEEN;PEE;BHEE;",
    "BEE;MBEE;KPEE;MGBEE;GBEE;FEE;VEE;TEE;THEE;DHEE;DHHEE;LEE;REE;DEE;NDEE;SEE;SHEE;ZEE;ZHEE;",
    "CEE;JEE;NJEE;YEE;KEE;NGGEE;GEE;MEE;NEE;NYEE;I;IN;HI;HIN;WI;WIN;PI;BHI;BI;MBI;KPI;MGBI;GBI;",
    "FI;VI;TI;THI;DHI;DHHI;LI;RI;DI;NDI;SI;SHI;ZI;ZHI;CI;JI;NJI;YI;KI;NGGI;GI;MI;NI;NYI;A;AN;",
    "NGAN;HA;HAN;WA;WAN;PA;BHA;BA;MBA;KPA;KPAN;MGBA;GBA;FA;VA;TA;THA;DHA;DHHA;LA;RA;DA;NDA;SA;",
    "SHA;ZA;ZHA;CA;JA;NJA;YA;KA;KAN;NGGA;GA;MA;NA;NYA;OO;OON;HOO;WOO;WOON;POO;BHOO;BOO;MBOO;",
    "KPOO;MGBOO;GBOO;FOO;VOO;TOO;THOO;DHOO;DHHOO;LOO;ROO;DOO;NDOO;SOO;SHOO;ZOO;ZHOO;COO;JOO;",
    "NJOO;YOO;KOO;NGGOO;GOO;MOO;NOO;NYOO;U;UN;HU;HUN;WU;WUN;PU;BHU;BU;MBU;KPU;MGBU;GBU;FU;VU;",
    "TU;THU;DHU;DHHU;LU;RU;DU;NDU;SU;SHU;ZU;ZHU;CU;JU;NJU;YU;KU;NGGU;GU;MU;NU;NYU;O;ON;NGON;HO;",
    "HON;WO;WON;PO;BHO;BO;MBO;KPO;MGBO;GBO;GBON;FO;VO;TO;THO;DHO;DHHO;LO;RO;DO;NDO;SO;SHO;ZO;",
    "ZHO;CO;JO;NJO;YO;KO;NGGO;GO;MO;NO;NYO;E;EN;NGEN;HE;HEN;WE;WEN;PE;BHE;BE;MBE;KPE;KPEN;MGBE;",
    "GBE;GBEN;FE;VE;TE;THE;DHE;DHHE;LE;RE;DE;NDE;SE;SHE;ZE;ZHE;CE;JE;NJE;YE;KE;NGGE;NGGEN;GE;",
    "GEN;ME;NE;NYE;NG;LENGTHENER];VAI [COMMA;FULL STOP;QUESTION MARK;SYLLABLE NDOLE [FA;KA;",
    "SOO];SYMBOL [FEENG;KEENG;TING;NII;BANG;FAA;TAA;DANG;DOONG;KUNG;TONG;DO-O;JONG];DIGIT [",
    "ZERO;ONE;TWO;THREE;FOUR;FIVE;SIX;SEVEN;EIGHT;NINE];SYLLABLE NDOLE [MA;DO]]"]),
  (0xa640, ["CYRILLIC [CAPITAL LETTER ZEMLYA;SMALL LETTER ZEMLYA;CAPITAL LETTER DZELO;SMALL ",
    "LETTER DZELO;CAPITAL LETTER REVERSED DZE;SMALL LETTER REVERSED DZE;CAPITAL LETTER IOTA;",
    "SMALL LETTER IOTA;CAPITAL LETTER DJERV;SMALL LETTER DJERV;CAPITAL LETTER MONOGRAPH UK;",
    "SMALL LETTER MONOGRAPH UK;CAPITAL LETTER BROAD OMEGA;SMALL LETTER BROAD OMEGA;CAPITAL ",
    "LETTER NEUTRAL YER;SMALL LETTER NEUTRAL YER;CAPITAL LETTER YERU WITH BACK YER;SMALL ",
    "LETTER YERU WITH BACK YER;CAPITAL LETTER IOTIFIED YAT;SMALL LETTER IOTIFIED YAT;CAPITAL ",
    "LETTER REVERSED YU;SMALL LETTER REVERSED YU;CAPITAL LETTER IOTIFIED A;SMALL LETTER ",
    "IOTIFIED A;CAPITAL LETTER CLOSED LITTLE YUS;SMALL LETTER CLOSED LITTLE YUS;CAPITAL LETTER ",
    "BLENDED YUS;SMALL LETTER BLENDED YUS;CAPITAL LETTER IOTIFIED CLOSED LITTLE YUS;SMALL ",
    "LETTER IOTIFIED CLOSED LITTLE YUS;CAPITAL LETTER YN;SMALL LETTER YN;CAPITAL LETTER ",
    "REVERSED TSE;SMALL LETTER REVERSED TSE;CAPITAL LETTER SOFT DE;SMALL LETTER SOFT DE;",
    "CAPITAL LETTER SOFT EL;SMALL LETTER SOFT EL;CAPITAL LETTER SOFT EM;SMALL LETTER SOFT EM;",
    "CAPITAL LETTER MONOCULAR O;SMALL LETTER MONOCULAR O;CAPITAL LETTER BINOCULAR O;SMALL ",
    "LETTER BINOCULAR O;CAPITAL LETTER DOUBLE MONOCULAR O;SMALL LETTER DOUBLE MONOCULAR O;",
    "LETTER MULTIOCULAR O];COMBINING CYRILLIC [VZMET;TEN MILLIONS SIGN;HUNDRED MILLIONS SIGN;",
    "THOUSAND MILLIONS SIGN];SLAVONIC ASTERISK;COMBINING CYRILLIC LETTER [UKRAINIAN IE;I;YI;U;",
    "HARD SIGN;YERU;SOFT SIGN;OMEGA];COMBINING CYRILLIC [KAVYKA;PAYEROK];CYRILLIC [KAVYKA;",
    "PAYEROK;CAPITAL LETTER DWE;SMALL LETTER DWE;CAPITAL LETTER DZWE;SMALL LETTER DZWE;CAPITAL ",
    "LETTER ZHWE;SMALL LETTER ZHWE;CAPITAL LETTER CCHE;SMALL LETTER CCHE;CAPITAL LETTER DZZE;",
    "SMALL LETTER DZZE;CAPITAL LETTER TE WITH MIDDLE HOOK;SMALL LETTER TE WITH MIDDLE HOOK;",
    "CAPITAL LETTER TWE;SMALL LETTER TWE;CAPITAL LETTER TSWE;SMALL LETTER TSWE;CAPITAL LETTER ",
    "TSSE;SMALL LETTER TSSE;CAPITAL LETTER TCHE;SMALL LETTER TCHE;CAPITAL LETTER HWE;SMALL ",
    "LETTER HWE;CAPITAL LETTER SHWE;SMALL LETTER SHWE;CAPITAL LETTER DOUBLE O;SMALL LETTER ",
    "DOUBLE O;CAPITAL LETTER CROSSED O;SMALL LETTER CROSSED O];MODIFIER LETTER CYRILLIC [HARD ",
    "SIGN;SOFT SIGN];COMBINING CYRILLIC LETTER [EF;IOTIFIED E];BAMUM LETTER [A;KA;U;KU;EE;REE;",
    "TAE;O;NYI;I;LA;PA;RII;RIEE;LEEEE;MEEEE;TAA;NDAA;NJAEM;M;SUU;MU;SHII;SI;SHEUX;SEUX;KYEE;",
    "KET;NUAE;NU;NJUAE;YOQ;SHU;YUQ;YA;NSHA;KEUX;PEUX;NJEE;NTEE;PUE;WUE;PEE;FEE;RU;LU;MI;NI;",
    "REUX;RAE;KEN;NGKWAEN;NGGA;NGA;SHO;PUAE;FU;FOM;WA;NA;LI;PI;LOQ;KO;MBEN;REN;MEN;MA;TI;KI;MO;",
    "MBAA;TET;KPA;TEN;NTUU;SAMBA;FAAMAE;KOVUU;KOGHOM];BAMUM [COMBINING MARK [KOQNDON;",
    "TUKWENTIS];NJAEMLI;FULL STOP;COLON;COMMA;SEMICOLON;QUESTION MARK]"]),
  (0xa700, ["MODIFIER LETTER [CHINESE TONE [YIN PING;YANG PING;YIN SHANG;YANG SHANG;YIN QU;",
    "YANG QU;YIN RU;YANG RU];EXTRA-HIGH DOTTED TONE BAR;HIGH DOTTED TONE BAR;MID DOTTED TONE ",
    "BAR;LOW DOTTED TONE BAR;EXTRA-[LOW DOTTED TONE BAR;HIGH DOTTED LEFT-STEM TONE BAR];HIGH ",
    "DOTTED LEFT-STEM TONE BAR;MID DOTTED LEFT-STEM TONE BAR;LOW DOTTED LEFT-STEM TONE BAR;",
    "EXTRA-[LOW DOTTED LEFT-STEM TONE BAR;HIGH LEFT-STEM TONE BAR];HIGH LEFT-STEM TONE BAR;MID ",
    "LEFT-STEM TONE BAR;LOW LEFT-STEM TONE BAR;EXTRA-LOW LEFT-STEM TONE BAR;DOT [VERTICAL BAR;",
    "SLASH;HORIZONTAL BAR];LOWER RIGHT CORNER ANGLE;RAISED [UP ARROW;DOWN ARROW;EXCLAMATION ",
    "MARK;INVERTED EXCLAMATION MARK];LOW INVERTED EXCLAMATION MARK;STRESS AND [HIGH TONE;LOW ",
    "TONE]];LATIN [CAPITAL LETTER EGYPTOLOGICAL ALEF;SMALL LETTER EGYPTOLOGICAL ALEF;CAPITAL ",
    "LETTER EGYPTOLOGICAL AIN;SMALL LETTER EGYPTOLOGICAL AIN;CAPITAL LETTER HENG;SMALL LETTER ",
    "HENG;CAPITAL LETTER TZ;SMALL LETTER TZ;CAPITAL LETTER TRESILLO;SMALL LETTER TRESILLO;",
    "CAPITAL LETTER CUATRILLO;SMALL LETTER CUATRILLO;CAPITAL LETTER CUATRILLO WITH COMMA;SMALL ",
    "LETTER CUATRILLO WITH COMMA;LETTER SMALL CAPITAL [F;S];CAPITAL LETTER AA;SMALL LETTER AA;",
    "CAPITAL LETTER AO;SMALL LETTER AO;CAPITAL LETTER AU;SMALL LETTER AU;CAPITAL LETTER AV;",
    "SMALL LETTER AV;CAPITAL LETTER AV WITH HORIZONTAL BAR;SMALL LETTER AV WITH HORIZONTAL BAR;",
    "CAPITAL LETTER AY;SMALL LETTER AY;CAPITAL LETTER REVERSED C WITH DOT;SMALL LETTER ",
    "REVERSED C WITH DOT;CAPITAL LETTER K WITH STROKE;SMALL LETTER K WITH STROKE;CAPITAL ",
    "LETTER K WITH DIAGONAL STROKE;SMALL LETTER K WITH DIAGONAL STROKE;CAPITAL LETTER K WITH ",
    "STROKE AND DIAGONAL STROKE;SMALL LETTER K WITH STROKE AND DIAGONAL STROKE;CAPITAL LETTER ",
    "BROKEN L;SMALL LETTER BROKEN L;CAPITAL LETTER L WITH HIGH STROKE;SMALL LETTER L WITH HIGH ",
    "STROKE;CAPITAL LETTER O WITH LONG STROKE OVERLAY;SMALL LETTER O WITH LONG STROKE OVERLAY;",
    "CAPITAL LETTER O WITH LOOP;SMALL LETTER O WITH LOOP;CAPITAL LETTER OO;SMALL LETTER OO;",
    "CAPITAL LETTER P WITH STROKE THROUGH DESCENDER;SMALL LETTER P WITH STROKE THROUGH ",
    "DESCENDER;CAPITAL LETTER P WITH FLOURISH;SMALL LETTER P WITH FLOURISH;CAPITAL LETTER P ",
    "WITH SQUIRREL TAIL;SMALL LETTER P WITH SQUIRREL TAIL;CAPITAL LETTER Q WITH STROKE THROUGH ",
    "DESCENDER;SMALL LETTER Q WITH STROKE THROUGH DESCENDER;CAPITAL LETTER Q WITH DIAGONAL ",
    "STROKE;SMALL LETTER Q WITH DIAGONAL STROKE;CAPITAL LETTER R ROTUNDA;SMALL LETTER R ",
    "ROTUNDA;CAPITAL LETTER RUM ROTUNDA;SMALL LETTER RUM ROTUNDA;CAPITAL LETTER V WITH ",
    "DIAGONAL STROKE;SMALL LETTER V WITH DIAGONAL STROKE;CAPITAL LETTER VY;SMALL LETTER VY;",
    "CAPITAL LETTER VISIGOTHIC Z;SMALL LETTER VISIGOTHIC Z;CAPITAL LETTER THORN WITH STROKE;",
    "SMALL LETTER THORN WITH STROKE;CAPITAL LETTER THORN WITH STROKE THROUGH DESCENDER;SMALL ",
    "LETTER THORN WITH STROKE THROUGH DESCENDER;CAPITAL LETTER VEND;SMALL LETTER VEND;CAPITAL ",
    "LETTER ET;SMALL LETTER ET;CAPITAL LETTER IS;SMALL LETTER IS;CAPITAL LETTER CON;SMALL ",
    "LETTER CON];MODIFIER LETTER US;LATIN [SMALL LETTER [DUM;LUM;MUM;NUM;RUM];LETTER SMALL ",
    "CAPITAL RUM;SMALL LETTER [TUM;UM];CAPITAL LETTER INSULAR D;SMALL LETTER INSULAR D;CAPITAL ",
    "LETTER INSULAR F;SMALL LETTER INSULAR F;CAPITAL LETTER [INSULAR G;TURNED INSULAR G];SMALL ",
    "LETTER TURNED INSULAR G;CAPITAL LETTER TURNED L;SMALL LETTER TURNED L;CAPITAL LETTER ",
    "INSULAR R;SMALL LETTER INSULAR R;CAPITAL LETTER INSULAR S;SMALL LETTER INSULAR S;CAPITAL ",
    "LETTER INSULAR T;SMALL LETTER INSULAR T];MODIFIER LETTER [LOW CIRCUMFLEX ACCENT;COLON;",
    "SHORT EQUALS SIGN];LATIN [CAPITAL LETTER SALTILLO;SMALL LETTER SALTILLO;CAPITAL LETTER ",
    "TURNED H;SMALL LETTER L WITH RETROFLEX HOOK AND BELT;LETTER SINOLOGICAL DOT;CAPITAL ",
    "LETTER N WITH DESCENDER;SMALL LETTER N WITH DESCENDER;CAPITAL LETTER C WITH BAR;SMALL ",
    "LETTER [C WITH [BAR;PALATAL HOOK];H WITH PALATAL HOOK];CAPITAL LETTER B WITH FLOURISH;",
    "SMALL LETTER B WITH FLOURISH;CAPITAL LETTER F WITH STROKE;SMALL LETTER F WITH STROKE;",
    "CAPITAL LETTER VOLAPUK AE;SMALL LETTER VOLAPUK AE;CAPITAL LETTER VOLAPUK OE;SMALL LETTER ",
    "VOLAPUK OE;CAPITAL LETTER VOLAPUK UE;SMALL LETTER VOLAPUK UE;CAPITAL LETTER G WITH ",
    "OBLIQUE STROKE;SMALL LETTER G WITH OBLIQUE STROKE;CAPITAL LETTER K WITH OBLIQUE STROKE;",
    "SMALL LETTER K WITH OBLIQUE STROKE;CAPITAL LETTER N WITH OBLIQUE STROKE;SMALL LETTER N ",
    "WITH OBLIQUE STROKE;CAPITAL LETTER R WITH OBLIQUE STROKE;SMALL LETTER R WITH OBLIQUE ",
    "STROKE;CAPITAL LETTER S WITH OBLIQUE STROKE;SMALL LETTER S WITH OBLIQUE STROKE;CAPITAL ",
    "LETTER [H WITH HOOK;REVERSED OPEN E;SCRIPT G;L WITH BELT;SMALL CAPITAL I];LETTER SMALL ",
    "CAPITAL Q;CAPITAL LETTER [TURNED [K;T];J WITH CROSSED-TAIL;CHI;BETA];SMALL LETTER BETA;",
    "CAPITAL LETTER OMEGA;SMALL LETTER OMEGA;CAPITAL LETTER U WITH STROKE;SMALL LETTER U WITH ",
    "STROKE;CAPITAL LETTER GLOTTAL A;SMALL LETTER GLOTTAL A;CAPITAL LETTER GLOTTAL I;SMALL ",
    "LETTER GLOTTAL I;CAPITAL LETTER GLOTTAL U;SMALL LETTER GLOTTAL U;CAPITAL LETTER OLD ",
    "POLISH O;SMALL LETTER OLD POLISH O;CAPITAL LETTER ANGLICANA W;SMALL LETTER ANGLICANA W;",
    "CAPITAL LETTER [C WITH PALATAL HOOK;S WITH HOOK;Z WITH PALATAL HOOK;D WITH SHORT STROKE ",
    "OVERLAY];SMALL LETTER D WITH SHORT STROKE OVERLAY;CAPITAL LETTER S WITH SHORT STROKE ",
    "OVERLAY;SMALL LETTER S WITH SHORT STROKE OVERLAY;=;=;=;=;=;CAPITAL LETTER CLOSED INSULAR ",
    "G;SMALL LETTER [CLOSED INSULAR G;=;DOUBLE [THORN;=;WYNN]];CAPITAL LETTER MIDDLE SCOTS S;",
    "SMALL LETTER MIDDLE SCOTS S;CAPITAL LETTER SIGMOID S;SMALL LETTER SIGMOID S]"]),
  (0xa7f2, ["MODIFIER LETTER CAPITAL [C;F;Q];LATIN [CAPITAL LETTER REVERSED HALF H;SMALL ",
    "LETTER REVERSED HALF H;EPIGRAPHIC LETTER SIDEWAYS I];MODIFIER LETTER [CAPITAL H WITH ",
    "STROKE;SMALL LIGATURE OE];LATIN [LETTER SMALL CAPITAL TURNED M;EPIGRAPHIC LETTER [",
    "REVERSED [F;P];INVERTED M;I LONGA;ARCHAIC M]];SYLOTI NAGRI [LETTER [A;I];SIGN DVISVARA;",
    "LETTER [U;E;O];SIGN HASANTA;LETTER [KO;KHO;GO;GHO];SIGN ANUSVARA;LETTER [CO;CHO;JO;JHO;",
    "TTO;TTHO;DDO;DDHO;TO;THO;DO;DHO;NO;PO;PHO;BO;BHO;MO;RO;LO;RRO;SO;HO];VOWEL SIGN [A;I;U;E;",
    "OO];POETRY MARK-[1;2;3;4];SIGN ALTERNATE HASANTA];=;=;=;NORTH INDIC [FRACTION [ONE [",
    "QUARTER;HALF];THREE QUARTERS;ONE [SIXTEENTH;EIGHTH];THREE SIXTEENTHS];QUARTER MARK;",
    "PLACEHOLDER MARK;RUPEE MARK;QUANTITY MARK]"]),
  (0xa840, ["PHAGS-PA LETTER [KA;KHA;GA;NGA;CA;CHA;JA;NYA;TA;THA;DA;NA;PA;PHA;BA;MA;TSA;TSHA;",
    "DZA;WA;ZHA;ZA;SMALL A;YA;RA;LA;SHA;SA;HA;A;I;U;E;O;QA;XA;FA;GGA;EE];PHAGS-PA [SUBJOINED ",
    "LETTER [WA;YA];LETTER [TTA;TTHA;DDA;NNA;ALTERNATE YA;VOICELESS SHA;VOICED HA;ASPIRATED ",
    "FA];SUBJOINED LETTER RA;SUPERFIXED LETTER RA;LETTER CANDRABINDU;SINGLE HEAD MARK;DOUBLE ",
    "HEAD MARK;MARK [SHAD;DOUBLE SHAD]]"]),
  (0xa880, ["SAURASHTRA [SIGN [ANUSVARA;VISARGA];LETTER [A;AA;I;II;U;UU;VOCALIC [R;RR;L;LL];E;",
    "EE;AI;O;OO;AU;KA;KHA;GA;GHA;NGA;CA;CHA;JA;JHA;NYA;TTA;TTHA;DDA;DDHA;NNA;TA;THA;DA;DHA;NA;",
    "PA;PHA;BA;BHA;MA;YA;RA;LA;VA;SHA;SSA;SA;HA;LLA];CONSONANT SIGN HAARU;VOWEL SIGN [AA;I;II;",
    "U;UU;VOCALIC [R;RR;L;LL];E;EE;AI;O;OO;AU];SIGN [VIRAMA;CANDRABINDU]]"]),
  (0xa8ce, ["SAURASHTRA [DANDA;DOUBLE DANDA;DIGIT [ZERO;ONE;TWO;THREE;FOUR;FIVE;SIX;SEVEN;",
    "EIGHT;NINE]]"]),
  (0xa8e0, ["COMBINING DEVANAGARI [DIGIT [ZERO;ONE;TWO;THREE;FOUR;FIVE;SIX;SEVEN;EIGHT;NINE];",
    "LETTER [A;U;KA;NA;PA;RA;VI];SIGN AVAGRAHA];DEVANAGARI [SIGN [SPACING CANDRABINDU;",
    "CANDRABINDU VIRAMA;DOUBLE CANDRABINDU VIRAMA;CANDRABINDU [TWO;THREE;AVAGRAHA];PUSHPIKA];",
    "GAP FILLER;CARET;HEADSTROKE;SIGN SIDDHAM;JAIN OM;LETTER AY;VOWEL SIGN AY];KAYAH LI [DIGIT ",
    "[ZERO;ONE;TWO;THREE;FOUR;FIVE;SIX;SEVEN;EIGHT;NINE];LETTER [KA;KHA;GA;NGA;SA;SHA;ZA;NYA;",
    "TA;HTA;NA;PA;PHA;MA;DA;BA;RA;YA;LA;WA;THA;HA;VA;CA;A;OE;I;OO];VOWEL [UE;E;U;EE;O];TONE [",
    "PLOPHU;CALYA;CALYA PLOPHU];SIGN [CWI;SHYA]];REJANG LETTER [KA;GA;NGA;TA;DA;NA;PA;BA;MA;CA;",
    "JA;NYA;SA;RA;LA;YA;WA;HA;MBA;NGGA;NDA;NYJA;A];REJANG VOWEL SIGN [I;U;E;AI;O;AU;EU;EA];",
    "REJANG CONSONANT SIGN [NG;N;R;H];REJANG VIRAMA"]),
  (0xa95f, ["REJANG SECTION MARK;HANGUL CHOSEONG [TIKEUT-[MIEUM;PIEUP;SIOS;CIEUC];RIEUL-[",
    "KIYEOK;SSANGKIYEOK;TIKEUT;SSANGTIKEUT;MIEUM;PIEUP;SSANGPIEUP;KAPYEOUNPIEUP;SIOS;CIEUC;",
    "KHIEUKH];MIEUM-[KIYEOK;TIKEUT;SIOS];PIEUP-[SIOS-THIEUTH;KHIEUKH;HIEUH];SSANGSIOS-PIEUP;",
    "IEUNG-[RIEUL;HIEUH];SSANGCIEUC-HIEUH;SSANGTHIEUTH;PHIEUPH-HIEUH;HIEUH-SIOS;",
    "SSANGYEORINHIEUH];=;=;=;JAVANESE [SIGN [PANYANGGA;CECAK;LAYAR;WIGNYAN];LETTER [A;I KAWI;I;",
    "II;U;PA CEREK;NGA [LELET;LELET RASWADI];E;AI;O;KA;KA [SASAK;MURDA];GA;GA MURDA;NGA;CA;CA ",
    "MURDA;JA;NYA MURDA;JA MAHAPRANA;NYA;TTA;TTA MAHAPRANA;DDA;DDA MAHAPRANA;NA MURDA;TA;TA ",
    "MURDA;DA;DA MAHAPRANA;NA;PA;PA MURDA;BA;BA MURDA;MA;YA;RA;RA AGUNG;LA;WA;SA [MURDA;",
    "MAHAPRANA];SA;HA];SIGN CECAK TELU;VOWEL SIGN [TARUNG;TOLONG;WULU;WULU MELIK;SUKU;SUKU ",
    "MENDUT;TALING;DIRGA MURE;PEPET];CONSONANT SIGN [KERET;PENGKAL;CAKRA];PANGKON;LEFT ",
    "RERENGGAN;RIGHT RERENGGAN;PADA [ANDAP;MADYA;LUHUR;WINDU;PANGKAT;LINGSA;LUNGSI;ADEG;ADEG ",
    "ADEG;PISELEH];TURNED PADA PISELEH;=;PANGRANGKEP;DIGIT [ZERO;ONE;TWO;THREE;FOUR;FIVE;SIX;",
    "SEVEN;EIGHT;NINE];=;=;=;=;PADA [TIRTA TUMETES;ISEN-ISEN]];MYANMAR [LETTER SHAN [GHA;CHA;",
    "JHA;NNA;BHA];SIGN SHAN SAW;MODIFIER LETTER SHAN REDUPLICATION;LETTER TAI LAING [NYA;FA;GA;",
    "GHA;JA;JHA;DDA;DDHA;NNA];TAI LAING DIGIT [ZERO;ONE;TWO;THREE;FOUR;FIVE;SIX;SEVEN;EIGHT;",
    "NINE];LETTER TAI LAING [LLA;DA;DHA;BA;BHA]];=;CHAM LETTER [A;I;U;E;AI;O;KA;KHA;GA;GHA;",
    "NGUE;NGA;CHA;CHHA;JA;JHA;NHUE;NHA;NHJA;TA;THA;DA;DHA;NUE;NA;DDA;PA;PPA;PHA;BA;BHA;MUE;MA;",
    "BBA;YA;RA;LA;VA;SSA;SA;HA];CHAM VOWEL SIGN [AA;I;II;EI;U;OE;O;AI;AU;UE];CHAM CONSONANT ",
    "SIGN [YA;RA;LA;WA]"]),
  (0xaa40, ["CHAM [LETTER FINAL [K;G;NG];CONSONANT SIGN FINAL NG;LETTER FINAL [CH;T;N;P;Y;R;L;",
    "SS];CONSONANT SIGN FINAL [M;H];=;=;DIGIT [ZERO;ONE;TWO;THREE;FOUR;FIVE;SIX;SEVEN;EIGHT;",
    "NINE];=;=;PUNCTUATION [SPIRAL;DANDA;DOUBLE DANDA;TRIPLE DANDA]];MYANMAR LETTER KHAMTI [GA;",
    "CA;CHA;JA;JHA;NYA;TTA;TTHA;DDA;DDHA;DHA;NA;SA;HA;HHA;FA];MYANMAR [MODIFIER LETTER KHAMTI ",
    "REDUPLICATION;LETTER KHAMTI [XA;ZA;RA];LOGOGRAM KHAMTI [OAY;QN;HM];SYMBOL AITON [",
    "EXCLAMATION;ONE;TWO];LETTER AITON RA;SIGN [PAO KAREN TONE;TAI LAING TONE-[2;5]];LETTER ",
    "SHWE PALAUNG [CHA;SHA]];TAI VIET LETTER [LOW KO;HIGH KO;LOW KHO;HIGH KHO;LOW KHHO;HIGH ",
    "KHHO;LOW GO;HIGH GO;LOW NGO;HIGH NGO;LOW CO;HIGH CO;LOW CHO;HIGH CHO;LOW SO;HIGH SO;LOW ",
    "NYO;HIGH NYO;LOW DO;HIGH DO;LOW TO;HIGH TO;LOW THO;HIGH THO;LOW NO;HIGH NO;LOW BO;HIGH BO;",
    "LOW PO;HIGH PO;LOW PHO;HIGH PHO;LOW FO;HIGH FO;LOW MO;HIGH MO;LOW YO;HIGH YO;LOW RO;HIGH ",
    "RO;LOW LO;HIGH LO;LOW VO;HIGH VO;LOW HO;HIGH HO;LOW O;HIGH O];TAI VIET [MAI KANG;VOWEL [",
    "AA;I;UE;U;E;O];MAI KHIT;VOWEL [IA;UEA;UA;AUE;AY;AN;AM];TONE MAI [EK;NUENG;THO;SONG]]"]),
  (0xaadb, ["TAI VIET SYMBOL [KON;NUENG;SAM;HO HOI;KOI KOI];MEETEI MAYEK [LETTER [E;O;CHA;NYA;",
    "TTA;TTHA;DDA;DDHA;NNA;SHA;SSA];VOWEL SIGN [II;UU;AAI;AU;AAU];CHEIKHAN;AHANG KHUDAM;ANJI;",
    "SYLLABLE REPETITION MARK;WORD REPETITION MARK;VOWEL SIGN VISARGA;VIRAMA]"]),
  (0xab01, ["ETHIOPIC SYLLABLE [TTHU;TTHI;TTHAA;TTHEE;TTHE;TTHO;=;=;DDHU;DDHI;DDHAA;DDHEE;DDHE;",
    "DDHO;=;=;DZU;DZI;DZAA;DZEE;DZE;DZO]"]),
  (0xab20, ["ETHIOPIC SYLLABLE [CCHHA;CCHHU;CCHHI;CCHHAA;CCHHEE;CCHHE;CCHHO;=;BBA;BBU;BBI;BBAA;",
    "BBEE;BBE;BBO];=;LATIN SMALL LETTER [BARRED ALPHA;A REVERSED-SCHWA;BLACKLETTER E;BARRED E;",
    "E WITH FLOURISH;LENIS F;SCRIPT G WITH CROSSED-TAIL;L WITH [INVERTED LAZY S;DOUBLE MIDDLE ",
    "TILDE;MIDDLE RING];M WITH CROSSED-TAIL;N WITH CROSSED-TAIL;ENG WITH CROSSED-TAIL;",
    "BLACKLETTER [O;O WITH STROKE];OPEN O WITH STROKE;INVERTED OE;TURNED [OE WITH [STROKE;",
    "HORIZONTAL STROKE];O OPEN-[O;O WITH STROKE]];STIRRUP R];LATIN [LETTER SMALL CAPITAL R ",
    "WITH RIGHT LEG;SMALL LETTER [R WITHOUT HANDLE;DOUBLE R;R WITH CROSSED-TAIL;DOUBLE R WITH ",
    "CROSSED-TAIL;SCRIPT [R;R WITH RING];BASELINE ESH;U WITH SHORT RIGHT LEG;U BAR WITH SHORT ",
    "RIGHT LEG;UI;TURNED UI;U WITH LEFT HOOK;CHI;CHI WITH LOW [RIGHT RING;LEFT SERIF];X WITH [",
    "LOW RIGHT RING;LONG LEFT [LEG;LEG [AND LOW RIGHT RING;WITH SERIF]]];Y WITH SHORT RIGHT ",
    "LEG]];MODIFIER [BREVE WITH INVERTED BREVE;LETTER SMALL [HENG;L WITH [INVERTED LAZY S;",
    "MIDDLE TILDE];U WITH LEFT HOOK]];LATIN SMALL LETTER [SAKHA YAT;IOTIFIED E;OPEN OE;UO;",
    "INVERTED ALPHA];GREEK LETTER SMALL CAPITAL OMEGA;LATIN SMALL LETTER [DZ DIGRAPH WITH ",
    "RETROFLEX HOOK;TS DIGRAPH WITH RETROFLEX HOOK;TURNED R WITH MIDDLE TILDE];MODIFIER LETTER ",
    "[SMALL TURNED W;LEFT TACK;RIGHT TACK];=;=;=;=;CHEROKEE SMALL LETTER [A;E;I;O;U;V;GA;KA;GE;",
    "GI;GO;GU;GV;HA;HE;HI;HO;HU;HV;LA;LE;LI;LO;LU;LV;MA;ME;MI;MO;MU;NA;HNA;NAH;NE;NI;NO;NU;NV;",
    "QUA;QUE;QUI;QUO;QUU;QUV;SA;S;SE;SI;SO;SU;SV;DA;TA;DE;TE;DI;TI;DO;DU;DV;DLA;TLA;TLE;TLI;",
    "TLO;TLU;TLV;TSA;TSE;TSI;TSO;TSU;TSV;WA;WE;WI;WO;WU;WV;YA];MEETEI MAYEK [LETTER [KOK;SAM;",
    "LAI;MIT;PA;NA;CHIL;TIL;KHOU;NGOU;THOU;WAI;YANG;HUK;UN;I;PHAM;ATIYA;GOK;JHAM;RAI;BA;JIL;",
    "DIL;GHOU;DHOU;BHAM;KOK LONSUM;LAI LONSUM;MIT LONSUM;PA LONSUM;NA LONSUM;TIL LONSUM;NGOU ",
    "LONSUM;I LONSUM];VOWEL SIGN [ONAP;INAP;ANAP;YENAP;SOUNAP;UNAP;CHEINAP;NUNG];CHEIKHEI;LUM ",
    "IYEK;APUN IYEK;=;=;DIGIT [ZERO;ONE;TWO;THREE;FOUR;FIVE;SIX;SEVEN;EIGHT;NINE]]"]),
  (0xd7b0, ["HANGUL [JUNGSEONG [O-YEO;O-O-I;YO-[A;AE;EO];U-YEO;U-I-I;YU-[AE;O];EU-[A;EO;E;O];",
    "I-[YA-O;YAE;YEO;YE;O-I;YO;YU;I];ARAEA-[A;E]];=;=;=;=;JONGSEONG [NIEUN-[RIEUL;CHIEUCH];",
    "SSANGTIKEUT;SSANGTIKEUT-PIEUP;TIKEUT-[PIEUP;SIOS;SIOS-KIYEOK;CIEUC;CHIEUCH;THIEUTH];",
    "RIEUL-[SSANGKIYEOK;KIYEOK-HIEUH];SSANGRIEUL-KHIEUKH;RIEUL-[MIEUM-HIEUH;PIEUP-[TIKEUT;",
    "PHIEUPH];YESIEUNG;YEORINHIEUH-HIEUH];KAPYEOUNRIEUL;MIEUM-[NIEUN;SSANGNIEUN];SSANGMIEUM;",
    "MIEUM-[PIEUP-SIOS;CIEUC];PIEUP-[TIKEUT;RIEUL-PHIEUPH;MIEUM];SSANGPIEUP;PIEUP-[SIOS-TIKEUT;",
    "CIEUC;CHIEUCH];SIOS-[MIEUM;KAPYEOUNPIEUP];SSANGSIOS-[KIYEOK;TIKEUT];SIOS-[PANSIOS;CIEUC;",
    "CHIEUCH;THIEUTH;HIEUH];PANSIOS-[PIEUP;KAPYEOUNPIEUP];YESIEUNG-[MIEUM;HIEUH];CIEUC-[PIEUP;",
    "SSANGPIEUP];SSANGCIEUC;PHIEUPH-[SIOS;THIEUTH]]]"]),
  (0xfb00, ["LATIN SMALL LIGATURE [FF;FI;FL;FFI;FFL;LONG S T;ST]"]),
  (0xfb13, ["ARMENIAN SMALL LIGATURE [MEN [NOW;ECH;INI];VEW NOW;MEN XEH];=;=;=;=;=;HEBREW [",
    "LETTER YOD WITH HIRIQ;POINT JUDEO-SPANISH VARIKA;LIGATURE YIDDISH YOD YOD PATAH;LETTER [",
    "ALTERNATIVE AYIN;WIDE [ALEF;DALET;HE;KAF;LAMED;FINAL MEM;RESH;TAV];ALTERNATIVE PLUS SIGN;",
    "SHIN WITH [SHIN DOT;SIN DOT;DAGESH AND [SHIN DOT;SIN DOT]];ALEF WITH [PATAH;QAMATS;MAPIQ];",
    "BET WITH DAGESH;GIMEL WITH DAGESH;DALET WITH DAGESH;HE WITH MAPIQ;VAV WITH DAGESH;ZAYIN ",
    "WITH DAGESH;=;TET WITH DAGESH;YOD WITH DAGESH;FINAL KAF WITH DAGESH;KAF WITH DAGESH;LAMED ",
    "WITH DAGESH;=;MEM WITH DAGESH;=;NUN WITH DAGESH;SAMEKH WITH DAGESH;=;FINAL PE WITH DAGESH;",
    "PE WITH DAGESH;=;TSADI WITH DAGESH;QOF WITH DAGESH;RESH WITH DAGESH;SHIN WITH DAGESH;TAV ",
    "WITH DAGESH;VAV WITH HOLAM;BET WITH RAFE;KAF WITH RAFE;PE WITH RAFE];LIGATURE ALEF LAMED];",
    "ARABIC LETTER [ALEF WASLA [ISOLATED FORM;FINAL FORM];BEEH [ISOLATED FORM;FINAL FORM;",
    "INITIAL FORM;MEDIAL FORM];PEH [ISOLATED FORM;FINAL FORM;INITIAL FORM;MEDIAL FORM];BEHEH [",
    "ISOLATED FORM;FINAL FORM;INITIAL FORM;MEDIAL FORM];TTEHEH [ISOLATED FORM;FINAL FORM;",
    "INITIAL FORM;MEDIAL FORM];TEHEH [ISOLATED FORM;FINAL FORM;INITIAL FORM;MEDIAL FORM];TTEH [",
    "ISOLATED FORM;FINAL FORM;INITIAL FORM;MEDIAL FORM];VEH [ISOLATED FORM;FINAL FORM;INITIAL ",
    "FORM;MEDIAL FORM];PEHEH [ISOLATED FORM;FINAL FORM;INITIAL FORM;MEDIAL FORM];DYEH [",
    "ISOLATED FORM;FINAL FORM;INITIAL FORM;MEDIAL FORM];NYEH [ISOLATED FORM;FINAL FORM;INITIAL ",
    "FORM;MEDIAL FORM];TCHEH [ISOLATED FORM;FINAL FORM;INITIAL FORM;MEDIAL FORM];TCHEHEH [",
    "ISOLATED FORM;FINAL FORM;INITIAL FORM;MEDIAL FORM];DDAHAL [ISOLATED FORM;FINAL FORM];",
    "DAHAL [ISOLATED FORM;FINAL FORM];DUL [ISOLATED FORM;FINAL FORM];DDAL [ISOLATED FORM;FINAL ",
    "FORM];JEH [ISOLATED FORM;FINAL FORM];RREH [ISOLATED FORM;FINAL FORM];KEHEH [ISOLATED FORM;",
    "FINAL FORM;INITIAL FORM;MEDIAL FORM];GAF [ISOLATED FORM;FINAL FORM;INITIAL FORM;MEDIAL ",
    "FORM];GUEH [ISOLATED FORM;FINAL FORM;INITIAL FORM;MEDIAL FORM];NGOEH [ISOLATED FORM;FINAL ",
    "FORM;INITIAL FORM;MEDIAL FORM];NOON GHUNNA [ISOLATED FORM;FINAL FORM];RNOON [ISOLATED ",
    "FORM;FINAL FORM;INITIAL FORM;MEDIAL FORM];HEH [WITH YEH ABOVE [ISOLATED FORM;FINAL FORM];",
    "GOAL [ISOLATED FORM;FINAL FORM;INITIAL FORM;MEDIAL FORM];DOACHASHMEE [ISOLATED FORM;FINAL ",
    "FORM;INITIAL FORM;MEDIAL FORM]];YEH BARREE [ISOLATED FORM;FINAL FORM;WITH HAMZA ABOVE [",
    "ISOLATED FORM;FINAL FORM]]];ARABIC SYMBOL [DOT [ABOVE;BELOW];TWO DOTS [ABOVE;BELOW];THREE ",
    "DOTS [ABOVE;BELOW;POINTING DOWNWARDS [ABOVE;BELOW]];FOUR DOTS [ABOVE;BELOW];DOUBLE ",
    "VERTICAL BAR BELOW;TWO DOTS VERTICALLY [ABOVE;BELOW];RING;SMALL TAH [ABOVE;BELOW];WASLA ",
    "ABOVE]"]),
  (0xfbd3, ["ARABIC [LETTER [NG [ISOLATED FORM;FINAL FORM;INITIAL FORM;MEDIAL FORM];U ISOLATED ",
    "FORM;U FINAL FORM;OE [ISOLATED FORM;FINAL FORM];YU [ISOLATED FORM;FINAL FORM];U WITH ",
    "HAMZA ABOVE ISOLATED FORM;VE [ISOLATED FORM;FINAL FORM];KIRGHIZ [OE [ISOLATED FORM;FINAL ",
    "FORM];YU [ISOLATED FORM;FINAL FORM]];E [ISOLATED FORM;FINAL FORM;INITIAL FORM;MEDIAL ",
    "FORM];UIGHUR KAZAKH KIRGHIZ ALEF MAKSURA [INITIAL FORM;MEDIAL FORM]];LIGATURE YEH WITH ",
    "HAMZA ABOVE WITH [ALEF [ISOLATED FORM;FINAL FORM];AE [ISOLATED FORM;FINAL FORM];WAW [",
    "ISOLATED FORM;FINAL FORM];U ISOLATED FORM;U FINAL FORM;OE [ISOLATED FORM;FINAL FORM];YU [",
    "ISOLATED FORM;FINAL FORM];E [ISOLATED FORM;FINAL FORM;INITIAL FORM]];LIGATURE UIGHUR ",
    "KIRGHIZ YEH WITH HAMZA ABOVE WITH ALEF MAKSURA [ISOLATED FORM;FINAL FORM;INITIAL FORM];",
    "LETTER FARSI YEH [ISOLATED FORM;FINAL FORM;INITIAL FORM;MEDIAL FORM];LIGATURE [YEH WITH ",
    "HAMZA ABOVE WITH [JEEM ISOLATED FORM;HAH ISOLATED FORM;MEEM ISOLATED FORM;ALEF MAKSURA ",
    "ISOLATED FORM;YEH ISOLATED FORM];BEH WITH [JEEM ISOLATED FORM;HAH ISOLATED FORM;KHAH ",
    "ISOLATED FORM;MEEM ISOLATED FORM;ALEF MAKSURA ISOLATED FORM;YEH ISOLATED FORM];TEH WITH [",
    "JEEM ISOLATED FORM;HAH ISOLATED FORM;KHAH ISOLATED FORM;MEEM ISOLATED FORM;ALEF MAKSURA ",
    "ISOLATED FORM;YEH ISOLATED FORM];THEH WITH [JEEM ISOLATED FORM;MEEM ISOLATED FORM;ALEF ",
    "MAKSURA ISOLATED FORM;YEH ISOLATED FORM];JEEM WITH [HAH ISOLATED FORM;MEEM ISOLATED FORM];",
    "HAH WITH [JEEM ISOLATED FORM;MEEM ISOLATED FORM];KHAH WITH [JEEM ISOLATED FORM;HAH ",
    "ISOLATED FORM;MEEM ISOLATED FORM];SEEN WITH [JEEM ISOLATED FORM;HAH ISOLATED FORM;KHAH ",
    "ISOLATED FORM;MEEM ISOLATED FORM];SAD WITH [HAH ISOLATED FORM;MEEM ISOLATED FORM];DAD ",
    "WITH [JEEM ISOLATED FORM;HAH ISOLATED FORM;KHAH ISOLATED FORM;MEEM ISOLATED FORM];TAH ",
    "WITH [HAH ISOLATED FORM;MEEM ISOLATED FORM];ZAH WITH MEEM ISOLATED FORM;AIN WITH [JEEM ",
    "ISOLATED FORM;MEEM ISOLATED FORM];GHAIN WITH [JEEM ISOLATED FORM;MEEM ISOLATED FORM];FEH ",
    "WITH [JEEM ISOLATED FORM;HAH ISOLATED FORM;KHAH ISOLATED FORM;MEEM ISOLATED FORM;ALEF ",
    "MAKSURA ISOLATED FORM;YEH ISOLATED FORM];QAF WITH [HAH ISOLATED FORM;MEEM ISOLATED FORM;",
    "ALEF MAKSURA ISOLATED FORM;YEH ISOLATED FORM];KAF WITH [ALEF ISOLATED FORM;JEEM ISOLATED ",
    "FORM;HAH ISOLATED FORM;KHAH ISOLATED FORM;LAM ISOLATED FORM;MEEM ISOLATED FORM;ALEF ",
    "MAKSURA ISOLATED FORM;YEH ISOLATED FORM];LAM WITH [JEEM ISOLATED FORM;HAH ISOLATED FORM;",
    "KHAH ISOLATED FORM;MEEM ISOLATED FORM;ALEF MAKSURA ISOLATED FORM;YEH ISOLATED FORM];MEEM ",
    "WITH [JEEM ISOLATED FORM;HAH ISOLATED FORM;KHAH ISOLATED FORM;MEEM ISOLATED FORM;ALEF ",
    "MAKSURA ISOLATED FORM;YEH ISOLATED FORM];NOON WITH [JEEM ISOLATED FORM;HAH ISOLATED FORM;",
    "KHAH ISOLATED FORM;MEEM ISOLATED FORM;ALEF MAKSURA ISOLATED FORM;YEH ISOLATED FORM];HEH ",
    "WITH [JEEM ISOLATED FORM;MEEM ISOLATED FORM;ALEF MAKSURA ISOLATED FORM;YEH ISOLATED FORM];",
    "YEH WITH [JEEM ISOLATED FORM;HAH ISOLATED FORM;KHAH ISOLATED FORM;MEEM ISOLATED FORM;ALEF ",
    "MAKSURA ISOLATED FORM;YEH ISOLATED FORM];THAL WITH SUPERSCRIPT ALEF ISOLATED FORM;REH ",
    "WITH SUPERSCRIPT ALEF ISOLATED FORM;ALEF MAKSURA WITH SUPERSCRIPT ALEF ISOLATED FORM;",
    "SHADDA WITH [DAMMATAN ISOLATED FORM;KASRATAN ISOLATED FORM;FATHA ISOLATED FORM;DAMMA ",
    "ISOLATED FORM;KASRA ISOLATED FORM;SUPERSCRIPT ALEF ISOLATED FORM];YEH WITH HAMZA ABOVE ",
    "WITH [REH FINAL FORM;ZAIN FINAL FORM;MEEM FINAL FORM;NOON FINAL FORM;ALEF MAKSURA FINAL ",
    "FORM;YEH FINAL FORM];BEH WITH [REH FINAL FORM;ZAIN FINAL FORM;MEEM FINAL FORM;NOON FINAL ",
    "FORM;ALEF MAKSURA FINAL FORM;YEH FINAL FORM];TEH WITH [REH FINAL FORM;ZAIN FINAL FORM;",
    "MEEM FINAL FORM;NOON FINAL FORM;ALEF MAKSURA FINAL FORM;YEH FINAL FORM];THEH WITH [REH ",
    "FINAL FORM;ZAIN FINAL FORM;MEEM FINAL FORM;NOON FINAL FORM;ALEF MAKSURA FINAL FORM;YEH ",
    "FINAL FORM];FEH WITH [ALEF MAKSURA FINAL FORM;YEH FINAL FORM];QAF WITH [ALEF MAKSURA ",
    "FINAL FORM;YEH FINAL FORM];KAF WITH [ALEF FINAL FORM;LAM FINAL FORM;MEEM FINAL FORM;ALEF ",
    "MAKSURA FINAL FORM;YEH FINAL FORM];LAM WITH [MEEM FINAL FORM;ALEF MAKSURA FINAL FORM;YEH ",
    "FINAL FORM];MEEM WITH [ALEF FINAL FORM;MEEM FINAL FORM];NOON WITH [REH FINAL FORM;ZAIN ",
    "FINAL FORM;MEEM FINAL FORM;NOON FINAL FORM;ALEF MAKSURA FINAL FORM;YEH FINAL FORM];ALEF ",
    "MAKSURA WITH SUPERSCRIPT ALEF FINAL FORM;YEH WITH [REH FINAL FORM;ZAIN FINAL FORM;MEEM ",
    "FINAL FORM;NOON FINAL FORM;ALEF MAKSURA FINAL FORM;YEH FINAL FORM;HAMZA ABOVE WITH [JEEM ",
    "INITIAL FORM;HAH INITIAL FORM;KHAH INITIAL FORM;MEEM INITIAL FORM;HEH INITIAL FORM]];BEH ",
    "WITH [JEEM INITIAL FORM;HAH INITIAL FORM;KHAH INITIAL FORM;MEEM INITIAL FORM;HEH INITIAL ",
    "FORM];TEH WITH [JEEM INITIAL FORM;HAH INITIAL FORM;KHAH INITIAL FORM;MEEM INITIAL FORM;",
    "HEH INITIAL FORM];THEH WITH MEEM INITIAL FORM;JEEM WITH [HAH INITIAL FORM;MEEM INITIAL ",
    "FORM];HAH WITH [JEEM INITIAL FORM;MEEM INITIAL FORM];KHAH WITH [JEEM INITIAL FORM;MEEM ",
    "INITIAL FORM];SEEN WITH [JEEM INITIAL FORM;HAH INITIAL FORM;KHAH INITIAL FORM;MEEM ",
    "INITIAL FORM];SAD WITH [HAH INITIAL FORM;KHAH INITIAL FORM;MEEM INITIAL FORM];DAD WITH [",
    "JEEM INITIAL FORM;HAH INITIAL FORM;KHAH INITIAL FORM;MEEM INITIAL FORM];TAH WITH HAH ",
    "INITIAL FORM;ZAH WITH MEEM INITIAL FORM;AIN WITH [JEEM INITIAL FORM;MEEM INITIAL FORM];",
    "GHAIN WITH [JEEM INITIAL FORM;MEEM INITIAL FORM];FEH WITH [JEEM INITIAL FORM;HAH INITIAL ",
    "FORM;KHAH INITIAL FORM;MEEM INITIAL FORM];QAF WITH [HAH INITIAL FORM;MEEM INITIAL FORM];",
    "KAF WITH [JEEM INITIAL FORM;HAH INITIAL FORM;KHAH INITIAL FORM;LAM INITIAL FORM;MEEM ",
    "INITIAL FORM];LAM WITH [JEEM INITIAL FORM;HAH INITIAL FORM;KHAH INITIAL FORM;MEEM INITIAL ",
    "FORM;HEH INITIAL FORM];MEEM WITH [JEEM INITIAL FORM;HAH INITIAL FORM;KHAH INITIAL FORM;",
    "MEEM INITIAL FORM];NOON WITH [JEEM INITIAL FORM;HAH INITIAL FORM;KHAH INITIAL FORM;MEEM ",
    "INITIAL FORM;HEH INITIAL FORM];HEH WITH [JEEM INITIAL FORM;MEEM INITIAL FORM;SUPERSCRIPT ",
    "ALEF INITIAL FORM];YEH WITH [JEEM INITIAL FORM;HAH INITIAL FORM;KHAH INITIAL FORM;MEEM ",
    "INITIAL FORM;HEH INITIAL FORM;HAMZA ABOVE WITH [MEEM MEDIAL FORM;HEH MEDIAL FORM]];BEH ",
    "WITH [MEEM MEDIAL FORM;HEH MEDIAL FORM];TEH WITH [MEEM MEDIAL FORM;HEH MEDIAL FORM];THEH ",
    "WITH [MEEM MEDIAL FORM;HEH MEDIAL FORM];SEEN WITH [MEEM MEDIAL FORM;HEH MEDIAL FORM];",
    "SHEEN WITH [MEEM MEDIAL FORM;HEH MEDIAL FORM];KAF WITH [LAM MEDIAL FORM;MEEM MEDIAL FORM];",
    "LAM WITH MEEM MEDIAL FORM;NOON WITH [MEEM MEDIAL FORM;HEH MEDIAL FORM];YEH WITH [MEEM ",
    "MEDIAL FORM;HEH MEDIAL FORM];SHADDA WITH [FATHA MEDIAL FORM;DAMMA MEDIAL FORM;KASRA ",
    "MEDIAL FORM];TAH WITH [ALEF MAKSURA ISOLATED FORM;YEH ISOLATED FORM];AIN WITH [ALEF ",
    "MAKSURA ISOLATED FORM;YEH ISOLATED FORM];GHAIN WITH [ALEF MAKSURA ISOLATED FORM;YEH ",
    "ISOLATED FORM];SEEN WITH [ALEF MAKSURA ISOLATED FORM;YEH ISOLATED FORM];SHEEN WITH [ALEF ",
    "MAKSURA ISOLATED FORM;YEH ISOLATED FORM];HAH WITH [ALEF MAKSURA ISOLATED FORM;YEH ",
    "ISOLATED FORM];JEEM WITH [ALEF MAKSURA ISOLATED FORM;YEH ISOLATED FORM];KHAH WITH [ALEF ",
    "MAKSURA ISOLATED FORM;YEH ISOLATED FORM];SAD WITH [ALEF MAKSURA ISOLATED FORM;YEH ",
    "ISOLATED FORM];DAD WITH [ALEF MAKSURA ISOLATED FORM;YEH ISOLATED FORM];SHEEN WITH [JEEM ",
    "ISOLATED FORM;HAH ISOLATED FORM;KHAH ISOLATED FORM;MEEM ISOLATED FORM;REH ISOLATED FORM];",
    "SEEN WITH REH ISOLATED FORM;SAD WITH REH ISOLATED FORM;DAD WITH REH ISOLATED FORM;TAH ",
    "WITH [ALEF MAKSURA FINAL FORM;YEH FINAL FORM];AIN WITH [ALEF MAKSURA FINAL FORM;YEH FINAL ",
    "FORM];GHAIN WITH [ALEF MAKSURA FINAL FORM;YEH FINAL FORM];SEEN WITH [ALEF MAKSURA FINAL ",
    "FORM;YEH FINAL FORM];SHEEN WITH [ALEF MAKSURA FINAL FORM;YEH FINAL FORM];HAH WITH [ALEF ",
    "MAKSURA FINAL FORM;YEH FINAL FORM];JEEM WITH [ALEF MAKSURA FINAL FORM;YEH FINAL FORM];",
    "KHAH WITH [ALEF MAKSURA FINAL FORM;YEH FINAL FORM];SAD WITH [ALEF MAKSURA FINAL FORM;YEH ",
    "FINAL FORM];DAD WITH [ALEF MAKSURA FINAL FORM;YEH FINAL FORM];SHEEN WITH [JEEM FINAL FORM;",
    "HAH FINAL FORM;KHAH FINAL FORM;MEEM FINAL FORM;REH FINAL FORM];SEEN WITH REH FINAL FORM;",
    "SAD WITH REH FINAL FORM;DAD WITH REH FINAL FORM;SHEEN WITH [JEEM INITIAL FORM;HAH INITIAL ",
    "FORM;KHAH INITIAL FORM;MEEM INITIAL FORM];SEEN WITH HEH INITIAL FORM;SHEEN WITH HEH ",
    "INITIAL FORM;TAH WITH MEEM INITIAL FORM;SEEN WITH [JEEM MEDIAL FORM;HAH MEDIAL FORM;KHAH ",
    "MEDIAL FORM];SHEEN WITH [JEEM MEDIAL FORM;HAH MEDIAL FORM;KHAH MEDIAL FORM];TAH WITH MEEM ",
    "MEDIAL FORM;ZAH WITH MEEM MEDIAL FORM;ALEF WITH FATHATAN [FINAL FORM;ISOLATED FORM]]];",
    "ORNATE [LEFT PARENTHESIS;RIGHT PARENTHESIS];ARABIC LIGATURE [RAHIMAHU ALLAAH;RADI ALLAAHU ",
    "[ANH;ANHAA;ANHUM;ANHUMAA;ANHUNNA];SALLALLAAHU ALAYHI WA-AALIH;ALAYHI AS-SALAAM;ALAYHIM ",
    "AS-SALAAM;ALAYHIMAA AS-SALAAM;ALAYHI AS-SALAATU WAS-SALAAM;QUDDISA SIRRAH;SALLALLAHU ",
    "ALAYHI WAAALIHEE WA-SALLAM;ALAYHAA AS-SALAAM;TABAARAKA WA-TAAALAA;RAHIMAHUM ALLAAH;TEH ",
    "WITH [JEEM WITH MEEM INITIAL FORM;HAH WITH [JEEM [FINAL FORM;INITIAL FORM];MEEM INITIAL ",
    "FORM];KHAH WITH MEEM INITIAL FORM;MEEM WITH [JEEM INITIAL FORM;HAH INITIAL FORM;KHAH ",
    "INITIAL FORM]];JEEM WITH MEEM WITH HAH [FINAL FORM;INITIAL FORM];HAH WITH MEEM WITH [YEH ",
    "FINAL FORM;ALEF MAKSURA FINAL FORM];SEEN WITH [HAH WITH JEEM INITIAL FORM;JEEM WITH [HAH ",
    "INITIAL FORM;ALEF MAKSURA FINAL FORM];MEEM WITH [HAH [FINAL FORM;INITIAL FORM];JEEM ",
    "INITIAL FORM;MEEM [FINAL FORM;INITIAL FORM]]];SAD WITH HAH WITH HAH [FINAL FORM;INITIAL ",
    "FORM];SAD WITH MEEM WITH MEEM FINAL FORM;SHEEN WITH [HAH WITH MEEM [FINAL FORM;INITIAL ",
    "FORM];JEEM WITH YEH FINAL FORM;MEEM WITH [KHAH [FINAL FORM;INITIAL FORM];MEEM [FINAL FORM;",
    "INITIAL FORM]]];DAD WITH [HAH WITH ALEF MAKSURA FINAL FORM;KHAH WITH MEEM [FINAL FORM;",
    "INITIAL FORM]];TAH WITH MEEM WITH [HAH [FINAL FORM;INITIAL FORM];MEEM INITIAL FORM;YEH ",
    "FINAL FORM];AIN WITH [JEEM WITH MEEM FINAL FORM;MEEM WITH [MEEM [FINAL FORM;INITIAL FORM];",
    "ALEF MAKSURA FINAL FORM]];GHAIN WITH MEEM WITH [MEEM FINAL FORM;YEH FINAL FORM;ALEF ",
    "MAKSURA FINAL FORM];FEH WITH KHAH WITH MEEM [FINAL FORM;INITIAL FORM];QAF WITH MEEM WITH [",
    "HAH FINAL FORM;MEEM FINAL FORM];LAM WITH [HAH WITH [MEEM FINAL FORM;YEH FINAL FORM;ALEF ",
    "MAKSURA FINAL FORM];JEEM WITH JEEM [INITIAL FORM;FINAL FORM];KHAH WITH MEEM [FINAL FORM;",
    "INITIAL FORM];MEEM WITH HAH [FINAL FORM;INITIAL FORM]];MEEM WITH [HAH WITH [JEEM INITIAL ",
    "FORM;MEEM INITIAL FORM;YEH FINAL FORM];JEEM WITH [HAH INITIAL FORM;MEEM INITIAL FORM];",
    "KHAH WITH [JEEM INITIAL FORM;MEEM INITIAL FORM];=;=;JEEM WITH KHAH INITIAL FORM];HEH WITH ",
    "MEEM WITH [JEEM INITIAL FORM;MEEM INITIAL FORM];NOON WITH [HAH WITH [MEEM INITIAL FORM;",
    "ALEF MAKSURA FINAL FORM];JEEM WITH [MEEM [FINAL FORM;INITIAL FORM];ALEF MAKSURA FINAL ",
    "FORM];MEEM WITH [YEH FINAL FORM;ALEF MAKSURA FINAL FORM]];YEH WITH MEEM WITH MEEM [FINAL ",
    "FORM;INITIAL FORM];BEH WITH KHAH WITH YEH FINAL FORM;TEH WITH [JEEM WITH [YEH FINAL FORM;",
    "ALEF MAKSURA FINAL FORM];KHAH WITH [YEH FINAL FORM;ALEF MAKSURA FINAL FORM];MEEM WITH [",
    "YEH FINAL FORM;ALEF MAKSURA FINAL FORM]];JEEM WITH [MEEM WITH YEH FINAL FORM;HAH WITH ",
    "ALEF MAKSURA FINAL FORM;MEEM WITH ALEF MAKSURA FINAL FORM];SEEN WITH KHAH WITH ALEF ",
    "MAKSURA FINAL FORM;SAD WITH HAH WITH YEH FINAL FORM;SHEEN WITH HAH WITH YEH FINAL FORM;",
    "DAD WITH HAH WITH YEH FINAL FORM;LAM WITH [JEEM WITH YEH FINAL FORM;MEEM WITH YEH FINAL ",
    "FORM];YEH WITH [HAH WITH YEH FINAL FORM;JEEM WITH YEH FINAL FORM;MEEM WITH YEH FINAL ",
    "FORM];MEEM WITH MEEM WITH YEH FINAL FORM;QAF WITH MEEM WITH YEH FINAL FORM;NOON WITH HAH ",
    "WITH YEH FINAL FORM;QAF WITH MEEM WITH HAH INITIAL FORM;LAM WITH HAH WITH MEEM INITIAL ",
    "FORM;AIN WITH MEEM WITH YEH FINAL FORM;KAF WITH MEEM WITH YEH FINAL FORM;NOON WITH JEEM ",
    "WITH HAH INITIAL FORM;MEEM WITH KHAH WITH YEH FINAL FORM;LAM WITH JEEM WITH MEEM INITIAL ",
    "FORM;KAF WITH MEEM WITH MEEM FINAL FORM;LAM WITH JEEM WITH MEEM FINAL FORM;NOON WITH JEEM ",
    "WITH HAH FINAL FORM;JEEM WITH HAH WITH YEH FINAL FORM;HAH WITH JEEM WITH YEH FINAL FORM;",
    "MEEM WITH JEEM WITH YEH FINAL FORM;FEH WITH MEEM WITH YEH FINAL FORM;BEH WITH HAH WITH ",
    "YEH FINAL FORM;KAF WITH MEEM WITH MEEM INITIAL FORM;AIN WITH JEEM WITH MEEM INITIAL FORM;",
    "SAD WITH MEEM WITH MEEM INITIAL FORM;SEEN WITH KHAH WITH YEH FINAL FORM;NOON WITH JEEM ",
    "WITH YEH FINAL FORM]"]),
  (0xfdcf, ["ARABIC LIGATURE SALAAMUHU ALAYNAA"]),
  (0xfdf0, ["ARABIC LIGATURE [SALLA USED AS KORANIC STOP SIGN ISOLATED FORM;QALA USED AS ",
    "KORANIC STOP SIGN ISOLATED FORM;ALLAH ISOLATED FORM;AKBAR ISOLATED FORM;MOHAMMAD ISOLATED ",
    "FORM;SALAM ISOLATED FORM;RASOUL ISOLATED FORM;ALAYHE ISOLATED FORM;WASALLAM ISOLATED FORM;",
    "SALLA ISOLATED FORM;SALLALLAHOU ALAYHE WASALLAM;JALLAJALALOUHOU];RIAL SIGN;ARABIC ",
    "LIGATURE [BISMILLAH AR-RAHMAN AR-RAHEEM;SUBHAANAHU WA TAAALAA;AZZA WA JALL];VARIATION ",
    "SELECTOR-[1;2;3;4;5;6;7;8;9;10;11;12;13;14;15;16];PRESENTATION FORM FOR VERTICAL [COMMA;",
    "IDEOGRAPHIC [COMMA;FULL STOP];COLON;SEMICOLON;EXCLAMATION MARK;QUESTION MARK;LEFT WHITE ",
    "LENTICULAR BRACKET;RIGHT WHITE LENTICULAR BRAKCET;HORIZONTAL ELLIPSIS]"]),
  (0xfe20, ["COMBINING [LIGATURE [LEFT HALF;RIGHT HALF];DOUBLE TILDE [LEFT HALF;RIGHT HALF];",
    "MACRON [LEFT HALF;RIGHT HALF];CONJOINING MACRON;LIGATURE [LEFT HALF BELOW;RIGHT HALF ",
    "BELOW];TILDE [LEFT HALF BELOW;RIGHT HALF BELOW];MACRON [LEFT HALF BELOW;RIGHT HALF BELOW];",
    "CONJOINING MACRON BELOW;CYRILLIC TITLO [LEFT HALF;RIGHT HALF]];PRESENTATION FORM FOR ",
    "VERTICAL [TWO DOT LEADER;EM DASH;EN DASH;LOW LINE;WAVY LOW LINE;LEFT PARENTHESIS;RIGHT ",
    "PARENTHESIS;LEFT CURLY BRACKET;RIGHT CURLY BRACKET;LEFT TORTOISE SHELL BRACKET;RIGHT ",
    "TORTOISE SHELL BRACKET;LEFT BLACK LENTICULAR BRACKET;RIGHT BLACK LENTICULAR BRACKET;LEFT ",
    "DOUBLE ANGLE BRACKET;RIGHT DOUBLE ANGLE BRACKET;LEFT ANGLE BRACKET;RIGHT ANGLE BRACKET;",
    "LEFT CORNER BRACKET;RIGHT CORNER BRACKET;LEFT WHITE CORNER BRACKET;RIGHT WHITE CORNER ",
    "BRACKET];SESAME DOT;WHITE SESAME DOT;PRESENTATION FORM FOR VERTICAL [LEFT SQUARE BRACKET;",
    "RIGHT SQUARE BRACKET];DASHED OVERLINE;CENTRELINE OVERLINE;WAVY OVERLINE;DOUBLE WAVY ",
    "OVERLINE;DASHED LOW LINE;CENTRELINE LOW LINE;WAVY LOW LINE;SMALL [COMMA;IDEOGRAPHIC COMMA;",
    "FULL STOP;=;SEMICOLON;COLON;QUESTION MARK;EXCLAMATION MARK;EM DASH;LEFT PARENTHESIS;RIGHT ",
    "PARENTHESIS;LEFT CURLY BRACKET;RIGHT CURLY BRACKET;LEFT TORTOISE SHELL BRACKET;RIGHT ",
    "TORTOISE SHELL BRACKET;NUMBER SIGN;AMPERSAND;ASTERISK;PLUS SIGN;HYPHEN-MINUS;LESS-THAN ",
    "SIGN;GREATER-THAN SIGN;EQUALS SIGN;=;REVERSE SOLIDUS;DOLLAR SIGN;PERCENT SIGN;COMMERCIAL ",
    "AT];=;=;=;=;ARABIC [FATHATAN ISOLATED FORM;TATWEEL WITH FATHATAN ABOVE;DAMMATAN ISOLATED ",
    "FORM;TAIL FRAGMENT;KASRATAN ISOLATED FORM;=;FATHA [ISOLATED FORM;MEDIAL FORM];DAMMA [",
    "ISOLATED FORM;MEDIAL FORM];KASRA [ISOLATED FORM;MEDIAL FORM];SHADDA [ISOLATED FORM;MEDIAL ",
    "FORM];SUKUN [ISOLATED FORM;MEDIAL FORM];LETTER [HAMZA ISOLATED FORM;ALEF WITH [MADDA ",
    "ABOVE [ISOLATED FORM;FINAL FORM];HAMZA ABOVE [ISOLATED FORM;FINAL FORM]];WAW WITH HAMZA ",
    "ABOVE [ISOLATED FORM;FINAL FORM];ALEF WITH HAMZA BELOW [ISOLATED FORM;FINAL FORM];YEH ",
    "WITH HAMZA ABOVE [ISOLATED FORM;FINAL FORM;INITIAL FORM;MEDIAL FORM];ALEF [ISOLATED FORM;",
    "FINAL FORM];BEH [ISOLATED FORM;FINAL FORM;INITIAL FORM;MEDIAL FORM];TEH [MARBUTA [",
    "ISOLATED FORM;FINAL FORM];ISOLATED FORM;FINAL FORM;INITIAL FORM;MEDIAL FORM];THEH [",
    "ISOLATED FORM;FINAL FORM;INITIAL FORM;MEDIAL FORM];JEEM [ISOLATED FORM;FINAL FORM;INITIAL ",
    "FORM;MEDIAL FORM];HAH [ISOLATED FORM;FINAL FORM;INITIAL FORM;MEDIAL FORM];KHAH [ISOLATED ",
    "FORM;FINAL FORM;INITIAL FORM;MEDIAL FORM];DAL [ISOLATED FORM;FINAL FORM];THAL [ISOLATED ",
    "FORM;FINAL FORM];REH [ISOLATED FORM;FINAL FORM];ZAIN [ISOLATED FORM;FINAL FORM];SEEN [",
    "ISOLATED FORM;FINAL FORM;INITIAL FORM;MEDIAL FORM];SHEEN [ISOLATED FORM;FINAL FORM;",
    "INITIAL FORM;MEDIAL FORM];SAD [ISOLATED FORM;FINAL FORM;INITIAL FORM;MEDIAL FORM];DAD [",
    "ISOLATED FORM;FINAL FORM;INITIAL FORM;MEDIAL FORM];TAH [ISOLATED FORM;FINAL FORM;INITIAL ",
    "FORM;MEDIAL FORM];ZAH [ISOLATED FORM;FINAL FORM;INITIAL FORM;MEDIAL FORM];AIN [ISOLATED ",
    "FORM;FINAL FORM;INITIAL FORM;MEDIAL FORM];GHAIN [ISOLATED FORM;FINAL FORM;INITIAL FORM;",
    "MEDIAL FORM];FEH [ISOLATED FORM;FINAL FORM;INITIAL FORM;MEDIAL FORM];QAF [ISOLATED FORM;",
    "FINAL FORM;INITIAL FORM;MEDIAL FORM];KAF [ISOLATED FORM;FINAL FORM;INITIAL FORM;MEDIAL ",
    "FORM];LAM [ISOLATED FORM;FINAL FORM;INITIAL FORM;MEDIAL FORM];MEEM [ISOLATED FORM;FINAL ",
    "FORM;INITIAL FORM;MEDIAL FORM];NOON [ISOLATED FORM;FINAL FORM;INITIAL FORM;MEDIAL FORM];",
    "HEH [ISOLATED FORM;FINAL FORM;INITIAL FORM;MEDIAL FORM];WAW [ISOLATED FORM;FINAL FORM];",
    "ALEF MAKSURA [ISOLATED FORM;FINAL FORM];YEH [ISOLATED FORM;FINAL FORM;INITIAL FORM;MEDIAL ",
    "FORM]];LIGATURE LAM WITH ALEF [WITH [MADDA ABOVE [ISOLATED FORM;FINAL FORM];HAMZA [ABOVE [",
    "ISOLATED FORM;FINAL FORM];BELOW [ISOLATED FORM;FINAL FORM]]];ISOLATED FORM;FINAL FORM]];=;",
    "=;ZERO WIDTH NO-BREAK SPACE;=;FULLWIDTH [EXCLAMATION MARK;QUOTATION MARK;NUMBER SIGN;",
    "DOLLAR SIGN;PERCENT SIGN;AMPERSAND;APOSTROPHE;LEFT PARENTHESIS;RIGHT PARENTHESIS;ASTERISK;",
    "PLUS SIGN;COMMA;HYPHEN-MINUS;FULL STOP;SOLIDUS;DIGIT [ZERO;ONE;TWO;THREE;FOUR;FIVE;SIX;",
    "SEVEN;EIGHT;NINE];COLON;SEMICOLON;LESS-THAN SIGN;EQUALS SIGN;GREATER-THAN SIGN;QUESTION ",
    "MARK;COMMERCIAL AT;LATIN CAPITAL LETTER [A;B;C;D;E;F;G;H;I;J;K;L;M;N;O;P;Q;R;S;T;U;V;W;X;",
    "Y;Z];LEFT SQUARE BRACKET;REVERSE SOLIDUS;RIGHT SQUARE BRACKET;CIRCUMFLEX ACCENT;LOW LINE;",
    "GRAVE ACCENT;LATIN SMALL LETTER [A;B;C;D;E;F;G;H;I;J;K;L;M;N;O;P;Q;R;S;T;U;V;W;X;Y;Z];",
    "LEFT CURLY BRACKET;VERTICAL LINE;RIGHT CURLY BRACKET;TILDE;LEFT WHITE PARENTHESIS;RIGHT ",
    "WHITE PARENTHESIS];HALFWIDTH [IDEOGRAPHIC FULL STOP;LEFT CORNER BRACKET;RIGHT CORNER ",
    "BRACKET;IDEOGRAPHIC COMMA;KATAKANA [MIDDLE DOT;LETTER [WO;SMALL [A;I;U;E;O;YA;YU;YO;TU]]];",
    "KATAKANA-HIRAGANA PROLONGED SOUND MARK;KATAKANA LETTER [A;I;U;E;O;KA;KI;KU;KE;KO;SA;SI;SU;",
    "SE;SO;TA;TI;TU;TE;TO;NA;NI;NU;NE;NO;HA;HI;HU;HE;HO;MA;MI;MU;ME;MO;YA;YU;YO;RA;RI;RU;RE;RO;",
    "WA;N];KATAKANA [VOICED SOUND MARK;SEMI-VOICED SOUND MARK];HANGUL [FILLER;LETTER [KIYEOK;",
    "SSANGKIYEOK;KIYEOK-SIOS;NIEUN;NIEUN-[CIEUC;HIEUH];TIKEUT;SSANGTIKEUT;RIEUL;RIEUL-[KIYEOK;",
    "MIEUM;PIEUP;SIOS;THIEUTH;PHIEUPH;HIEUH];MIEUM;PIEUP;SSANGPIEUP;PIEUP-SIOS;SIOS;SSANGSIOS;",
    "IEUNG;CIEUC;SSANGCIEUC;CHIEUCH;KHIEUKH;THIEUTH;PHIEUPH;HIEUH;=;=;=;A;AE;YA;YAE;EO;E;=;=;",
    "YEO;YE;O;WA;WAE;OE;=;=;YO;U;WEO;WE;WI;YU;=;=;EU;YI;I]]];=;=;=;FULLWIDTH [CENT SIGN;POUND ",
    "SIGN;NOT SIGN;MACRON;BROKEN BAR;YEN SIGN;WON SIGN];=;HALFWIDTH [FORMS LIGHT VERTICAL;",
    "LEFTWARDS ARROW;UPWARDS ARROW;RIGHTWARDS ARROW;DOWNWARDS ARROW;BLACK SQUARE;WHITE CIRCLE]"]),
  (0xfff9, ["INTERLINEAR ANNOTATION [ANCHOR;SEPARATOR;TERMINATOR];OBJECT REPLACEMENT CHARACTER;",
    "REPLACEMENT CHARACTER;=;=;LINEAR B SYLLABLE B[008 A;038 E;028 I;061 O;010 U;001 DA;045 DE;",
    "007 DI;014 DO;051 DU;057 JA;046 JE;=;036 JO;065 JU;077 KA;044 KE;067 KI;070 KO;081 KU;080 ",
    "MA;013 ME;073 MI;015 MO;023 MU;006 NA;024 NE;030 NI;052 NO;055 NU;003 PA;072 PE;039 PI;",
    "011 PO;050 PU;016 QA;078 QE;021 QI;032 QO;=;060 RA;027 RE;053 RI;002 RO;026 RU;031 SA;009 ",
    "SE;041 SI;012 SO;058 SU;059 TA;004 TE;037 TI;005 TO;069 TU;054 WA;075 WE;040 WI;042 WO;=;",
    "017 ZA;074 ZE;=;020 ZO;025 A2;043 A3;085 AU;071 DWE;090 DWO;048 NWA;029 PU2;062 PTE;076 ",
    "RA2;033 RA3;068 RO2;066 TA2;087 TWE;091 TWO];=;=;LINEAR B SYMBOL B[018;019;022;034;047;",
    "049;056;063;064;079;082;083;086;089]"])]

end Mend.Text.CharName
