namespace Mend.Text.CharName

def pictures : List (Nat × List String) := [
  (0x1b150, ["HIRAGANA LETTER SMALL [WI;WE;WO]"]),
  (0x1b164, ["KATAKANA LETTER SMALL [WI;WE;WO;N]"]),
  (0x1bc00, ["DUPLOYAN LETTER [H;X;P;T;F;K;L;B;D;V;G;R;P N;D S;F N;K M;R S;TH;SLOAN DH;DH;KK;",
    "SLOAN J;HL;LH;RH;M;N;J;S;M N;N M;J M;S J;M WITH DOT;N WITH DOT;J WITH [DOT;DOTS INSIDE ",
    "AND ABOVE];S WITH [DOT;DOT BELOW];M S;N S;J S;S S;M N S;N M S;J M S;S J S;J [S WITH DOT;N;",
    "N S];S [T;T R;P;P R];T S;T R S;W;WH;W R;S N;S M;K R S;G R S;S K;S K R;A;SLOAN OW;OA;O;AOU;",
    "I;E;IE;SHORT I;UI;EE;SLOAN EH;ROMANIAN I;SLOAN EE;LONG I;YE;U;EU;XW;U N;LONG U;ROMANIAN U;",
    "UH;SLOAN U;OOH;OW;OU;WA;WO;WI;WEI;WOW;NASAL [U;O;I;A];PERNIN [AN;AM];SLOAN [EN;AN;ON];",
    "VOCALIC M];=;=;=;=;=;DUPLOYAN AFFIX [LEFT HORIZONTAL SECANT;MID HORIZONTAL SECANT;RIGHT ",
    "HORIZONTAL SECANT;LOW VERTICAL SECANT;MID VERTICAL SECANT;HIGH VERTICAL SECANT;ATTACHED [",
    "SECANT;LEFT-TO-RIGHT SECANT;TANGENT;TAIL;E HOOK;I HOOK;TANGENT HOOK];=;=;=;HIGH [ACUTE;",
    "TIGHT ACUTE;GRAVE;LONG GRAVE;DOT;CIRCLE;LINE;WAVE;VERTICAL]]"]),
  (0x1bc90, ["DUPLOYAN AFFIX LOW [ACUTE;TIGHT ACUTE;GRAVE;LONG GRAVE;DOT;CIRCLE;LINE;WAVE;",
    "VERTICAL;ARROW];=;=;DUPLOYAN [SIGN O WITH CROSS;THICK LETTER SELECTOR;DOUBLE MARK;",
    "PUNCTUATION CHINOOK FULL STOP];SHORTHAND FORMAT [LETTER OVERLAP;CONTINUING OVERLAP;DOWN ",
    "STEP;UP STEP]"]),
  (0x1cf00, ["ZNAMENNY COMBINING [MARK [GORAZDO NIZKO S KRYZHEM ON LEFT;NIZKO S KRYZHEM ON ",
    "LEFT;TSATA ON LEFT;GORAZDO NIZKO ON LEFT;NIZKO ON LEFT;SREDNE ON LEFT;MALO POVYSHE ON ",
    "LEFT;POVYSHE ON LEFT;VYSOKO ON LEFT;MALO POVYSHE S KHOKHLOM ON LEFT;POVYSHE S KHOKHLOM ON ",
    "LEFT;VYSOKO S KHOKHLOM ON LEFT;GORAZDO NIZKO S KRYZHEM ON RIGHT;NIZKO S KRYZHEM ON RIGHT;",
    "TSATA ON RIGHT;GORAZDO NIZKO ON RIGHT;NIZKO ON RIGHT;SREDNE ON RIGHT;MALO POVYSHE ON ",
    "RIGHT;POVYSHE ON RIGHT;VYSOKO ON RIGHT;MALO POVYSHE S KHOKHLOM ON RIGHT;POVYSHE S ",
    "KHOKHLOM ON RIGHT;VYSOKO S KHOKHLOM ON RIGHT;TSATA S KRYZHEM;MALO POVYSHE S KRYZHEM;",
    "STRANNO MALO POVYSHE;POVYSHE [S KRYZHEM;STRANNO];VYSOKO S KRYZHEM;MALO POVYSHE STRANNO;",
    "GORAZDO VYSOKO;ZELO;ON;RAVNO;TIKHAYA;BORZAYA;UDARKA;PODVERTKA;LOMKA;KUPNAYA;KACHKA;ZEVOK;",
    "SKOBA;RAZSEKA;KRYZH ON LEFT];=;=;TONAL RANGE MARK [MRACHNO;SVETLO;TRESVETLO];MARK [",
    "ZADERZHKA;DEMESTVENNY ZADERZHKA;OTSECHKA;PODCHASHIE;PODCHASHIE WITH VERTICAL STROKE;",
    "CHASHKA;CHASHKA POLNAYA;OBLACHKO;SOROCHYA NOZHKA;TOCHKA;DVOETOCHIE];ATTACHING VERTICAL ",
    "OMET;MARK [CURVED OMET;KRYZH];LOWER TONAL RANGE INDICATOR];ZNAMENNY PRIZNAK MODIFIER [",
    "LEVEL-[2;3];DIRECTION FLIP;KRYZH;ROG]"]),
  (0x1cf50, ["ZNAMENNY NEUME [KRYUK;KRYUK TIKHY;PARAKLIT;DVA V CHELNU;KLYUCH;ZANOZHEK;STOPITSA;",
    "STOPITSA S OCHKOM;PEREVODKA;PEREVODKA NEPOSTOYANNAYA;STOPITSA WITH SOROCHYA NOZHKA;",
    "CHELYUSTKA;PALKA;ZAPYATAYA;GOLUBCHIK [BORZY;TIKHY;MRACHNY;SVETLY;TRESVETLY];VRAKHIYA [",
    "PROSTAYA;MRACHNAYA;SVETLAYA;TRESVETLAYA;KLYUCHEVAYA [PROSTAYA;MRACHNAYA;SVETLAYA;",
    "TRESVETLAYA]];DOUBLE ZAPYATAYA;REVERSED CHELYUSTKA;DERBITSA;KHAMILO;CHASHKA;PODCHASHIE;",
    "SKAMEYTSA [MRACHNAYA;SVETLAYA;TRESVETLAYA;TIKHAYA];DEMESTVENNY KLYUCH;SKAMEYTSA [",
    "KLYUCHEVAYA SVETLAYA;KLYUCHENEPOSTOYANNAYA;KLYUCHEVAYA TIKHAYA;DVOECHELNAYA [PROSTAYA;",
    "SVETLAYA;NEPOSTOYANNAYA;KLYUCHEVAYA]];SLOZHITIE;SLOZHITIE [S ZAPYATOY;ZAKRYTOE;S KRYZHEM];",
    "KRYZH;ROG;FITA;KOBYLA;ZMEYTSA;STATYA;STATYA [S [ZAPYATOY;KRYZHEM;ZAPYATOY I KRYZHEM;",
    "KRYZHEM I ZAPYATOY];ZAKRYTAYA;ZAKRYTAYA S ZAPYATOY;S [ROGOM;DVUMYA ZAPYATYMI;ZAPYATOY I ",
    "PODCHASHIEM]];POLKULIZMY;STATYA NEPOSTOYANNAYA;STRELA [PROSTAYA;MRACHNOTIKHAYA;KRYZHEVAYA;",
    "POLUPOVODNAYA;POVODNAYA;NEPOSTOYANNAYA;KLYUCHEPOVODNAYA;KLYUCHENEPOSTOYANNAYA;TIKHAYA ",
    "PUTNAYA;DVOECHELNAYA;DVOECHELNOKRYZHEVAYA;DVOECHELNOPOVODNAYA;DVOECHELNAYA KLYUCHEVAYA;",
    "DVOECHELNOPOVODNAYA KLYUCHEVAYA;GROMNAYA WITH SINGLE ZAPYATAYA;GROMOPOVODNAYA WITH SINGLE ",
    "ZAPYATAYA;GROMNAYA;GROMOPOVODNAYA;GROMOPOVODNAYA WITH DOUBLE ZAPYATAYA;GROMOKRYZHEVAYA;",
    "GROMOKRYZHEVAYA POVODNAYA];MECHIK;MECHIK [POVODNY;KLYUCHEVOY;KLYUCHEPOVODNY;",
    "KLYUCHENEPOSTOYANNY];STRELA [TRYASOGLASNAYA;TRYASOPOVODNAYA;TRYASOSTRELNAYA];OSOKA;OSOKA [",
    "SVETLAYA;TRESVETLAYA;KRYUKOVAYA SVETLAYA;KLYUCHEVAYA [SVETLAYA;NEPOSTOYANNAYA]];STRELA [",
    "KRYUKOVAYA;KRYUKOVAYA [POVODNAYA;GROMNAYA WITH SINGLE ZAPYATAYA;GROMOPOVODNAYA WITH ",
    "SINGLE ZAPYATAYA;GROMNAYA;GROMOPOVODNAYA;GROMOPOVODNAYA WITH DOUBLE ZAPYATAYA;",
    "GROMOKRYZHEVAYA;GROMOKRYZHEVAYA POVODNAYA;TRYASKA]];KUFISMA;OBLAKO;DUDA;NEMKA;PAUK]"]),
  (0x1d000, ["BYZANTINE MUSICAL SYMBOL [PSILI;DASEIA;PERISPOMENI;OXEIA [EKFONITIKON;DIPLI];",
    "VAREIA [EKFONITIKON;DIPLI];KATHISTI;SYRMATIKI;PARAKLITIKI;YPOKRISIS;YPOKRISIS DIPLI;",
    "KREMASTI;APESO EKFONITIKON;EXO EKFONITIKON;TELEIA;KENTIMATA;APOSTROFOS;APOSTROFOS DIPLI;",
    "SYNEVMA;THITA;OLIGON ARCHAION;GORGON ARCHAION;PSILON;CHAMILON;VATHY;ISON ARCHAION;KENTIMA ",
    "ARCHAION;KENTIMATA ARCHAION;SAXIMATA;PARICHON;STAVROS APODEXIA;OXEIAI ARCHAION;VAREIAI ",
    "ARCHAION;APODERMA ARCHAION;APOTHEMA;KLASMA;REVMA;PIASMA ARCHAION;TINAGMA;ANATRICHISMA;",
    "SEISMA;SYNAGMA [ARCHAION;META STAVROU];OYRANISMA ARCHAION;THEMA;LEMOI;DYO;TRIA;TESSERA;",
    "KRATIMATA;APESO EXO NEO;FTHORA ARCHAION;IMIFTHORA;TROMIKON ARCHAION;KATAVA TROMIKON;",
    "PELASTON;PSIFISTON;KONTEVMA;CHOREVMA ARCHAION;RAPISMA;PARAKALESMA ARCHAION;PARAKLITIKI ",
    "ARCHAION;ICHADIN;NANA;PETASMA;KONTEVMA ALLO;TROMIKON ALLO;STRAGGISMATA;GRONTHISMATA;ISON ",
    "NEO;OLIGON NEO;OXEIA NEO;PETASTI;KOUFISMA;PETASTOKOUFISMA;KRATIMOKOUFISMA;PELASTON NEO;",
    "KENTIMATA NEO ANO;KENTIMA NEO ANO;YPSILI;APOSTROFOS NEO;APOSTROFOI SYNDESMOS NEO;YPORROI;",
    "KRATIMOYPORROON;ELAFRON;CHAMILI;MIKRON ISON;VAREIA NEO;PIASMA NEO;PSIFISTON NEO;OMALON;",
    "ANTIKENOMA;LYGISMA;PARAKLITIKI NEO;PARAKALESMA NEO;ETERON PARAKALESMA;KYLISMA;",
    "ANTIKENOKYLISMA;TROMIKON NEO;EKSTREPTON;SYNAGMA NEO;SYRMA;CHOREVMA NEO;EPEGERMA;SEISMA ",
    "NEO;XIRON KLASMA;TROMIKOPSIFISTON;PSIFISTOLYGISMA;TROMIKOLYGISMA;TROMIKOPARAKALESMA;",
    "PSIFISTOPARAKALESMA;TROMIKOSYNAGMA;PSIFISTOSYNAGMA;GORGOSYNTHETON;ARGOSYNTHETON;ETERON ",
    "ARGOSYNTHETON;OYRANISMA NEO;THEMATISMOS [ESO;EXO];THEMA APLOUN;THES KAI APOTHES;KATAVASMA;",
    "ENDOFONON;YFEN [KATO;ANO];STAVROS;KLASMA ANO;DIPLI ARCHAION;KRATIMA [ARCHAION;ALLO;NEO];",
    "APODERMA NEO;APLI;DIPLI;TRIPLI;TETRAPLI;KORONIS;LEIMMA [ENOS CHRONOU;DYO CHRONON;TRION ",
    "CHRONON;TESSARON CHRONON;IMISEOS CHRONOU];GORGON [NEO ANO;PARESTIGMENON [ARISTERA;DEXIA]];",
    "DIGORGON;DIGORGON PARESTIGMENON [ARISTERA [KATO;ANO];DEXIA];TRIGORGON;ARGON;IMIDIARGON;",
    "DIARGON;AGOGI [POLI ARGI;ARGOTERI;ARGI;METRIA;MESI;GORGI;GORGOTERI;POLI GORGI];MARTYRIA [",
    "PROTOS ICHOS;ALLI PROTOS ICHOS;DEYTEROS ICHOS;ALLI DEYTEROS ICHOS;TRITOS ICHOS;TRIFONIAS;",
    "TETARTOS [ICHOS;LEGETOS ICHOS];LEGETOS ICHOS;PLAGIOS ICHOS];ISAKIA TELOUS ICHIMATOS;",
    "APOSTROFOI TELOUS ICHIMATOS;FANEROSIS [TETRAFONIAS;MONOFONIAS;DIFONIAS];MARTYRIA [VARYS ",
    "ICHOS;PROTOVARYS ICHOS;PLAGIOS TETARTOS ICHOS];GORTHMIKON N [APLOUN;DIPLOUN];ENARXIS KAI ",
    "FTHORA VOU;IMIFONON;IMIFTHORON;FTHORA [ARCHAION DEYTEROU ICHOU;DIATONIKI [PA;NANA];NAOS ",
    "ICHOS;DIATONIKI DI;SKLIRON DIATONON DI;DIATONIKI [KE;ZO;NI [KATO;ANO]];MALAKON CHROMA [",
    "DIFONIAS;MONOFONIAS]];FHTORA SKLIRON CHROMA VASIS;FTHORA [SKLIRON CHROMA SYNAFI;NENANO];",
    "CHROA [ZYGOS;KLITON;SPATHI];FTHORA [I YFESIS TETARTIMORION;ENARMONIOS ANTIFONIA];YFESIS ",
    "TRITIMORION;DIESIS [TRITIMORION;TETARTIMORION;APLI DYO DODEKATA;MONOGRAMMOS TESSERA ",
    "DODEKATA;DIGRAMMOS EX DODEKATA;TRIGRAMMOS OKTO DODEKATA];YFESIS [APLI DYO DODEKATA;",
    "MONOGRAMMOS TESSERA DODEKATA;DIGRAMMOS EX DODEKATA;TRIGRAMMOS OKTO DODEKATA];GENIKI [",
    "DIESIS;YFESIS];DIASTOLI [APLI [MIKRI;MEGALI];DIPLI;THESEOS];SIMANSIS [THESEOS;THESEOS [",
    "DISIMOU;TRISIMOU;TETRASIMOU];ARSEOS;ARSEOS [DISIMOU;TRISIMOU;TETRASIMOU]];DIGRAMMA GG;",
    "DIFTOGGOS OU;STIGMA;ARKTIKO [PA;VOU;GA;DI;KE;ZO;NI];KENTIMATA NEO MESO;KENTIMA NEO MESO;",
    "KENTIMATA NEO KATO;KENTIMA NEO KATO;KLASMA KATO;GORGON NEO KATO]"]),
  (0x1d100, ["MUSICAL SYMBOL [SINGLE BARLINE;DOUBLE BARLINE;FINAL BARLINE;REVERSE FINAL ",
    "BARLINE;DASHED BARLINE;SHORT BARLINE;LEFT REPEAT SIGN;RIGHT REPEAT SIGN;REPEAT DOTS;DAL ",
    "SEGNO;DA CAPO;SEGNO;CODA;REPEATED FIGURE-[1;2;3];FERMATA;FERMATA BELOW;BREATH MARK;",
    "CAESURA;BRACE;BRACKET;ONE-LINE STAFF;TWO-LINE STAFF;THREE-LINE STAFF;FOUR-LINE STAFF;",
    "FIVE-LINE STAFF;SIX-[LINE STAFF;STRING FRETBOARD];FOUR-STRING FRETBOARD;G [CLEF;CLEF ",
    "OTTAVA [ALTA;BASSA]];C CLEF;F [CLEF;CLEF OTTAVA [ALTA;BASSA]];DRUM CLEF-[1;2];=;=;",
    "MULTIPLE MEASURE REST;DOUBLE [SHARP;FLAT];FLAT [UP;DOWN];NATURAL [UP;DOWN];SHARP [UP;",
    "DOWN];QUARTER TONE [SHARP;FLAT];COMMON TIME;CUT TIME;OTTAVA [ALTA;BASSA];QUINDICESIMA [",
    "ALTA;BASSA];MULTI REST;WHOLE REST;HALF REST;QUARTER REST;EIGHTH REST;SIXTEENTH REST;",
    "THIRTY-SECOND REST;SIXTY-FOURTH REST;ONE HUNDRED TWENTY-EIGHTH REST;X NOTEHEAD;PLUS ",
    "NOTEHEAD;CIRCLE X NOTEHEAD;SQUARE NOTEHEAD [WHITE;BLACK];TRIANGLE NOTEHEAD [UP [WHITE;",
    "BLACK];LEFT [WHITE;BLACK];RIGHT [WHITE;BLACK];DOWN [WHITE;BLACK];UP RIGHT [WHITE;BLACK]];",
    "MOON NOTEHEAD [WHITE;BLACK];TRIANGLE-ROUND NOTEHEAD DOWN [WHITE;BLACK];PARENTHESIS ",
    "NOTEHEAD;VOID NOTEHEAD;NOTEHEAD BLACK;NULL NOTEHEAD;CLUSTER NOTEHEAD [WHITE;BLACK];BREVE;",
    "WHOLE NOTE;HALF NOTE;QUARTER NOTE;EIGHTH NOTE;SIXTEENTH NOTE;THIRTY-SECOND NOTE;",
    "SIXTY-FOURTH NOTE;ONE HUNDRED TWENTY-EIGHTH NOTE;COMBINING [STEM;SPRECHGESANG STEM;",
    "TREMOLO-[1;2;3]];FINGERED TREMOLO-[1;2;3];COMBINING [AUGMENTATION DOT;FLAG-[1;2;3;4;5]];",
    "BEGIN BEAM;END BEAM;BEGIN TIE;END TIE;BEGIN SLUR;END SLUR;BEGIN PHRASE;END PHRASE;",
    "COMBINING [ACCENT;STACCATO;TENUTO;STACCATISSIMO;MARCATO;MARCATO-STACCATO;ACCENT-STACCATO;",
    "LOURE];ARPEGGIATO [UP;DOWN];COMBINING [DOIT;RIP;FLIP;SMEAR;BEND;DOUBLE TONGUE;TRIPLE ",
    "TONGUE];RINFORZANDO;SUBITO;Z;PIANO;MEZZO;FORTE;CRESCENDO;DECRESCENDO;GRACE NOTE [SLASH;NO ",
    "SLASH];TR;TURN;INVERTED TURN;TURN [SLASH;UP];ORNAMENT STROKE-[1;2;3;4;5;6;7;8;9;10;11];",
    "HAUPTSTIMME;NEBENSTIMME;END OF STIMME;DEGREE SLASH;COMBINING [DOWN BOW;UP BOW;HARMONIC;",
    "SNAP PIZZICATO];PEDAL [MARK;UP MARK];HALF PEDAL MARK;GLISSANDO [UP;DOWN];WITH FINGERNAILS;",
    "DAMP;DAMP ALL;MAXIMA;LONGA;BREVIS;SEMIBREVIS [WHITE;BLACK];MINIMA;MINIMA BLACK;SEMIMINIMA ",
    "[WHITE;BLACK];FUSA [WHITE;BLACK];LONGA [PERFECTA REST;IMPERFECTA REST];BREVIS REST;",
    "SEMIBREVIS REST;MINIMA REST;SEMIMINIMA REST;TEMPUS PERFECTUM CUM PROLATIONE [PERFECTA;",
    "IMPERFECTA;PERFECTA DIMINUTION-1];TEMPUS IMPERFECTUM CUM PROLATIONE [PERFECTA;IMPERFECTA;",
    "IMPERFECTA DIMINUTION-[1;2;3]];CROIX;GREGORIAN [C CLEF;F CLEF];SQUARE B;VIRGA;PODATUS;",
    "CLIVIS;SCANDICUS;CLIMACUS;TORCULUS;PORRECTUS;PORRECTUS FLEXUS;SCANDICUS FLEXUS;TORCULUS ",
    "RESUPINUS;PES SUBPUNCTIS;KIEVAN [C CLEF;END OF PIECE;FINAL NOTE;RECITATIVE MARK;WHOLE ",
    "NOTE;HALF NOTE;QUARTER NOTE STEM [DOWN;UP];EIGHTH NOTE STEM [DOWN;UP];FLAT SIGN];SORI;",
    "KORON]"]),
  (0x1d200, ["GREEK VOCAL NOTATION SYMBOL-[1;2;3;4;5;6;7;8;9;10;11;12;13;14;15;16;17;18;19;20;",
    "21;22;23;24;50;51;52;53;54];GREEK INSTRUMENTAL NOTATION SYMBOL-[1;2;4;5;7;8;11;12;13;14;",
    "17;18;19;23;24;25;26;27;29;30;32;36;37;38;39;40;42;43;45;47;48;49;50;51;52;53;54];",
    "COMBINING GREEK MUSICAL [TRISEME;TETRASEME;PENTASEME];GREEK MUSICAL LEIMMA"]),
  (0x1d2e0, ["MAYAN NUMERAL [ZERO;ONE;TWO;THREE;FOUR;FIVE;SIX;SEVEN;EIGHT;NINE;TEN;ELEVEN;",
    "TWELVE;THIRTEEN;FOURTEEN;FIFTEEN;SIXTEEN;SEVENTEEN;EIGHTEEN;NINETEEN]"]),
  (0x1d300, ["MONOGRAM FOR EARTH;DIGRAM FOR [HEAVENLY EARTH;HUMAN EARTH;EARTHLY [HEAVEN;HUMAN];",
    "EARTH];TETRAGRAM FOR [CENTRE;FULL CIRCLE;MIRED;BARRIER;KEEPING SMALL;CONTRARIETY;ASCENT;",
    "OPPOSITION;BRANCHING OUT;DEFECTIVENESS OR DISTORTION;DIVERGENCE;YOUTHFULNESS;INCREASE;",
    "PENETRATION;REACH;CONTACT;HOLDING BACK;WAITING;FOLLOWING;ADVANCE;RELEASE;RESISTANCE;EASE;",
    "JOY;CONTENTION;ENDEAVOUR;DUTIES;CHANGE;DECISIVENESS;BOLD RESOLUTION;PACKING;LEGION;",
    "CLOSENESS;KINSHIP;GATHERING;STRENGTH;PURITY;FULLNESS;RESIDENCE;LAW OR MODEL;RESPONSE;",
    "GOING TO MEET;ENCOUNTERS;STOVE;GREATNESS;ENLARGEMENT;PATTERN;RITUAL;FLIGHT;VASTNESS OR ",
    "WASTING;CONSTANCY;MEASURE;ETERNITY;UNITY;DIMINISHMENT;CLOSED MOUTH;GUARDEDNESS;GATHERING ",
    "IN;MASSING;ACCUMULATION;EMBELLISHMENT;DOUBT;WATCH;SINKING;INNER;DEPARTURE;DARKENING;",
    "DIMMING;EXHAUSTION;SEVERANCE;STOPPAGE;HARDNESS;COMPLETION;CLOSURE;FAILURE;AGGRAVATION;",
    "COMPLIANCE;ON THE VERGE;DIFFICULTIES;LABOURING;FOSTERING]"]),
  (0x1d360, ["COUNTING ROD [UNIT DIGIT [ONE;TWO;THREE;FOUR;FIVE;SIX;SEVEN;EIGHT;NINE];TENS ",
    "DIGIT [ONE;TWO;THREE;FOUR;FIVE;SIX;SEVEN;EIGHT;NINE]];IDEOGRAPHIC TALLY MARK [ONE;TWO;",
    "THREE;FOUR;FIVE];TALLY MARK [ONE;FIVE]"]),
  (0x1d400, ["MATHEMATICAL [BOLD CAPITAL [A;B;C;D;E;F;G;H;I;J;K;L;M;N;O;P;Q;R;S;T;U;V;W;X;Y;Z];",
    "BOLD SMALL [A;B;C;D;E;F;G;H;I;J;K;L;M;N;O;P;Q;R;S;T;U;V;W;X;Y;Z];ITALIC CAPITAL [A;B;C;D;",
    "E;F;G;H;I;J;K;L;M;N;O;P;Q;R;S;T;U;V;W;X;Y;Z];ITALIC SMALL [A;B;C;D;E;F;G;=;I;J;K;L;M;N;O;",
    "P;Q;R;S;T;U;V;W;X;Y;Z];BOLD ITALIC [CAPITAL [A;B;C;D;E;F;G;H;I;J;K;L;M;N;O;P;Q;R;S;T;U;V;",
    "W;X;Y;Z];SMALL [A;B;C;D;E;F;G;H;I;J;K;L;M;N;O;P;Q;R;S;T;U;V;W;X;Y;Z]];SCRIPT [CAPITAL [A;",
    "=;C;D;=;=;G;=;=;J;K;=;=;N;O;P;Q;=;S;T;U;V;W;X;Y;Z];SMALL [A;B;C;D;=;F;=;H;I;J;K;L;M;N;=;P;",
    "Q;R;S;T;U;V;W;X;Y;Z]];BOLD SCRIPT [CAPITAL [A;B;C;D;E;F;G;H;I;J;K;L;M;N;O;P;Q;R;S;T;U;V;W;",
    "X;Y;Z];SMALL [A;B;C;D;E;F;G;H;I;J;K;L;M;N;O;P;Q;R;S;T;U;V;W;X;Y;Z]];FRAKTUR [CAPITAL [A;B;",
    "=;D;E;F;G;=;=;J;K;L;M;N;O;P;Q;=;S;T;U;V;W;X;Y];=;SMALL [A;B;C;D;E;F;G;H;I;J;K;L;M;N;O;P;Q;",
    "R;S;T;U;V;W;X;Y;Z]];DOUBLE-STRUCK [CAPITAL [A;B;=;D;E;F;G;=;I;J;K;L;M;=;O;=;=;=;S;T;U;V;W;",
    "X;Y];=;SMALL [A;B;C;D;E;F;G;H;I;J;K;L;M;N;O;P;Q;R;S;T;U;V;W;X;Y;Z]];BOLD FRAKTUR [CAPITAL ",
    "[A;B;C;D;E;F;G;H;I;J;K;L;M;N;O;P;Q;R;S;T;U;V;W;X;Y;Z];SMALL [A;B;C;D;E;F;G;H;I;J;K;L;M;N;",
    "O;P;Q;R;S;T;U;V;W;X;Y;Z]];SANS-SERIF [CAPITAL [A;B;C;D;E;F;G;H;I;J;K;L;M;N;O;P;Q;R;S;T;U;",
    "V;W;X;Y;Z];SMALL [A;B;C;D;E;F;G;H;I;J;K;L;M;N;O;P;Q;R;S;T;U;V;W;X;Y;Z];BOLD CAPITAL [A;B;",
    "C;D;E;F;G;H;I;J;K;L;M;N;O;P;Q;R;S;T;U;V;W;X;Y;Z];BOLD SMALL [A;B;C;D;E;F;G;H;I;J;K;L;M;N;",
    "O;P;Q;R;S;T;U;V;W;X;Y;Z];ITALIC CAPITAL [A;B;C;D;E;F;G;H;I;J;K;L;M;N;O;P;Q;R;S;T;U;V;W;X;",
    "Y;Z];ITALIC SMALL [A;B;C;D;E;F;G;H;I;J;K;L;M;N;O;P;Q;R;S;T;U;V;W;X;Y;Z];BOLD ITALIC [",
    "CAPITAL [A;B;C;D;E;F;G;H;I;J;K;L;M;N;O;P;Q;R;S;T;U;V;W;X;Y;Z];SMALL [A;B;C;D;E;F;G;H;I;J;",
    "K;L;M;N;O;P;Q;R;S;T;U;V;W;X;Y;Z]]];MONOSPACE [CAPITAL [A;B;C;D;E;F;G;H;I;J;K;L;M;N;O;P;Q;",
    "R;S;T;U;V;W;X;Y;Z];SMALL [A;B;C;D;E;F;G;H;I;J;K;L;M;N;O;P;Q;R;S;T;U;V;W;X;Y;Z]];ITALIC ",
    "SMALL DOTLESS [I;J];=;=;BOLD CAPITAL [ALPHA;BETA;GAMMA;DELTA;EPSILON;ZETA;ETA;THETA;IOTA;",
    "KAPPA;LAMDA;MU;NU;XI;OMICRON;PI;RHO;THETA SYMBOL;SIGMA;TAU;UPSILON;PHI;CHI;PSI;OMEGA];",
    "BOLD [NABLA;SMALL [ALPHA;BETA;GAMMA;DELTA;EPSILON;ZETA;ETA;THETA;IOTA;KAPPA;LAMDA;MU;NU;",
    "XI;OMICRON;PI;RHO;FINAL SIGMA;SIGMA;TAU;UPSILON;PHI;CHI;PSI;OMEGA];PARTIAL DIFFERENTIAL;",
    "EPSILON SYMBOL;THETA SYMBOL;KAPPA SYMBOL;PHI SYMBOL;RHO SYMBOL;PI SYMBOL];ITALIC [CAPITAL ",
    "[ALPHA;BETA;GAMMA;DELTA;EPSILON;ZETA;ETA;THETA;IOTA;KAPPA;LAMDA;MU;NU;XI;OMICRON;PI;RHO;",
    "THETA SYMBOL;SIGMA;TAU;UPSILON;PHI;CHI;PSI;OMEGA];NABLA;SMALL [ALPHA;BETA;GAMMA;DELTA;",
    "EPSILON;ZETA;ETA;THETA;IOTA;KAPPA;LAMDA;MU;NU;XI;OMICRON;PI;RHO;FINAL SIGMA;SIGMA;TAU;",
    "UPSILON;PHI;CHI;PSI;OMEGA];PARTIAL DIFFERENTIAL;EPSILON SYMBOL;THETA SYMBOL;KAPPA SYMBOL;",
    "PHI SYMBOL;RHO SYMBOL;PI SYMBOL];BOLD ITALIC [CAPITAL [ALPHA;BETA;GAMMA;DELTA;EPSILON;",
    "ZETA;ETA;THETA;IOTA;KAPPA;LAMDA;MU;NU;XI;OMICRON;PI;RHO;THETA SYMBOL;SIGMA;TAU;UPSILON;",
    "PHI;CHI;PSI;OMEGA];NABLA;SMALL [ALPHA;BETA;GAMMA;DELTA;EPSILON;ZETA;ETA;THETA;IOTA;KAPPA;",
    "LAMDA;MU;NU;XI;OMICRON;PI;RHO;FINAL SIGMA;SIGMA;TAU;UPSILON;PHI;CHI;PSI;OMEGA];PARTIAL ",
    "DIFFERENTIAL;EPSILON SYMBOL;THETA SYMBOL;KAPPA SYMBOL;PHI SYMBOL;RHO SYMBOL;PI SYMBOL];",
    "SANS-SERIF BOLD [CAPITAL [ALPHA;BETA;GAMMA;DELTA;EPSILON;ZETA;ETA;THETA;IOTA;KAPPA;LAMDA;",
    "MU;NU;XI;OMICRON;PI;RHO;THETA SYMBOL;SIGMA;TAU;UPSILON;PHI;CHI;PSI;OMEGA];NABLA;SMALL [",
    "ALPHA;BETA;GAMMA;DELTA;EPSILON;ZETA;ETA;THETA;IOTA;KAPPA;LAMDA;MU;NU;XI;OMICRON;PI;RHO;",
    "FINAL SIGMA;SIGMA;TAU;UPSILON;PHI;CHI;PSI;OMEGA];PARTIAL DIFFERENTIAL;EPSILON SYMBOL;",
    "THETA SYMBOL;KAPPA SYMBOL;PHI SYMBOL;RHO SYMBOL;PI SYMBOL;ITALIC [CAPITAL [ALPHA;BETA;",
    "GAMMA;DELTA;EPSILON;ZETA;ETA;THETA;IOTA;KAPPA;LAMDA;MU;NU;XI;OMICRON;PI;RHO;THETA SYMBOL;",
    "SIGMA;TAU;UPSILON;PHI;CHI;PSI;OMEGA];NABLA;SMALL [ALPHA;BETA;GAMMA;DELTA;EPSILON;ZETA;ETA;",
    "THETA;IOTA;KAPPA;LAMDA;MU;NU;XI;OMICRON;PI;RHO;FINAL SIGMA;SIGMA;TAU;UPSILON;PHI;CHI;PSI;",
    "OMEGA];PARTIAL DIFFERENTIAL;EPSILON SYMBOL;THETA SYMBOL;KAPPA SYMBOL;PHI SYMBOL;RHO ",
    "SYMBOL;PI SYMBOL]];BOLD [CAPITAL DIGAMMA;SMALL DIGAMMA;=;=;DIGIT [ZERO;ONE;TWO;THREE;FOUR;",
    "FIVE;SIX;SEVEN;EIGHT;NINE]];DOUBLE-STRUCK DIGIT [ZERO;ONE;TWO;THREE;FOUR;FIVE;SIX;SEVEN;",
    "EIGHT;NINE];SANS-SERIF [DIGIT [ZERO;ONE;TWO;THREE;FOUR;FIVE;SIX;SEVEN;EIGHT;NINE];BOLD ",
    "DIGIT [ZERO;ONE;TWO;THREE;FOUR;FIVE;SIX;SEVEN;EIGHT;NINE]];MONOSPACE DIGIT [ZERO;ONE;TWO;",
    "THREE;FOUR;FIVE;SIX;SEVEN;EIGHT;NINE]];SIGNWRITING [HAND-[FIST INDEX;CIRCLE INDEX;CUP ",
    "INDEX;OVAL INDEX;HINGE INDEX;ANGLE INDEX;FIST INDEX BENT;CIRCLE INDEX BENT;FIST [THUMB ",
    "UNDER INDEX BENT;INDEX [RAISED KNUCKLE;CUPPED;HINGED;HINGED LOW]];CIRCLE INDEX HINGE;FIST ",
    "INDEX MIDDLE;CIRCLE INDEX MIDDLE;FIST INDEX [MIDDLE [BENT;RAISED KNUCKLES;HINGED];UP ",
    "MIDDLE HINGED;HINGED MIDDLE UP;MIDDLE [CONJOINED;CONJOINED [INDEX BENT;MIDDLE BENT;CUPPED;",
    "HINGED];CROSSED]];CIRCLE INDEX MIDDLE CROSSED;FIST [MIDDLE BENT OVER INDEX;INDEX [BENT ",
    "OVER MIDDLE;MIDDLE THUMB]];CIRCLE INDEX MIDDLE THUMB;FIST [INDEX [MIDDLE [STRAIGHT THUMB ",
    "BENT;BENT THUMB STRAIGHT;THUMB BENT;HINGED SPREAD THUMB SIDE];UP MIDDLE HINGED THUMB [",
    "SIDE;CONJOINED];HINGED MIDDLE UP THUMB SIDE;MIDDLE [UP SPREAD THUMB FORWARD;THUMB [CUPPED;",
    "CIRCLED;HOOKED;HINGED]]];THUMB BETWEEN INDEX MIDDLE STRAIGHT;INDEX MIDDLE CONJOINED THUMB ",
    "[SIDE;SIDE [CONJOINED;BENT]];MIDDLE THUMB HOOKED INDEX UP;INDEX [THUMB HOOKED MIDDLE UP;",
    "MIDDLE [CONJOINED HINGED THUMB SIDE;CROSSED THUMB SIDE;CONJOINED [THUMB FORWARD;CUPPED ",
    "THUMB FORWARD]]];MIDDLE THUMB CUPPED INDEX UP;INDEX THUMB CUPPED MIDDLE UP;MIDDLE THUMB ",
    "CIRCLED INDEX [UP;HINGED];INDEX [THUMB ANGLED [OUT MIDDLE UP;IN MIDDLE UP];THUMB CIRCLED ",
    "MIDDLE UP;MIDDLE THUMB [CONJOINED HINGED;ANGLED OUT;ANGLED]];MIDDLE THUMB ANGLED [OUT ",
    "INDEX [UP;CROSSED];INDEX UP];INDEX THUMB HOOKED MIDDLE HINGED];FLAT FOUR [FINGERS;FINGERS ",
    "[BENT;HINGED;CONJOINED;CONJOINED SPLIT]];CLAW FOUR FINGERS CONJOINED;FIST FOUR FINGERS ",
    "CONJOINED BENT;HINGE FOUR FINGERS CONJOINED;FLAT [FIVE FINGERS SPREAD;HEEL FIVE FINGERS ",
    "SPREAD;FIVE FINGERS SPREAD FOUR BENT;HEEL FIVE FINGERS SPREAD FOUR BENT;FIVE FINGERS ",
    "SPREAD BENT;HEEL FIVE FINGERS SPREAD BENT;FIVE FINGERS SPREAD THUMB FORWARD];CUP FIVE ",
    "FINGERS [SPREAD;SPREAD OPEN];HINGE FIVE FINGERS SPREAD OPEN;OVAL FIVE FINGERS SPREAD;FLAT ",
    "FIVE FINGERS SPREAD [HINGED;HINGED [THUMB SIDE;NO THUMB]];FLAT;FLAT [BETWEEN PALM FACINGS;",
    "HEEL;THUMB SIDE;HEEL THUMB SIDE;THUMB [BENT;FORWARD];SPLIT [INDEX THUMB SIDE;CENTRE;",
    "CENTRE THUMB [SIDE;SIDE BENT];LITTLE]];CLAW;CLAW [THUMB SIDE;NO THUMB;THUMB FORWARD];HOOK ",
    "CURLICUE;HOOK;CUP OPEN;CUP;CUP [OPEN THUMB SIDE;THUMB SIDE;OPEN NO THUMB;NO THUMB;OPEN ",
    "THUMB FORWARD;THUMB FORWARD];CURLICUE OPEN;CURLICUE;CIRCLE;OVAL;OVAL [THUMB SIDE;NO THUMB;",
    "THUMB FORWARD];HINGE [OPEN;OPEN THUMB FORWARD];HINGE;HINGE [SMALL;OPEN THUMB SIDE;THUMB ",
    "SIDE;OPEN NO THUMB;NO THUMB;THUMB [SIDE TOUCHING INDEX;BETWEEN MIDDLE RING]];ANGLE;FIST ",
    "INDEX MIDDLE RING;CIRCLE INDEX MIDDLE RING;HINGE INDEX MIDDLE RING;ANGLE INDEX MIDDLE ",
    "RING;HINGE LITTLE;FIST INDEX MIDDLE RING [BENT;CONJOINED];HINGE INDEX MIDDLE RING ",
    "CONJOINED;FIST LITTLE [DOWN;DOWN RIPPLE [STRAIGHT;CURVED];DOWN OTHERS CIRCLED;UP];FIST ",
    "THUMB UNDER LITTLE UP;CIRCLE LITTLE UP;OVAL LITTLE UP;ANGLE LITTLE UP;FIST LITTLE [RAISED ",
    "KNUCKLE;BENT;TOUCHES THUMB;THUMB];HINGE LITTLE THUMB;FIST LITTLE INDEX THUMB;HINGE LITTLE ",
    "INDEX THUMB;ANGLE LITTLE INDEX THUMB INDEX [THUMB OUT;THUMB];FIST LITTLE INDEX;CIRCLE ",
    "LITTLE INDEX;HINGE LITTLE INDEX;ANGLE LITTLE INDEX;FIST INDEX MIDDLE LITTLE;CIRCLE INDEX ",
    "MIDDLE LITTLE;HINGE [INDEX MIDDLE LITTLE;RING];ANGLE INDEX MIDDLE LITTLE;FIST INDEX ",
    "MIDDLE CROSS LITTLE;CIRCLE INDEX MIDDLE CROSS LITTLE;FIST RING DOWN;HINGE RING DOWN INDEX ",
    "THUMB HOOK MIDDLE;ANGLE RING DOWN MIDDLE THUMB INDEX CROSS;FIST RING [UP;RAISED KNUCKLE;",
    "LITTLE];CIRCLE RING LITTLE;OVAL RING LITTLE;ANGLE RING LITTLE;FIST RING [MIDDLE;MIDDLE [",
    "CONJOINED;RAISED KNUCKLES];INDEX;THUMB];HOOK RING THUMB;FIST INDEX RING LITTLE;CIRCLE ",
    "INDEX RING LITTLE;CURLICUE INDEX RING LITTLE ON;HOOK INDEX RING LITTLE [OUT;IN;UNDER];CUP ",
    "INDEX RING LITTLE;HINGE INDEX RING LITTLE;ANGLE INDEX RING [LITTLE OUT;LITTLE];FIST ",
    "MIDDLE DOWN;HINGE MIDDLE;FIST MIDDLE UP;CIRCLE MIDDLE UP;FIST MIDDLE [RAISED KNUCKLE;UP ",
    "THUMB SIDE];HOOK MIDDLE THUMB;FIST MIDDLE [THUMB LITTLE;LITTLE;RING LITTLE];CIRCLE MIDDLE ",
    "RING LITTLE;CURLICUE MIDDLE RING LITTLE ON;CUP MIDDLE RING LITTLE;HINGE MIDDLE RING ",
    "LITTLE;ANGLE MIDDLE RING [LITTLE [OUT;IN];LITTLE];CIRCLE MIDDLE RING LITTLE BENT;CLAW ",
    "MIDDLE RING LITTLE [CONJOINED;CONJOINED SIDE];HOOK MIDDLE RING LITTLE [CONJOINED [OUT;IN];",
    "CONJOINED];HINGE INDEX HINGED;FIST INDEX THUMB SIDE;HINGE INDEX THUMB SIDE;FIST INDEX ",
    "THUMB [SIDE [THUMB [DIAGONAL;CONJOINED;BENT];INDEX BENT;BOTH BENT;INDEX HINGE];FORWARD ",
    "INDEX [STRAIGHT;BENT];HOOK;CURLICUE;CURVE THUMB INSIDE];CLAW INDEX THUMB CURVE THUMB ",
    "INSIDE;FIST INDEX THUMB [CURVE THUMB UNDER;CIRCLE];CUP INDEX [THUMB;THUMB OPEN];HINGE ",
    "INDEX [THUMB [OPEN;LARGE];THUMB;THUMB SMALL];ANGLE INDEX [THUMB [OUT;IN];THUMB];FIST [",
    "THUMB;THUMB [HEEL;SIDE [DIAGONAL;CONJOINED;BENT];FORWARD;BETWEEN [INDEX MIDDLE;MIDDLE ",
    "RING;RING LITTLE];UNDER TWO FINGERS;OVER TWO FINGERS;UNDER [THREE FINGERS;FOUR FINGERS];",
    "OVER FOUR RAISED KNUCKLES]];FIST;FIST HEEL];TOUCH [SINGLE;MULTIPLE;BETWEEN];GRASP [SINGLE;",
    "MULTIPLE;BETWEEN];STRIKE [SINGLE;MULTIPLE;BETWEEN];BRUSH [SINGLE;MULTIPLE;BETWEEN];RUB [",
    "SINGLE;MULTIPLE;BETWEEN];SURFACE [SYMBOLS;BETWEEN];SQUEEZE [LARGE SINGLE;SMALL SINGLE;",
    "LARGE MULTIPLE;SMALL MULTIPLE;SEQUENTIAL];FLICK [LARGE SINGLE;SMALL SINGLE;LARGE MULTIPLE;",
    "SMALL MULTIPLE;SEQUENTIAL];SQUEEZE FLICK ALTERNATING;MOVEMENT-[HINGE [UP DOWN [LARGE;",
    "SMALL];UP SEQUENTIAL;DOWN SEQUENTIAL;UP DOWN ALTERNATING [LARGE;SMALL];SIDE TO SIDE ",
    "SCISSORS];WALLPLANE FINGER CONTACT;FLOORPLANE FINGER CONTACT;WALLPLANE [SINGLE STRAIGHT [",
    "SMALL;MEDIUM;LARGE;LARGEST];SINGLE WRIST FLEX;DOUBLE [STRAIGHT;WRIST FLEX;ALTERNATING;",
    "ALTERNATING WRIST FLEX];CROSS;TRIPLE [STRAIGHT MOVEMENT;WRIST FLEX;ALTERNATING;",
    "ALTERNATING WRIST FLEX];BEND [SMALL;MEDIUM;LARGE];CORNER [SMALL;MEDIUM;LARGE;ROTATION];",
    "CHECK [SMALL;MEDIUM;LARGE];BOX [SMALL;MEDIUM;LARGE];ZIGZAG [SMALL;MEDIUM;LARGE];PEAKS [",
    "SMALL;MEDIUM;LARGE]]];TRAVEL-WALLPLANE [ROTATION-[WALLPLANE [SINGLE;DOUBLE;ALTERNATING];",
    "FLOORPLANE [SINGLE;DOUBLE;ALTERNATING]];SHAKING;ARM SPIRAL [SINGLE;DOUBLE;TRIPLE]];",
    "MOVEMENT-[DIAGONAL [AWAY [SMALL;MEDIUM;LARGE;LARGEST];TOWARDS [SMALL;MEDIUM;LARGE;",
    "LARGEST];BETWEEN [AWAY [SMALL;MEDIUM;LARGE;LARGEST];TOWARDS [SMALL;MEDIUM;LARGE;",
    "LARGEST]]];FLOORPLANE [SINGLE STRAIGHT [SMALL;MEDIUM;LARGE;LARGEST];SINGLE WRIST FLEX;",
    "DOUBLE [STRAIGHT;WRIST FLEX;ALTERNATING;ALTERNATING WRIST FLEX];CROSS;TRIPLE [STRAIGHT ",
    "MOVEMENT;WRIST FLEX;ALTERNATING [MOVEMENT;WRIST FLEX]];BEND;CORNER [SMALL;MEDIUM;LARGE];",
    "CHECK;BOX [SMALL;MEDIUM;LARGE];ZIGZAG [SMALL;MEDIUM;LARGE];PEAKS [SMALL;MEDIUM;LARGE]]];",
    "TRAVEL-FLOORPLANE ROTATION-[FLOORPLANE [SINGLE;DOUBLE;ALTERNATING];WALLPLANE [SINGLE;",
    "DOUBLE;ALTERNATING]];TRAVEL-FLOORPLANE SHAKING;MOVEMENT-WALLPLANE [CURVE [QUARTER [SMALL;",
    "MEDIUM;LARGE;LARGEST];HALF-CIRCLE [SMALL;MEDIUM;LARGE;LARGEST];THREE-QUARTER CIRCLE [",
    "SMALL;MEDIUM]];HUMP [SMALL;MEDIUM;LARGE];LOOP [SMALL;MEDIUM;LARGE;SMALL DOUBLE];WAVE ",
    "CURVE [DOUBLE [SMALL;MEDIUM;LARGE];TRIPLE [SMALL;MEDIUM;LARGE]];CURVE THEN STRAIGHT;",
    "CURVED CROSS [SMALL;MEDIUM]];ROTATION-WALLPLANE [SINGLE;DOUBLE;ALTERNATE];",
    "MOVEMENT-WALLPLANE [SHAKING;CURVE HITTING FRONT WALL;HUMP HITTING FRONT WALL;LOOP HITTING ",
    "FRONT WALL;WAVE HITTING FRONT WALL];ROTATION-WALLPLANE [SINGLE HITTING FRONT WALL;DOUBLE ",
    "HITTING FRONT WALL;ALTERNATING HITTING FRONT WALL];MOVEMENT-WALLPLANE [CURVE HITTING ",
    "CHEST;HUMP HITTING CHEST;LOOP HITTING CHEST;WAVE HITTING CHEST];ROTATION-WALLPLANE [",
    "SINGLE HITTING CHEST;DOUBLE HITTING CHEST;ALTERNATING HITTING CHEST];MOVEMENT-[WALLPLANE ",
    "WAVE DIAGONAL PATH [SMALL;MEDIUM;LARGE];FLOORPLANE [CURVE HITTING CEILING [SMALL;LARGE];",
    "HUMP HITTING CEILING [SMALL DOUBLE;LARGE DOUBLE;SMALL TRIPLE;LARGE TRIPLE];LOOP HITTING ",
    "CEILING [SMALL SINGLE;LARGE SINGLE;SMALL DOUBLE;LARGE DOUBLE];WAVE HITTING CEILING [SMALL;",
    "LARGE]]];ROTATION-FLOORPLANE [SINGLE HITTING CEILING;DOUBLE HITTING CEILING;ALTERNATING ",
    "HITTING CEILING];MOVEMENT-FLOORPLANE [CURVE HITTING FLOOR [SMALL;LARGE];HUMP HITTING ",
    "FLOOR [SMALL DOUBLE;LARGE DOUBLE;TRIPLE [SMALL TRIPLE;LARGE TRIPLE]];LOOP HITTING FLOOR [",
    "SMALL SINGLE;LARGE SINGLE;SMALL DOUBLE;LARGE DOUBLE];WAVE HITTING FLOOR [SMALL;LARGE]];",
    "ROTATION-FLOORPLANE [SINGLE HITTING FLOOR;DOUBLE HITTING FLOOR;ALTERNATING HITTING FLOOR];",
    "MOVEMENT-FLOORPLANE [CURVE [SMALL;MEDIUM;LARGE;LARGEST;COMBINED];HUMP SMALL;LOOP SMALL;",
    "WAVE [SNAKE;SMALL;LARGE]];ROTATION-FLOORPLANE [SINGLE;DOUBLE;ALTERNATING];MOVEMENT-[",
    "FLOORPLANE SHAKING PARALLEL;WALLPLANE ARM CIRCLE [SMALL SINGLE;MEDIUM SINGLE;SMALL DOUBLE;",
    "MEDIUM DOUBLE];FLOORPLANE ARM CIRCLE HITTING WALL [SMALL SINGLE;MEDIUM SINGLE;LARGE ",
    "SINGLE;SMALL DOUBLE;MEDIUM DOUBLE;LARGE DOUBLE];WALLPLANE WRIST CIRCLE FRONT [SINGLE;",
    "DOUBLE];FLOORPLANE WRIST CIRCLE HITTING WALL [SINGLE;DOUBLE];WALLPLANE FINGER CIRCLES [",
    "SINGLE;DOUBLE];FLOORPLANE FINGER CIRCLES HITTING WALL [SINGLE;DOUBLE]];DYNAMIC [ARROWHEAD ",
    "[SMALL;LARGE];FAST;SLOW;TENSE;RELAXED;SIMULTANEOUS;SIMULTANEOUS ALTERNATING;EVERY OTHER ",
    "TIME;GRADUAL];HEAD;HEAD [RIM;MOVEMENT-[WALLPLANE [STRAIGHT;TILT];FLOORPLANE STRAIGHT;",
    "WALLPLANE CURVE;FLOORPLANE CURVE];MOVEMENT CIRCLE];FACE DIRECTION POSITION NOSE [FORWARD ",
    "TILTING;UP OR [DOWN;DOWN TILTING]];EYEBROWS STRAIGHT [UP;NEUTRAL;DOWN];DREAMY EYEBROWS [",
    "NEUTRAL DOWN;DOWN NEUTRAL;UP NEUTRAL;NEUTRAL UP];FOREHEAD [NEUTRAL;CONTACT;WRINKLED];EYES ",
    "[OPEN;SQUEEZED;CLOSED];EYE BLINK [SINGLE;MULTIPLE];EYES [HALF OPEN;WIDE OPEN;HALF CLOSED;",
    "WIDENING MOVEMENT];EYE WINK;EYELASHES [UP;DOWN;FLUTTERING];EYEGAZE-[WALLPLANE [STRAIGHT;",
    "STRAIGHT [DOUBLE;ALTERNATING]];FLOORPLANE [STRAIGHT;STRAIGHT [DOUBLE;ALTERNATING]];",
    "WALLPLANE CURVED;FLOORPLANE CURVED;WALLPLANE CIRCLING];CHEEKS [PUFFED;NEUTRAL;SUCKED];",
    "TENSE CHEEKS [HIGH;MIDDLE;LOW];EARS;NOSE [NEUTRAL;CONTACT;WRINKLES;WIGGLES];AIR [BLOWING ",
    "OUT;SUCKING IN;BLOW SMALL ROTATIONS;SUCK SMALL ROTATIONS];BREATH [INHALE;EXHALE];MOUTH [",
    "CLOSED [NEUTRAL;FORWARD;CONTACT];SMILE;SMILE [WRINKLED;OPEN];FROWN;FROWN [WRINKLED;OPEN];",
    "OPEN [CIRCLE;FORWARD;WRINKLED;OVAL;OVAL [WRINKLED;YAWN];RECTANGLE;RECTANGLE [WRINKLED;",
    "YAWN]];KISS;KISS [FORWARD;WRINKLED];TENSE;TENSE [FORWARD;SUCKED]];LIPS PRESSED TOGETHER;",
    "LIP [LOWER OVER UPPER;UPPER OVER LOWER];MOUTH [CORNERS;WRINKLES [SINGLE;DOUBLE]];TONGUE [",
    "STICKING OUT FAR;LICKING LIPS;TIP [BETWEEN LIPS;TOUCHING INSIDE MOUTH];INSIDE MOUTH ",
    "RELAXED;MOVES AGAINST CHEEK;CENTRE [STICKING OUT;INSIDE MOUTH]];TEETH;TEETH [MOVEMENT;ON [",
    "TONGUE;TONGUE MOVEMENT;LIPS;LIPS MOVEMENT];BITE LIPS];MOVEMENT-[WALLPLANE JAW;FLOORPLANE ",
    "JAW];NECK;HAIR;EXCITEMENT;SHOULDER HIP [SPINE;POSITIONS];WALLPLANE SHOULDER HIP MOVE;",
    "FLOORPLANE SHOULDER HIP MOVE;SHOULDER TILTING FROM WAIST;TORSO-WALLPLANE [STRAIGHT ",
    "STRETCH;CURVED BEND];TORSO-FLOORPLANE TWISTING;UPPER BODY TILTING FROM HIP JOINTS;LIMB [",
    "COMBINATION;LENGTH-[1;2;3;4;5;6;7]];FINGER;LOCATION-[WALLPLANE SPACE;FLOORPLANE SPACE];",
    "LOCATION [HEIGHT;WIDTH;DEPTH;HEAD NECK;TORSO;LIMBS DIGITS];COMMA;FULL STOP;SEMICOLON;",
    "COLON;PARENTHESIS]"]),
  (0x1da9b, ["SIGNWRITING [FILL MODIFIER-[2;3;4;5;6];=;ROTATION MODIFIER-[2;3;4;5;6;7;8;9;10;",
    "11;12;13;14;15;16]]"]),
  (0x1df00, ["LATIN [SMALL LETTER [FENG DIGRAPH WITH TRILL;REVERSED SCRIPT G];LETTER SMALL ",
    "CAPITAL TURNED G;SMALL LETTER REVERSED K;LETTER SMALL CAPITAL L WITH BELT;SMALL LETTER [",
    "LEZH WITH RETROFLEX HOOK;TURNED Y WITH BELT;REVERSED ENG;TURNED R WITH LONG LEG AND ",
    "RETROFLEX HOOK;T WITH HOOK AND RETROFLEX HOOK];LETTER RETROFLEX CLICK WITH RETROFLEX HOOK;",
    "SMALL LETTER ESH WITH DOUBLE [BAR;BAR AND CURL];SMALL LETTER TURNED T WITH CURL;LETTER [",
    "INVERTED GLOTTAL STOP WITH CURL;STRETCHED C WITH CURL;SMALL CAPITAL TURNED K];SMALL ",
    "LETTER [L WITH FISHHOOK;DEZH DIGRAPH WITH PALATAL HOOK;L WITH BELT AND PALATAL HOOK;ENG ",
    "WITH PALATAL HOOK;TURNED R WITH PALATAL HOOK;R WITH FISHHOOK AND PALATAL HOOK;TESH ",
    "DIGRAPH WITH PALATAL HOOK;EZH WITH PALATAL HOOK;DEZH DIGRAPH WITH RETROFLEX HOOK;I WITH ",
    "STROKE AND RETROFLEX HOOK;O WITH RETROFLEX HOOK;TESH DIGRAPH WITH RETROFLEX HOOK;C WITH ",
    "RETROFLEX HOOK;S WITH CURL]]"]),
  (0x1e000, ["COMBINING GLAGOLITIC LETTER [AZU;BUKY;VEDE;GLAGOLI;DOBRO;YESTU;ZHIVETE;=;ZEMLJA;",
    "IZHE;INITIAL IZHE;I;DJERVI;KAKO;LJUDIJE;MYSLITE;NASHI;ONU;POKOJI;RITSI;SLOVO;TVRIDO;UKU;",
    "FRITU;HERU;=;=;SHTA;TSI;CHRIVI;SHA;YERU;YERI;YATI;=;YU;SMALL YUS;=;YO;IOTATED SMALL YUS;",
    "BIG YUS;IOTATED BIG YUS;FITA]"]),
  (0x1e100, ["NYIAKENG PUACHUE HMONG [LETTER [MA;TSA;NTA;TA;HA;NA;XA;NKA;CA;LA;SA;ZA;NCA;NTSA;",
    "KA;DA;NYA;NRA;VA;NTXA;TXA;FA;RA;QA;YA;NQA;PA;XYA;NPA;DLA;NPLA;HAH;MLA;PLA;GA;RRA;A;AA;I;U;",
    "O;OO;E;EE;W];=;=;=;TONE-[B;M;J;V;S;G;D];SIGN FOR [PERSON;THING;LOCATION;ANIMAL;",
    "INVERTEBRATE];SIGN XW XW;SYLLABLE LENGTHENER;=;=;DIGIT [ZERO;ONE;TWO;THREE;FOUR;FIVE;SIX;",
    "SEVEN;EIGHT;NINE];=;=;=;=;LOGOGRAM NYAJ;CIRCLED CA]"]),
  (0x1e290, ["TOTO LETTER [PA;BA;TA;DA;KA;GA;MA;NA;NGA;SA;CHA;YA;WA;JA;HA;RA;LA;I;BREATHY I;IU;",
    "BREATHY IU;U;E;BREATHY E;EO;BREATHY EO;O;AE;BREATHY AE;A];TOTO SIGN RISING TONE"]),
  (0x1e2c0, ["WANCHO LETTER [AA;A;BA;CA;DA;GA;YA;PHA;LA;NA;PA;TA;THA;FA;SA;SHA;JA;ZA;WA;VA;KA;",
    "O;AU;RA;MA;KHA;HA;E;I;NGA;U;LLHA;TSA;TRA;ONG;AANG;ANG;ING;ON;EN;AAN;NYA;UEN;YIH];WANCHO [",
    "TONE [TUP;TUPNI;KOI;KOINI];DIGIT [ZERO;ONE;TWO;THREE;FOUR;FIVE;SIX;SEVEN;EIGHT;NINE];=;=;",
    "=;=;=;NGUN SIGN]"]),
  (0x1e7e0, ["ETHIOPIC SYLLABLE [HHYA;HHYU;HHYI;HHYAA;HHYEE;HHYE;HHYO;=;GURAGE HHWA;HHWI;HHWEE;",
    "HHWE;=;GURAGE [MWI;MWEE;=;QWI;QWEE;QWE;BWI;BWEE;KWI;KWEE;KWE;GWI;GWEE;GWE;FWI;FWEE;PWI;",
    "PWEE]];=;MENDE KIKAKUI SYLLABLE M[001 KI;002 KA;003 KU;065 KEE;095 KE;076 KOO;048 KO;179 ",
    "KUA;004 WI;005 WA;006 WU;126 WEE;118 WE;114 WOO;045 WO;194 WUI;143 WEI;061 WVI;049 WVA;",
    "139 WVE;007 MIN;008 MAN;009 MUN;059 MEN;094 MON;154 MUAN;189 MUEN;010 BI;011 BA;012 BU;",
    "150 BEE;097 BE;103 BOO;138 BO;013 I;014 A;015 U;163 EE;100 E;165 OO;147 O;137 EI;131 IN;",
    "135 IN;195 AN;178 EN;019 SI;020 SA;021 SU;162 SEE;116 SE;136 SOO;079 SO;196 SIA;025 LI;",
    "026 LA;027 LU;084 LEE;073 LE;054 LOO;153 LO;110 LONG LE;016 DI;017 DA;018 DU;089 DEE;180 ",
    "DOO;181 DO;022 TI;023 TA;024 TU;091 TEE;055 TE;104 TOO;069 TO;028 JI;029 JA;030 JU;157 ",
    "JEE;113 JE;160 JOO;063 JO;175 LONG JO;031 YI;032 YA;033 YU;109 YEE;080 YE;141 YOO;121 YO;",
    "034 FI;035 FA;036 FU;078 FEE;075 FE;133 FOO;088 FO;197 FUA;101 FAN;037 NIN;038 NAN;039 ",
    "NUN;117 NEN;169 NON;176 HI;041 HA;186 HU;040 HEE;096 HE;042 HOO;140 HO;083 HEEI;128 HOOU;",
    "053 HIN;130 HAN;087 HUN;052 HEN;193 HON;046 HUAN;090 NGGI;043 NGGA;082 NGGU;115 NGGEE;146 ",
    "NGGE;156 NGGOO;120 NGGO;159 NGGAA;127 NGGUA;086 LONG NGGE;106 LONG NGGOO;183 LONG NGGO;",
    "155 GI;111 GA;168 GU;190 GEE;166 GUEI;167 GUAN;184 NGEN;057 NGON;177 NGUAN;068 PI;099 PA;",
    "050 PU;081 PEE;051 PE;102 POO;066 PO;145 MBI;062 MBA;122 MBU;047 MBEE;188 MBEE;072 MBE;",
    "172 MBOO;174 MBO;187 MBUU;161 LONG MBE;105 LONG MBOO;142 LONG MBO;132 KPI;092 KPA;074 KPU;",
    "044 KPEE;108 KPE;112 KPOO;158 KPO;124 GBI;056 GBA;148 GBU;093 GBEE;107 GBE;071 GBOO;070 ",
    "GBO;171 RA;123 NDI;129 NDA;125 NDU;191 NDEE;119 NDE;067 NDOO;064 NDO;152 NJA;192 NJU;149 ",
    "NJEE;134 NJOO;182 VI;185 VA;151 VU;173 VEE;085 VE;144 VOO;077 VO;164 NYIN;058 NYAN;170 ",
    "NYUN;098 NYEN;060 NYON];=;=;MENDE KIKAKUI [DIGIT [ONE;TWO;THREE;FOUR;FIVE;SIX;SEVEN;EIGHT;",
    "NINE];COMBINING NUMBER [TEENS;TENS;HUNDREDS;THOUSANDS;TEN THOUSANDS;HUNDRED THOUSANDS;",
    "MILLIONS]]"]),
  (0x1e900, ["ADLAM CAPITAL LETTER [ALIF;DAALI;LAAM;MIIM;BA;SINNYIIYHE;PE;BHE;RA;E;FA;I;O;DHA;",
    "YHE;WAW;NUN;KAF;YA;U;JIIM;CHI;HA;QAAF;GA;NYA;TU;NHA;VA;KHA;GBE;ZAL;KPO;SHA];ADLAM SMALL ",
    "LETTER [ALIF;DAALI;LAAM;MIIM;BA;SINNYIIYHE;PE;BHE;RA;E;FA;I;O;DHA;YHE;WAW;NUN;KAF;YA;U;",
    "JIIM;CHI;HA;QAAF;GA;NYA;TU;NHA;VA;KHA;GBE;ZAL;KPO;SHA];ADLAM [ALIF LENGTHENER;VOWEL ",
    "LENGTHENER;GEMINATION MARK;HAMZA;CONSONANT MODIFIER;GEMINATE CONSONANT MODIFIER;NUKTA;",
    "NASALIZATION MARK;=;=;=;=;DIGIT [ZERO;ONE;TWO;THREE;FOUR;FIVE;SIX;SEVEN;EIGHT;NINE];=;=;=;",
    "=;INITIAL [EXCLAMATION MARK;QUESTION MARK]]"]),
  (0x1ec71, ["INDIC SIYAQ NUMBER [ONE;TWO;THREE;FOUR;FIVE;SIX;SEVEN;EIGHT;NINE;TEN;TWENTY;",
    "THIRTY;FORTY;FIFTY;SIXTY;SEVENTY;EIGHTY;NINETY;ONE HUNDRED;TWO HUNDRED;THREE HUNDRED;FOUR ",
    "HUNDRED;FIVE HUNDRED;SIX HUNDRED;SEVEN HUNDRED;EIGHT HUNDRED;NINE HUNDRED;ONE THOUSAND;",
    "TWO THOUSAND;THREE THOUSAND;FOUR THOUSAND;FIVE THOUSAND;SIX THOUSAND;SEVEN THOUSAND;EIGHT ",
    "THOUSAND;NINE THOUSAND;TEN THOUSAND;TWENTY THOUSAND;THIRTY THOUSAND;FORTY THOUSAND;FIFTY ",
    "THOUSAND;SIXTY THOUSAND;SEVENTY THOUSAND;EIGHTY THOUSAND;NINETY THOUSAND;LAKH;LAKHAN];",
    "INDIC SIYAQ [LAKH MARK;NUMBER [KAROR;KARORAN;PREFIXED [ONE;TWO;THREE;FOUR;FIVE;SIX;SEVEN;",
    "EIGHT;NINE]];PLACEHOLDER;FRACTION [ONE [QUARTER;HALF];THREE QUARTERS];RUPEE MARK;NUMBER ",
    "ALTERNATE [ONE;TWO;TEN THOUSAND];ALTERNATE LAKH MARK]"]),
  (0x1ed01, ["OTTOMAN SIYAQ NUMBER [ONE;TWO;THREE;FOUR;FIVE;SIX;SEVEN;EIGHT;NINE;TEN;TWENTY;",
    "THIRTY;FORTY;FIFTY;SIXTY;SEVENTY;EIGHTY;NINETY;ONE HUNDRED;TWO HUNDRED;THREE HUNDRED;FOUR ",
    "HUNDRED;FIVE HUNDRED;SIX HUNDRED;SEVEN HUNDRED;EIGHT HUNDRED;NINE HUNDRED;ONE THOUSAND;",
    "TWO THOUSAND;THREE THOUSAND;FOUR THOUSAND;FIVE THOUSAND;SIX THOUSAND;SEVEN THOUSAND;EIGHT ",
    "THOUSAND;NINE THOUSAND;TEN THOUSAND;TWENTY THOUSAND;THIRTY THOUSAND;FORTY THOUSAND;FIFTY ",
    "THOUSAND;SIXTY THOUSAND;SEVENTY THOUSAND;EIGHTY THOUSAND;NINETY THOUSAND];OTTOMAN SIYAQ [",
    "MARRATAN;ALTERNATE NUMBER [TWO;THREE;FOUR;FIVE;SIX;SEVEN;EIGHT;NINE;TEN;FOUR HUNDRED;SIX ",
    "HUNDRED;TWO THOUSAND;TEN THOUSAND];FRACTION ONE [HALF;SIXTH]]"]),
  (0x1ee00, ["ARABIC MATHEMATICAL [ALEF;BEH;JEEM;DAL;=;WAW;ZAIN;HAH;TAH;YEH;KAF;LAM;MEEM;NOON;",
    "SEEN;AIN;FEH;SAD;QAF;REH;SHEEN;TEH;THEH;KHAH;THAL;DAD;ZAH;GHAIN;DOTLESS [BEH;NOON;FEH;",
    "QAF];=;INITIAL [BEH;JEEM;=;HEH;=;=;HAH;=;YEH;KAF;LAM;MEEM;NOON;SEEN;AIN;FEH;SAD;QAF;=;",
    "SHEEN;TEH;THEH;KHAH;=;DAD;=;GHAIN]]"]),
  (0x1ee42, ["ARABIC MATHEMATICAL [TAILED [JEEM;=;=;=;=;HAH;=;YEH;=;LAM;=;NOON;SEEN;AIN;=;SAD;",
    "QAF;=;SHEEN;=;=;KHAH;=;DAD;=;GHAIN;=;DOTLESS [NOON;=;QAF]];=;STRETCHED [BEH;JEEM;=;HEH;=;",
    "=;HAH;TAH;YEH;KAF;=;MEEM;NOON;SEEN;AIN;FEH;SAD;QAF;=;SHEEN;TEH;THEH;KHAH;=;DAD;ZAH;GHAIN;",
    "DOTLESS [BEH;=;FEH]];=;LOOPED [ALEF;BEH;JEEM;DAL;HEH;WAW;ZAIN;HAH;TAH;YEH;=;LAM;MEEM;NOON;",
    "SEEN;AIN;FEH;SAD;QAF;REH;SHEEN;TEH;THEH;KHAH;THAL;DAD;ZAH;GHAIN];=;=;=;=;=;DOUBLE-STRUCK [",
    "BEH;JEEM;DAL;=;WAW;ZAIN;HAH;TAH;YEH;=;LAM;MEEM;NOON;SEEN;AIN;FEH;SAD;QAF;REH;SHEEN;TEH;",
    "THEH;KHAH;THAL;DAD;ZAH;GHAIN]]"]),
  (0x1eef0, ["ARABIC MATHEMATICAL OPERATOR [MEEM WITH HAH WITH TATWEEL;HAH WITH DAL]"]),
  (0x1f000, ["MAHJONG TILE [EAST WIND;SOUTH WIND;WEST WIND;NORTH WIND;RED DRAGON;GREEN DRAGON;",
    "WHITE DRAGON;ONE OF CHARACTERS;TWO OF CHARACTERS;THREE OF CHARACTERS;FOUR OF CHARACTERS;",
    "FIVE OF CHARACTERS;SIX OF CHARACTERS;SEVEN OF CHARACTERS;EIGHT OF CHARACTERS;NINE OF ",
    "CHARACTERS;ONE OF BAMBOOS;TWO OF BAMBOOS;THREE OF BAMBOOS;FOUR OF BAMBOOS;FIVE OF BAMBOOS;",
    "SIX OF BAMBOOS;SEVEN OF BAMBOOS;EIGHT OF BAMBOOS;NINE OF BAMBOOS;ONE OF CIRCLES;TWO OF ",
    "CIRCLES;THREE OF CIRCLES;FOUR OF CIRCLES;FIVE OF CIRCLES;SIX OF CIRCLES;SEVEN OF CIRCLES;",
    "EIGHT OF CIRCLES;NINE OF CIRCLES;PLUM;ORCHID;BAMBOO;CHRYSANTHEMUM;SPRING;SUMMER;AUTUMN;",
    "WINTER;JOKER;BACK];=;=;=;=;DOMINO TILE [HORIZONTAL BACK;HORIZONTAL-[00-[00;01;02;03;04;05;",
    "06];01-[00;01;02;03;04;05;06];02-[00;01;02;03;04;05;06];03-[00;01;02;03;04;05;06];04-[00;",
    "01;02;03;04;05;06];05-[00;01;02;03;04;05;06];06-[00;01;02;03;04;05;06]];VERTICAL BACK;",
    "VERTICAL-[00-[00;01;02;03;04;05;06];01-[00;01;02;03;04;05;06];02-[00;01;02;03;04;05;06];",
    "03-[00;01;02;03;04;05;06];04-[00;01;02;03;04;05;06];05-[00;01;02;03;04;05;06];06-[00;01;",
    "02;03;04;05;06]]]"]),
  (0x1f0a0, ["PLAYING CARD [BACK;ACE OF SPADES;TWO OF SPADES;THREE OF SPADES;FOUR OF SPADES;",
    "FIVE OF SPADES;SIX OF SPADES;SEVEN OF SPADES;EIGHT OF SPADES;NINE OF SPADES;TEN OF SPADES;",
    "JACK OF SPADES;KNIGHT OF SPADES;QUEEN OF SPADES;KING OF SPADES;=;=;ACE OF HEARTS;TWO OF ",
    "HEARTS;THREE OF HEARTS;FOUR OF HEARTS;FIVE OF HEARTS;SIX OF HEARTS;SEVEN OF HEARTS;EIGHT ",
    "OF HEARTS;NINE OF HEARTS;TEN OF HEARTS;JACK OF HEARTS;KNIGHT OF HEARTS;QUEEN OF HEARTS;",
    "KING OF HEARTS;RED JOKER;=;ACE OF DIAMONDS;TWO OF DIAMONDS;THREE OF DIAMONDS;FOUR OF ",
    "DIAMONDS;FIVE OF DIAMONDS;SIX OF DIAMONDS;SEVEN OF DIAMONDS;EIGHT OF DIAMONDS;NINE OF ",
    "DIAMONDS;TEN OF DIAMONDS;JACK OF DIAMONDS;KNIGHT OF DIAMONDS;QUEEN OF DIAMONDS;KING OF ",
    "DIAMONDS;BLACK JOKER;=;ACE OF CLUBS;TWO OF CLUBS;THREE OF CLUBS;FOUR OF CLUBS;FIVE OF ",
    "CLUBS;SIX OF CLUBS;SEVEN OF CLUBS;EIGHT OF CLUBS;NINE OF CLUBS;TEN OF CLUBS;JACK OF CLUBS;",
    "KNIGHT OF CLUBS;QUEEN OF CLUBS;KING OF CLUBS;WHITE JOKER;FOOL;TRUMP-[1;2;3;4;5;6;7;8;9;10;",
    "11;12;13;14;15;16;17;18;19;20;21]]"]),
  (0x1f100, ["DIGIT [ZERO [FULL STOP;COMMA];ONE COMMA;TWO COMMA;THREE COMMA;FOUR COMMA;FIVE ",
    "COMMA;SIX COMMA;SEVEN COMMA;EIGHT COMMA;NINE COMMA];DINGBAT [CIRCLED SANS-SERIF DIGIT ",
    "ZERO;NEGATIVE CIRCLED SANS-SERIF DIGIT ZERO];CIRCLED [ZERO WITH SLASH;ANTICLOCKWISE ARROW;",
    "DOLLAR SIGN WITH OVERLAID BACKSLASH];PARENTHESIZED LATIN CAPITAL LETTER [A;B;C;D;E;F;G;H;",
    "I;J;K;L;M;N;O;P;Q;R;S;T;U;V;W;X;Y;Z];TORTOISE SHELL BRACKETED LATIN CAPITAL LETTER S;",
    "CIRCLED ITALIC LATIN CAPITAL LETTER [C;R];CIRCLED [CD;WZ];COPYLEFT SYMBOL;SQUARED LATIN ",
    "CAPITAL LETTER [A;B;C;D;E;F;G;H;I;J;K;L;M;N;O;P;Q;R;S;T;U;V;W;X;Y;Z];SQUARED [HV;MV;SD;SS;",
    "PPV;WC];NEGATIVE CIRCLED LATIN CAPITAL LETTER [A;B;C;D;E;F;G;H;I;J;K;L;M;N;O;P;Q;R;S;T;U;",
    "V;W;X;Y;Z];RAISED [MC SIGN;MD SIGN;MR SIGN];CIRCLED [CC;C WITH OVERLAID BACKSLASH;HUMAN ",
    "FIGURE];NEGATIVE SQUARED LATIN CAPITAL LETTER [A;B;C;D;E;F;G;H;I;J;K;L;M;N;O;P;Q;R;S;T;U;",
    "V;W;X;Y;Z];CROSSED NEGATIVE SQUARED LATIN CAPITAL LETTER P;NEGATIVE SQUARED [IC;PA;SA;AB;",
    "WC];SQUARE DJ;SQUARED [CL;COOL;FREE;ID;NEW;NG;OK;SOS;UP WITH EXCLAMATION MARK;VS;THREE D;",
    "SECOND SCREEN;TWO K;FOUR K;EIGHT K;FIVE POINT ONE;SEVEN POINT ONE;TWENTY-TWO POINT TWO;",
    "SIXTY P;ONE HUNDRED TWENTY P;LATIN SMALL LETTER D;HC;HDR;HI-RES;LOSSLESS;SHV;UHD;VOD];",
    "MASK WORK SYMBOL"]),
  (0x1f1e6, ["REGIONAL INDICATOR SYMBOL LETTER [A;B;C;D;E;F;G;H;I;J;K;L;M;N;O;P;Q;R;S;T;U;V;W;",
    "X;Y;Z];SQUARE HIRAGANA HOKA;SQUARED KATAKANA [KOKO;SA]"]),
  (0x1f210, ["SQUARED [CJK UNIFIED IDEOGRAPH-[624B;5B57;53CC];KATAKANA DE;CJK UNIFIED ",
    "IDEOGRAPH-[4E8C;591A;89E3;5929;4EA4;6620;7121;6599;524D;5F8C;518D;65B0;521D;7D42;751F;",
    "8CA9;58F0;5439;6F14;6295;6355;4E00;4E09;904A;5DE6;4E2D;53F3;6307;8D70;6253;7981;7A7A;5408;",
    "6E80;6709;6708;7533;5272;55B6;914D]];=;=;=;=;TORTOISE SHELL BRACKETED CJK UNIFIED ",
    "IDEOGRAPH-[672C;4E09;4E8C;5B89;70B9;6253;76D7;52DD;6557]"]),
  (0x1f250, ["CIRCLED IDEOGRAPH [ADVANTAGE;ACCEPT]"]),
  (0x1f260, ["ROUNDED SYMBOL FOR [FU;LU;SHOU;XI;SHUANGXI;CAI]"]),
  (0x1f300, ["CYCLONE;FOGGY;CLOSED UMBRELLA;NIGHT WITH STARS;SUNRISE OVER MOUNTAINS;SUNRISE;",
    "CITYSCAPE AT DUSK;SUNSET OVER BUILDINGS;RAINBOW;BRIDGE AT NIGHT;WATER WAVE;VOLCANO;MILKY ",
    "WAY;EARTH GLOBE [EUROPE-AFRICA;AMERICAS;ASIA-AUSTRALIA];GLOBE WITH MERIDIANS;NEW MOON ",
    "SYMBOL;WAXING CRESCENT MOON SYMBOL;FIRST QUARTER MOON SYMBOL;WAXING GIBBOUS MOON SYMBOL;",
    "FULL MOON SYMBOL;WANING GIBBOUS MOON SYMBOL;LAST QUARTER MOON SYMBOL;WANING CRESCENT MOON ",
    "SYMBOL;CRESCENT MOON;NEW MOON WITH FACE;FIRST QUARTER MOON WITH FACE;LAST QUARTER MOON ",
    "WITH FACE;FULL MOON WITH FACE;SUN WITH FACE;GLOWING STAR;SHOOTING STAR;THERMOMETER;BLACK ",
    "DROPLET;WHITE [SUN;SUN [WITH SMALL CLOUD;BEHIND [CLOUD;CLOUD WITH RAIN]]];CLOUD WITH [",
    "RAIN;SNOW;LIGHTNING;TORNADO];FOG;WIND BLOWING FACE;HOT DOG;TACO;BURRITO;CHESTNUT;SEEDLING;",
    "EVERGREEN TREE;DECIDUOUS TREE;PALM TREE;CACTUS;HOT PEPPER;TULIP;CHERRY BLOSSOM;ROSE;",
    "HIBISCUS;SUNFLOWER;BLOSSOM;EAR OF [MAIZE;RICE];HERB;FOUR LEAF CLOVER;MAPLE LEAF;FALLEN ",
    "LEAF;LEAF FLUTTERING IN WIND;MUSHROOM;TOMATO;AUBERGINE;GRAPES;MELON;WATERMELON;TANGERINE;",
    "LEMON;BANANA;PINEAPPLE;RED APPLE;GREEN APPLE;PEAR;PEACH;CHERRIES;STRAWBERRY;HAMBURGER;",
    "SLICE OF PIZZA;MEAT ON BONE;POULTRY LEG;RICE [CRACKER;BALL];COOKED RICE;CURRY AND RICE;",
    "STEAMING BOWL;SPAGHETTI;BREAD;FRENCH FRIES;ROASTED SWEET POTATO;DANGO;ODEN;SUSHI;FRIED ",
    "SHRIMP;FISH CAKE WITH SWIRL DESIGN;SOFT ICE CREAM;SHAVED ICE;ICE CREAM;DOUGHNUT;COOKIE;",
    "CHOCOLATE BAR;CANDY;LOLLIPOP;CUSTARD;HONEY POT;SHORTCAKE;BENTO BOX;POT OF FOOD;COOKING;",
    "FORK AND KNIFE;TEACUP WITHOUT HANDLE;SAKE BOTTLE AND CUP;WINE GLASS;COCKTAIL GLASS;",
    "TROPICAL DRINK;BEER MUG;CLINKING BEER MUGS;BABY BOTTLE;FORK AND KNIFE WITH PLATE;BOTTLE ",
    "WITH POPPING CORK;POPCORN;RIBBON;WRAPPED PRESENT;BIRTHDAY CAKE;JACK-O-LANTERN;CHRISTMAS ",
    "TREE;FATHER CHRISTMAS;FIREWORKS;FIREWORK SPARKLER;BALLOON;PARTY POPPER;CONFETTI BALL;",
    "TANABATA TREE;CROSSED FLAGS;PINE DECORATION;JAPANESE DOLLS;CARP STREAMER;WIND CHIME;MOON ",
    "VIEWING CEREMONY;SCHOOL SATCHEL;GRADUATION CAP;HEART WITH TIP ON THE LEFT;BOUQUET OF ",
    "FLOWERS;MILITARY MEDAL;REMINDER RIBBON;MUSICAL KEYBOARD WITH JACKS;STUDIO MICROPHONE;",
    "LEVEL SLIDER;CONTROL KNOBS;BEAMED [ASCENDING MUSICAL NOTES;DESCENDING MUSICAL NOTES];FILM ",
    "FRAMES;ADMISSION TICKETS;CAROUSEL HORSE;FERRIS WHEEL;ROLLER COASTER;FISHING POLE AND FISH;",
    "MICROPHONE;MOVIE CAMERA;CINEMA;HEADPHONE;ARTIST PALETTE;TOP HAT;CIRCUS TENT;TICKET;",
    "CLAPPER BOARD;PERFORMING ARTS;VIDEO GAME;DIRECT HIT;SLOT MACHINE;BILLIARDS;GAME DIE;",
    "BOWLING;FLOWER PLAYING CARDS;MUSICAL NOTE;MULTIPLE MUSICAL NOTES;SAXOPHONE;GUITAR;MUSICAL ",
    "KEYBOARD;TRUMPET;VIOLIN;MUSICAL SCORE;RUNNING SHIRT WITH SASH;TENNIS RACQUET AND BALL;SKI ",
    "AND SKI BOOT;BASKETBALL AND HOOP;CHEQUERED FLAG;SNOWBOARDER;RUNNER;SURFER;SPORTS MEDAL;",
    "TROPHY;HORSE RACING;AMERICAN FOOTBALL;RUGBY FOOTBALL;SWIMMER;WEIGHT LIFTER;GOLFER;RACING [",
    "MOTORCYCLE;CAR];CRICKET BAT AND BALL;VOLLEYBALL;FIELD HOCKEY STICK AND BALL;ICE HOCKEY ",
    "STICK AND PUCK;TABLE TENNIS PADDLE AND BALL;SNOW CAPPED MOUNTAIN;CAMPING;BEACH WITH ",
    "UMBRELLA;BUILDING CONSTRUCTION;HOUSE BUILDINGS;CITYSCAPE;DERELICT HOUSE BUILDING;",
    "CLASSICAL BUILDING;DESERT;DESERT ISLAND;NATIONAL PARK;STADIUM;HOUSE [BUILDING;WITH ",
    "GARDEN];OFFICE BUILDING;JAPANESE POST OFFICE;EUROPEAN POST OFFICE;HOSPITAL;BANK;AUTOMATED ",
    "TELLER MACHINE;HOTEL;LOVE HOTEL;CONVENIENCE STORE;SCHOOL;DEPARTMENT STORE;FACTORY;IZAKAYA ",
    "LANTERN;JAPANESE CASTLE;EUROPEAN CASTLE;WHITE PENNANT;BLACK PENNANT;WAVING [WHITE FLAG;",
    "BLACK FLAG];ROSETTE;BLACK ROSETTE;LABEL;BADMINTON RACQUET AND SHUTTLECOCK;BOW AND ARROW;",
    "AMPHORA;EMOJI MODIFIER FITZPATRICK TYPE-[1-2;3;4;5;6];RAT;MOUSE;OX;WATER BUFFALO;COW;",
    "TIGER;LEOPARD;RABBIT;CAT;DRAGON;CROCODILE;WHALE;SNAIL;SNAKE;HORSE;RAM;GOAT;SHEEP;MONKEY;",
    "ROOSTER;CHICKEN;DOG;PIG;BOAR;ELEPHANT;OCTOPUS;SPIRAL SHELL;BUG;ANT;HONEYBEE;LADY BEETLE;",
    "FISH;TROPICAL FISH;BLOWFISH;TURTLE;HATCHING CHICK;BABY CHICK;FRONT-FACING BABY CHICK;BIRD;",
    "PENGUIN;KOALA;POODLE;DROMEDARY CAMEL;BACTRIAN CAMEL;DOLPHIN;MOUSE FACE;COW FACE;TIGER ",
    "FACE;RABBIT FACE;CAT FACE;DRAGON FACE;SPOUTING WHALE;HORSE FACE;MONKEY FACE;DOG FACE;PIG ",
    "FACE;FROG FACE;HAMSTER FACE;WOLF FACE;BEAR FACE;PANDA FACE;PIG NOSE;PAW PRINTS;CHIPMUNK;",
    "EYES;EYE;EAR;NOSE;MOUTH;TONGUE;WHITE [UP POINTING BACKHAND INDEX;DOWN POINTING BACKHAND ",
    "INDEX;LEFT POINTING BACKHAND INDEX;RIGHT POINTING BACKHAND INDEX];FISTED HAND SIGN;WAVING ",
    "HAND SIGN;OK HAND SIGN;THUMBS [UP SIGN;DOWN SIGN];CLAPPING HANDS SIGN;OPEN HANDS SIGN;",
    "CROWN;WOMANS HAT;EYEGLASSES;NECKTIE;T-SHIRT;JEANS;DRESS;KIMONO;BIKINI;WOMANS CLOTHES;",
    "PURSE;HANDBAG;POUCH;MANS SHOE;ATHLETIC SHOE;HIGH-HEELED SHOE;WOMANS [SANDAL;BOOTS];",
    "FOOTPRINTS;BUST IN SILHOUETTE;BUSTS IN SILHOUETTE;BOY;GIRL;MAN;WOMAN;FAMILY;MAN AND WOMAN ",
    "HOLDING HANDS;TWO [MEN HOLDING HANDS;WOMEN HOLDING HANDS];POLICE OFFICER;WOMAN WITH BUNNY ",
    "EARS;BRIDE WITH VEIL;PERSON WITH BLOND HAIR;MAN WITH [GUA PI MAO;TURBAN];OLDER [MAN;",
    "WOMAN];BABY;CONSTRUCTION WORKER;PRINCESS;JAPANESE [OGRE;GOBLIN];GHOST;BABY ANGEL;",
    "EXTRATERRESTRIAL ALIEN;ALIEN MONSTER;IMP;SKULL;INFORMATION DESK PERSON;GUARDSMAN;DANCER;",
    "LIPSTICK;NAIL POLISH;FACE MASSAGE;HAIRCUT;BARBER POLE;SYRINGE;PILL;KISS MARK;LOVE LETTER;",
    "RING;GEM STONE;KISS;BOUQUET;COUPLE WITH HEART;WEDDING;BEATING HEART;BROKEN HEART;TWO ",
    "HEARTS;SPARKLING HEART;GROWING HEART;HEART WITH ARROW;BLUE HEART;GREEN HEART;YELLOW HEART;",
    "PURPLE HEART;HEART WITH RIBBON;REVOLVING HEARTS;HEART DECORATION;DIAMOND SHAPE WITH A DOT ",
    "INSIDE;ELECTRIC LIGHT BULB;ANGER SYMBOL;BOMB;SLEEPING SYMBOL;COLLISION SYMBOL;SPLASHING ",
    "SWEAT SYMBOL;DROPLET;DASH SYMBOL;PILE OF POO;FLEXED BICEPS;DIZZY SYMBOL;SPEECH BALLOON;",
    "THOUGHT BALLOON;WHITE FLOWER;HUNDRED POINTS SYMBOL;MONEY BAG;CURRENCY EXCHANGE;HEAVY ",
    "DOLLAR SIGN;CREDIT CARD;BANKNOTE WITH [YEN SIGN;DOLLAR SIGN;EURO SIGN;POUND SIGN];MONEY ",
    "WITH WINGS;CHART WITH UPWARDS TREND AND YEN SIGN;SEAT;PERSONAL COMPUTER;BRIEFCASE;",
    "MINIDISC;FLOPPY DISK;OPTICAL DISC;DVD;FILE FOLDER;OPEN FILE FOLDER;PAGE [WITH CURL;FACING ",
    "UP];CALENDAR;TEAR-OFF CALENDAR;CARD INDEX;CHART WITH [UPWARDS TREND;DOWNWARDS TREND];BAR ",
    "CHART;CLIPBOARD;PUSHPIN;ROUND PUSHPIN;PAPERCLIP;STRAIGHT RULER;TRIANGULAR RULER;BOOKMARK ",
    "TABS;LEDGER;NOTEBOOK;NOTEBOOK WITH DECORATIVE COVER;CLOSED BOOK;OPEN BOOK;GREEN BOOK;BLUE ",
    "BOOK;ORANGE BOOK;BOOKS;NAME BADGE;SCROLL;MEMO;TELEPHONE RECEIVER;PAGER;FAX MACHINE;",
    "SATELLITE ANTENNA;PUBLIC ADDRESS LOUDSPEAKER;CHEERING MEGAPHONE;OUTBOX TRAY;INBOX TRAY;",
    "PACKAGE;E-MAIL SYMBOL;INCOMING ENVELOPE;ENVELOPE WITH DOWNWARDS ARROW ABOVE;CLOSED ",
    "MAILBOX WITH [LOWERED FLAG;RAISED FLAG];OPEN MAILBOX WITH [RAISED FLAG;LOWERED FLAG];",
    "POSTBOX;POSTAL HORN;NEWSPAPER;MOBILE [PHONE;PHONE WITH RIGHTWARDS ARROW AT LEFT];",
    "VIBRATION MODE;MOBILE PHONE OFF;NO MOBILE PHONES;ANTENNA WITH BARS;CAMERA;CAMERA WITH ",
    "FLASH;VIDEO CAMERA;TELEVISION;RADIO;VIDEOCASSETTE;FILM PROJECTOR;PORTABLE STEREO;PRAYER ",
    "BEADS;TWISTED RIGHTWARDS ARROWS;CLOCKWISE RIGHTWARDS AND LEFTWARDS OPEN CIRCLE [ARROWS;",
    "ARROWS WITH CIRCLED ONE OVERLAY];CLOCKWISE DOWNWARDS AND UPWARDS OPEN CIRCLE ARROWS;",
    "ANTICLOCKWISE DOWNWARDS AND UPWARDS OPEN CIRCLE ARROWS;LOW BRIGHTNESS SYMBOL;HIGH ",
    "BRIGHTNESS SYMBOL;SPEAKER WITH CANCELLATION STROKE;SPEAKER;SPEAKER WITH [ONE SOUND WAVE;",
    "THREE SOUND WAVES];BATTERY;ELECTRIC PLUG;LEFT-POINTING MAGNIFYING GLASS;RIGHT-POINTING ",
    "MAGNIFYING GLASS;LOCK WITH INK PEN;CLOSED LOCK WITH KEY;KEY;LOCK;OPEN LOCK;BELL;BELL WITH ",
    "CANCELLATION STROKE;BOOKMARK;LINK SYMBOL;RADIO BUTTON;BACK WITH LEFTWARDS ARROW ABOVE;END ",
    "WITH LEFTWARDS ARROW ABOVE;ON WITH EXCLAMATION MARK WITH LEFT RIGHT ARROW ABOVE;SOON WITH ",
    "RIGHTWARDS ARROW ABOVE;TOP WITH UPWARDS ARROW ABOVE;NO ONE UNDER EIGHTEEN SYMBOL;KEYCAP ",
    "TEN;INPUT SYMBOL FOR [LATIN [CAPITAL LETTERS;SMALL LETTERS];NUMBERS;SYMBOLS;LATIN ",
    "LETTERS];FIRE;ELECTRIC TORCH;WRENCH;HAMMER;NUT AND BOLT;HOCHO;PISTOL;MICROSCOPE;TELESCOPE;",
    "CRYSTAL BALL;SIX POINTED STAR WITH MIDDLE DOT;JAPANESE SYMBOL FOR BEGINNER;TRIDENT EMBLEM;",
    "BLACK SQUARE BUTTON;WHITE SQUARE BUTTON;LARGE [RED CIRCLE;BLUE CIRCLE;ORANGE DIAMOND;BLUE ",
    "DIAMOND];SMALL [ORANGE DIAMOND;BLUE DIAMOND];UP-POINTING RED TRIANGLE;DOWN-POINTING RED ",
    "TRIANGLE;UP-POINTING SMALL RED TRIANGLE;DOWN-POINTING SMALL RED TRIANGLE;LOWER RIGHT ",
    "SHADOWED WHITE CIRCLE;UPPER RIGHT SHADOWED WHITE CIRCLE;CIRCLED CROSS POMMEE;CROSS [",
    "POMMEE WITH HALF-CIRCLE BELOW;POMMEE];NOTCHED [LEFT SEMICIRCLE WITH THREE DOTS;RIGHT ",
    "SEMICIRCLE WITH THREE DOTS];SYMBOL FOR MARKS CHAPTER;WHITE LATIN CROSS;HEAVY LATIN CROSS;",
    "CELTIC CROSS;OM SYMBOL;DOVE OF PEACE;KAABA;MOSQUE;SYNAGOGUE;MENORAH WITH NINE BRANCHES;",
    "BOWL OF HYGIEIA;CLOCK FACE [ONE OCLOCK;TWO OCLOCK;THREE OCLOCK;FOUR OCLOCK;FIVE OCLOCK;",
    "SIX OCLOCK;SEVEN OCLOCK;EIGHT OCLOCK;NINE OCLOCK;TEN OCLOCK;ELEVEN OCLOCK;TWELVE OCLOCK;",
    "ONE-THIRTY;TWO-THIRTY;THREE-THIRTY;FOUR-THIRTY;FIVE-THIRTY;SIX-THIRTY;SEVEN-THIRTY;",
    "EIGHT-THIRTY;NINE-THIRTY;TEN-THIRTY;ELEVEN-THIRTY;TWELVE-THIRTY];RIGHT [SPEAKER;SPEAKER ",
    "WITH [ONE SOUND WAVE;THREE SOUND WAVES]];BULLHORN;BULLHORN WITH SOUND WAVES;RINGING BELL;",
    "BOOK;CANDLE;MANTELPIECE CLOCK;BLACK SKULL AND CROSSBONES;NO PIRACY;HOLE;MAN IN BUSINESS ",
    "SUIT LEVITATING;SLEUTH OR SPY;DARK SUNGLASSES;SPIDER;SPIDER WEB;JOYSTICK;MAN DANCING;LEFT ",
    "HAND TELEPHONE RECEIVER;TELEPHONE RECEIVER WITH PAGE;RIGHT HAND TELEPHONE RECEIVER;WHITE ",
    "TOUCHTONE TELEPHONE;BLACK TOUCHTONE TELEPHONE;TELEPHONE ON TOP OF MODEM;CLAMSHELL MOBILE ",
    "PHONE;BACK OF ENVELOPE;STAMPED ENVELOPE;ENVELOPE WITH LIGHTNING;FLYING ENVELOPE;PEN OVER ",
    "STAMPED ENVELOPE;LINKED PAPERCLIPS;BLACK PUSHPIN;LOWER LEFT [PENCIL;BALLPOINT PEN;",
    "FOUNTAIN PEN;PAINTBRUSH;CRAYON];LEFT WRITING HAND;TURNED OK HAND SIGN;RAISED HAND WITH ",
    "FINGERS SPLAYED;REVERSED [RAISED HAND WITH FINGERS SPLAYED;THUMBS [UP SIGN;DOWN SIGN];",
    "VICTORY HAND;HAND WITH MIDDLE FINGER EXTENDED];RAISED HAND WITH PART BETWEEN MIDDLE AND ",
    "RING FINGERS;WHITE DOWN POINTING LEFT HAND INDEX;SIDEWAYS [WHITE [LEFT POINTING INDEX;",
    "RIGHT POINTING INDEX];BLACK [LEFT POINTING INDEX;RIGHT POINTING INDEX]];BLACK [LEFT ",
    "POINTING BACKHAND INDEX;RIGHT POINTING BACKHAND INDEX];SIDEWAYS [WHITE [UP POINTING INDEX;",
    "DOWN POINTING INDEX];BLACK [UP POINTING INDEX;DOWN POINTING INDEX]];BLACK [UP POINTING ",
    "BACKHAND INDEX;DOWN POINTING BACKHAND INDEX;HEART];DESKTOP COMPUTER;KEYBOARD AND MOUSE;",
    "THREE NETWORKED COMPUTERS;PRINTER;POCKET CALCULATOR;BLACK HARD SHELL FLOPPY DISK;WHITE ",
    "HARD SHELL FLOPPY DISK;SOFT SHELL FLOPPY DISK;TAPE CARTRIDGE;WIRED KEYBOARD;ONE BUTTON ",
    "MOUSE;TWO BUTTON MOUSE;THREE BUTTON MOUSE;TRACKBALL;OLD PERSONAL COMPUTER;HARD DISK;",
    "SCREEN;PRINTER ICON;FAX ICON;OPTICAL DISC ICON;DOCUMENT WITH [TEXT;TEXT AND PICTURE;",
    "PICTURE];FRAME WITH [PICTURE;TILES;AN X];BLACK FOLDER;FOLDER;OPEN FOLDER;CARD [INDEX ",
    "DIVIDERS;FILE BOX];FILE CABINET;EMPTY [NOTE;NOTE [PAGE;PAD]];NOTE;NOTE [PAGE;PAD];EMPTY [",
    "DOCUMENT;PAGE;PAGES];DOCUMENT;PAGE;PAGES;WASTEBASKET;SPIRAL [NOTE PAD;CALENDAR PAD];",
    "DESKTOP WINDOW;MINIMIZE;MAXIMIZE;OVERLAP;CLOCKWISE RIGHT AND LEFT SEMICIRCLE ARROWS;",
    "CANCELLATION X;INCREASE FONT SIZE SYMBOL;DECREASE FONT SIZE SYMBOL;COMPRESSION;OLD KEY;",
    "ROLLED-UP NEWSPAPER;PAGE WITH CIRCLED TEXT;STOCK CHART;DAGGER KNIFE;LIPS;SPEAKING HEAD IN ",
    "SILHOUETTE;THREE RAYS [ABOVE;BELOW;LEFT;RIGHT];LEFT SPEECH BUBBLE;RIGHT SPEECH BUBBLE;TWO ",
    "SPEECH BUBBLES;THREE SPEECH BUBBLES;LEFT THOUGHT BUBBLE;RIGHT THOUGHT BUBBLE;LEFT ANGER ",
    "BUBBLE;RIGHT ANGER BUBBLE;MOOD BUBBLE;LIGHTNING [MOOD BUBBLE;MOOD];BALLOT [BOX WITH ",
    "BALLOT;SCRIPT X;BOX WITH SCRIPT X;BOLD SCRIPT X;BOX WITH BOLD SCRIPT X];LIGHT CHECK MARK;",
    "BALLOT BOX WITH BOLD CHECK;WORLD MAP;MOUNT FUJI;TOKYO TOWER;STATUE OF LIBERTY;SILHOUETTE ",
    "OF JAPAN;MOYAI;GRINNING [FACE;FACE WITH SMILING EYES];FACE WITH TEARS OF JOY;SMILING FACE ",
    "WITH [OPEN [MOUTH;MOUTH AND [SMILING EYES;COLD SWEAT;TIGHTLY-CLOSED EYES]];HALO;HORNS];",
    "WINKING FACE;SMILING FACE WITH SMILING EYES;FACE SAVOURING DELICIOUS FOOD;RELIEVED FACE;",
    "SMILING FACE WITH [HEART-SHAPED EYES;SUNGLASSES];SMIRKING FACE;NEUTRAL FACE;",
    "EXPRESSIONLESS FACE;UNAMUSED FACE;FACE WITH COLD SWEAT;PENSIVE FACE;CONFUSED FACE;",
    "CONFOUNDED FACE;KISSING FACE;FACE THROWING A KISS;KISSING FACE WITH [SMILING EYES;CLOSED ",
    "EYES];FACE WITH STUCK-OUT [TONGUE;TONGUE AND [WINKING EYE;TIGHTLY-CLOSED EYES]];",
    "DISAPPOINTED FACE;WORRIED FACE;ANGRY FACE;POUTING FACE;CRYING FACE;PERSEVERING FACE;FACE ",
    "WITH LOOK OF TRIUMPH;DISAPPOINTED BUT RELIEVED FACE;FROWNING FACE WITH OPEN MOUTH;",
    "ANGUISHED FACE;FEARFUL FACE;WEARY FACE;SLEEPY FACE;TIRED FACE;GRIMACING FACE;LOUDLY ",
    "CRYING FACE;FACE WITH OPEN MOUTH;HUSHED FACE;FACE [WITH OPEN MOUTH AND COLD SWEAT;",
    "SCREAMING IN FEAR];ASTONISHED FACE;FLUSHED FACE;SLEEPING FACE;DIZZY FACE;FACE [WITHOUT ",
    "MOUTH;WITH MEDICAL MASK];GRINNING CAT FACE WITH SMILING EYES;CAT FACE WITH TEARS OF JOY;",
    "SMILING CAT FACE WITH [OPEN MOUTH;HEART-SHAPED EYES];CAT FACE WITH WRY SMILE;KISSING CAT ",
    "FACE WITH CLOSED EYES;POUTING CAT FACE;CRYING CAT FACE;WEARY CAT FACE;SLIGHTLY [FROWNING ",
    "FACE;SMILING FACE];UPSIDE-DOWN FACE;FACE WITH [ROLLING EYES;NO GOOD GESTURE;OK GESTURE];",
    "PERSON BOWING DEEPLY;SEE-NO-EVIL MONKEY;HEAR-NO-EVIL MONKEY;SPEAK-NO-EVIL MONKEY;HAPPY ",
    "PERSON RAISING ONE HAND;PERSON [RAISING BOTH HANDS IN CELEBRATION;FROWNING;WITH [POUTING ",
    "FACE;FOLDED HANDS]];NORTH WEST POINTING LEAF;SOUTH WEST POINTING LEAF;NORTH EAST POINTING ",
    "LEAF;SOUTH EAST POINTING LEAF;TURNED [NORTH WEST POINTING LEAF;SOUTH WEST POINTING LEAF;",
    "NORTH EAST POINTING LEAF;SOUTH EAST POINTING LEAF];NORTH WEST POINTING VINE LEAF;SOUTH ",
    "WEST POINTING VINE LEAF;NORTH EAST POINTING VINE LEAF;SOUTH EAST POINTING VINE LEAF;HEAVY ",
    "[NORTH WEST POINTING VINE LEAF;SOUTH WEST POINTING VINE LEAF;NORTH EAST POINTING VINE ",
    "LEAF;SOUTH EAST POINTING VINE LEAF];NORTH WEST POINTING BUD;SOUTH WEST POINTING BUD;NORTH ",
    "EAST POINTING BUD;SOUTH EAST POINTING BUD;HEAVY [NORTH WEST POINTING BUD;SOUTH WEST ",
    "POINTING BUD;NORTH EAST POINTING BUD;SOUTH EAST POINTING BUD];HOLLOW QUILT SQUARE [",
    "ORNAMENT;ORNAMENT IN BLACK SQUARE];SOLID QUILT SQUARE [ORNAMENT;ORNAMENT IN BLACK SQUARE];",
    "LEFTWARDS ROCKET;UPWARDS ROCKET;RIGHTWARDS ROCKET;DOWNWARDS ROCKET;SCRIPT LIGATURE ET ",
    "ORNAMENT;HEAVY SCRIPT LIGATURE ET ORNAMENT;LIGATURE OPEN ET ORNAMENT;HEAVY [LIGATURE OPEN ",
    "ET ORNAMENT;AMPERSAND ORNAMENT];SWASH AMPERSAND ORNAMENT;SANS-SERIF HEAVY [DOUBLE [TURNED ",
    "COMMA QUOTATION MARK ORNAMENT;COMMA QUOTATION MARK ORNAMENT];LOW DOUBLE COMMA QUOTATION ",
    "MARK ORNAMENT];HEAVY INTERROBANG ORNAMENT;SANS-SERIF INTERROBANG ORNAMENT;HEAVY ",
    "SANS-SERIF INTERROBANG ORNAMENT;VERY HEAVY [SOLIDUS;REVERSE SOLIDUS];CHECKER BOARD;",
    "REVERSE CHECKER BOARD;ROCKET;HELICOPTER;STEAM LOCOMOTIVE;RAILWAY CAR;HIGH-SPEED [TRAIN;",
    "TRAIN WITH BULLET NOSE];TRAIN;METRO;LIGHT RAIL;STATION;TRAM;TRAM CAR;BUS;ONCOMING BUS;",
    "TROLLEYBUS;BUS STOP;MINIBUS;AMBULANCE;FIRE ENGINE;POLICE CAR;ONCOMING POLICE CAR;TAXI;",
    "ONCOMING TAXI;AUTOMOBILE;ONCOMING AUTOMOBILE;RECREATIONAL VEHICLE;DELIVERY TRUCK;",
    "ARTICULATED LORRY;TRACTOR;MONORAIL;MOUNTAIN RAILWAY;SUSPENSION RAILWAY;MOUNTAIN CABLEWAY;",
    "AERIAL TRAMWAY;SHIP;ROWBOAT;SPEEDBOAT;HORIZONTAL TRAFFIC LIGHT;VERTICAL TRAFFIC LIGHT;",
    "CONSTRUCTION SIGN;POLICE CARS REVOLVING LIGHT;TRIANGULAR FLAG ON POST;DOOR;NO ENTRY SIGN;",
    "SMOKING SYMBOL;NO SMOKING SYMBOL;PUT LITTER IN ITS PLACE SYMBOL;DO NOT LITTER SYMBOL;",
    "POTABLE WATER SYMBOL;NON-POTABLE WATER SYMBOL;BICYCLE;NO BICYCLES;BICYCLIST;MOUNTAIN ",
    "BICYCLIST;PEDESTRIAN;NO PEDESTRIANS;CHILDREN CROSSING;MENS SYMBOL;WOMENS SYMBOL;RESTROOM;",
    "BABY SYMBOL;TOILET;WATER CLOSET;SHOWER;BATH;BATHTUB;PASSPORT CONTROL;CUSTOMS;BAGGAGE ",
    "CLAIM;LEFT LUGGAGE;TRIANGLE WITH ROUNDED CORNERS;PROHIBITED SIGN;CIRCLED INFORMATION ",
    "SOURCE;BOYS SYMBOL;GIRLS SYMBOL;COUCH AND LAMP;SLEEPING ACCOMMODATION;SHOPPING BAGS;",
    "BELLHOP BELL;BED;PLACE OF WORSHIP;OCTAGONAL SIGN;SHOPPING TROLLEY;STUPA;PAGODA;HINDU ",
    "TEMPLE;HUT;ELEVATOR;=;=;=;=;=;PLAYGROUND SLIDE;WHEEL;RING BUOY;HAMMER AND WRENCH;SHIELD;",
    "OIL DRUM;MOTORWAY;RAILWAY TRACK;MOTOR BOAT;UP-POINTING [MILITARY AIRPLANE;AIRPLANE;SMALL ",
    "AIRPLANE];SMALL AIRPLANE;NORTHEAST-POINTING AIRPLANE;AIRPLANE [DEPARTURE;ARRIVING];=;=;=;",
    "SATELLITE;ONCOMING FIRE ENGINE;DIESEL LOCOMOTIVE;PASSENGER SHIP;SCOOTER;MOTOR SCOOTER;",
    "CANOE;SLED;FLYING SAUCER;SKATEBOARD;AUTO RICKSHAW;PICKUP TRUCK;ROLLER SKATE;=;=;=;",
    "ALCHEMICAL SYMBOL FOR [QUINTESSENCE;AIR;FIRE;EARTH;WATER;AQUAFORTIS;AQUA [REGIA;REGIA-2;",
    "VITAE;VITAE-2];VINEGAR;VINEGAR-[2;3];SULFUR;PHILOSOPHERS SULFUR;BLACK SULFUR;MERCURY [",
    "SUBLIMATE;SUBLIMATE-[2;3]];CINNABAR;SALT;NITRE;VITRIOL;VITRIOL-2;ROCK [SALT;SALT-2];GOLD;",
    "SILVER;IRON [ORE;ORE-2];CROCUS OF IRON;REGULUS OF IRON;COPPER ORE;IRON-COPPER ORE;",
    "SUBLIMATE OF COPPER;CROCUS OF [COPPER;COPPER-2];COPPER ANTIMONIATE;SALT OF COPPER ",
    "ANTIMONIATE;SUBLIMATE OF SALT OF COPPER;VERDIGRIS;TIN ORE;LEAD ORE;ANTIMONY ORE;SUBLIMATE ",
    "OF ANTIMONY;SALT OF ANTIMONY;SUBLIMATE OF SALT OF ANTIMONY;VINEGAR OF ANTIMONY;REGULUS OF ",
    "[ANTIMONY;ANTIMONY-2];REGULUS;REGULUS-[2;3;4];ALKALI;ALKALI-2;MARCASITE;SAL-AMMONIAC;",
    "ARSENIC;REALGAR;REALGAR-2;AURIPIGMENT;BISMUTH ORE;TARTAR;TARTAR-2;QUICK LIME;BORAX;BORAX-[",
    "2;3];ALUM;OIL;SPIRIT;TINCTURE;GUM;WAX;POWDER;CALX;TUTTY;CAPUT MORTUUM;SCEPTER OF JOVE;",
    "CADUCEUS;TRIDENT;STARRED TRIDENT;LODESTONE;SOAP;URINE;HORSE DUNG;ASHES;POT ASHES;BRICK;",
    "POWDERED BRICK;AMALGAM;STRATUM SUPER [STRATUM;STRATUM-2];SUBLIMATION;PRECIPITATE;DISTILL;",
    "DISSOLVE;DISSOLVE-2;PURIFY;PUTREFACTION;CRUCIBLE;CRUCIBLE-[2;3;4;5];ALEMBIC;BATH OF [MARY;",
    "VAPOURS];RETORT;HOUR;NIGHT;DAY-NIGHT;MONTH;HALF [DRAM;OUNCE]]"]),
  (0x1f780, ["BLACK [LEFT-POINTING ISOSCELES RIGHT TRIANGLE;UP-POINTING ISOSCELES RIGHT ",
    "TRIANGLE;RIGHT-POINTING ISOSCELES RIGHT TRIANGLE;DOWN-POINTING ISOSCELES RIGHT TRIANGLE;",
    "SLIGHTLY SMALL CIRCLE];MEDIUM BOLD WHITE CIRCLE;BOLD WHITE CIRCLE;HEAVY WHITE CIRCLE;VERY ",
    "HEAVY WHITE CIRCLE;EXTREMELY HEAVY WHITE CIRCLE;WHITE CIRCLE CONTAINING BLACK SMALL ",
    "CIRCLE;ROUND TARGET;BLACK [TINY SQUARE;SLIGHTLY SMALL SQUARE];LIGHT WHITE SQUARE;MEDIUM ",
    "WHITE SQUARE;BOLD WHITE SQUARE;HEAVY WHITE SQUARE;VERY HEAVY WHITE SQUARE;EXTREMELY HEAVY ",
    "WHITE SQUARE;WHITE SQUARE CONTAINING BLACK [VERY SMALL SQUARE;MEDIUM SQUARE];SQUARE ",
    "TARGET;BLACK [TINY DIAMOND;VERY SMALL DIAMOND;MEDIUM SMALL DIAMOND];WHITE DIAMOND ",
    "CONTAINING BLACK [VERY SMALL DIAMOND;MEDIUM DIAMOND];DIAMOND TARGET;BLACK [TINY LOZENGE;",
    "VERY SMALL LOZENGE;MEDIUM SMALL LOZENGE];WHITE LOZENGE CONTAINING BLACK SMALL LOZENGE;",
    "THIN GREEK CROSS;LIGHT GREEK CROSS;MEDIUM GREEK CROSS;BOLD GREEK CROSS;VERY [BOLD GREEK ",
    "CROSS;HEAVY GREEK CROSS];EXTREMELY HEAVY GREEK CROSS;THIN SALTIRE;LIGHT SALTIRE;MEDIUM ",
    "SALTIRE;BOLD SALTIRE;HEAVY SALTIRE;VERY HEAVY SALTIRE;EXTREMELY HEAVY SALTIRE;LIGHT FIVE ",
    "SPOKED ASTERISK;MEDIUM FIVE SPOKED ASTERISK;BOLD FIVE SPOKED ASTERISK;HEAVY FIVE SPOKED ",
    "ASTERISK;VERY HEAVY FIVE SPOKED ASTERISK;EXTREMELY HEAVY FIVE SPOKED ASTERISK;LIGHT SIX ",
    "SPOKED ASTERISK;MEDIUM SIX SPOKED ASTERISK;BOLD SIX SPOKED ASTERISK;HEAVY SIX SPOKED ",
    "ASTERISK;VERY HEAVY SIX SPOKED ASTERISK;EXTREMELY HEAVY SIX SPOKED ASTERISK;LIGHT EIGHT ",
    "SPOKED ASTERISK;MEDIUM EIGHT SPOKED ASTERISK;BOLD EIGHT SPOKED ASTERISK;HEAVY EIGHT ",
    "SPOKED ASTERISK;VERY HEAVY EIGHT SPOKED ASTERISK;LIGHT THREE POINTED BLACK STAR;MEDIUM ",
    "THREE POINTED BLACK STAR;THREE POINTED BLACK STAR;MEDIUM THREE POINTED PINWHEEL STAR;",
    "LIGHT FOUR POINTED BLACK STAR;MEDIUM FOUR POINTED BLACK STAR;FOUR POINTED BLACK STAR;",
    "MEDIUM FOUR POINTED PINWHEEL STAR;REVERSE LIGHT FOUR POINTED PINWHEEL STAR;LIGHT FIVE ",
    "POINTED BLACK STAR;HEAVY FIVE POINTED BLACK STAR;MEDIUM SIX POINTED BLACK STAR;HEAVY SIX ",
    "POINTED BLACK STAR;SIX POINTED PINWHEEL STAR;MEDIUM EIGHT POINTED BLACK STAR;HEAVY EIGHT ",
    "POINTED BLACK STAR;VERY HEAVY EIGHT POINTED BLACK STAR;HEAVY EIGHT POINTED PINWHEEL STAR;",
    "LIGHT TWELVE POINTED BLACK STAR;HEAVY TWELVE POINTED [BLACK STAR;PINWHEEL STAR];CIRCLED ",
    "TRIANGLE;NEGATIVE CIRCLED TRIANGLE;CIRCLED SQUARE;NEGATIVE CIRCLED SQUARE"]),
  (0x1f7e0, ["LARGE [ORANGE CIRCLE;YELLOW CIRCLE;GREEN CIRCLE;PURPLE CIRCLE;BROWN CIRCLE;RED ",
    "SQUARE;BLUE SQUARE;ORANGE SQUARE;YELLOW SQUARE;GREEN SQUARE;PURPLE SQUARE;BROWN SQUARE];=;",
    "=;=;=;HEAVY EQUALS SIGN"]),
  (0x1f800, ["LEFTWARDS ARROW WITH SMALL TRIANGLE ARROWHEAD;UPWARDS ARROW WITH SMALL TRIANGLE ",
    "ARROWHEAD;RIGHTWARDS ARROW WITH SMALL TRIANGLE ARROWHEAD;DOWNWARDS ARROW WITH SMALL ",
    "TRIANGLE ARROWHEAD;LEFTWARDS ARROW WITH MEDIUM TRIANGLE ARROWHEAD;UPWARDS ARROW WITH ",
    "MEDIUM TRIANGLE ARROWHEAD;RIGHTWARDS ARROW WITH MEDIUM TRIANGLE ARROWHEAD;DOWNWARDS ARROW ",
    "WITH MEDIUM TRIANGLE ARROWHEAD;LEFTWARDS ARROW WITH LARGE TRIANGLE ARROWHEAD;UPWARDS ",
    "ARROW WITH LARGE TRIANGLE ARROWHEAD;RIGHTWARDS ARROW WITH LARGE TRIANGLE ARROWHEAD;",
    "DOWNWARDS ARROW WITH LARGE TRIANGLE ARROWHEAD;=;=;=;=;LEFTWARDS ARROW WITH SMALL ",
    "EQUILATERAL ARROWHEAD;UPWARDS ARROW WITH SMALL EQUILATERAL ARROWHEAD;RIGHTWARDS ARROW ",
    "WITH SMALL EQUILATERAL ARROWHEAD;DOWNWARDS ARROW WITH SMALL EQUILATERAL ARROWHEAD;",
    "LEFTWARDS ARROW WITH EQUILATERAL ARROWHEAD;UPWARDS ARROW WITH EQUILATERAL ARROWHEAD;",
    "RIGHTWARDS ARROW WITH EQUILATERAL ARROWHEAD;DOWNWARDS ARROW WITH EQUILATERAL ARROWHEAD;",
    "HEAVY [LEFTWARDS ARROW WITH EQUILATERAL ARROWHEAD;UPWARDS ARROW WITH EQUILATERAL ",
    "ARROWHEAD;RIGHTWARDS ARROW WITH EQUILATERAL ARROWHEAD;DOWNWARDS ARROW WITH EQUILATERAL ",
    "ARROWHEAD;LEFTWARDS ARROW WITH LARGE EQUILATERAL ARROWHEAD;UPWARDS ARROW WITH LARGE ",
    "EQUILATERAL ARROWHEAD;RIGHTWARDS ARROW WITH LARGE EQUILATERAL ARROWHEAD;DOWNWARDS ARROW ",
    "WITH LARGE EQUILATERAL ARROWHEAD];LEFTWARDS TRIANGLE-HEADED ARROW WITH NARROW SHAFT;",
    "UPWARDS TRIANGLE-HEADED ARROW WITH NARROW SHAFT;RIGHTWARDS TRIANGLE-HEADED ARROW WITH ",
    "NARROW SHAFT;DOWNWARDS TRIANGLE-HEADED ARROW WITH NARROW SHAFT;LEFTWARDS TRIANGLE-HEADED ",
    "ARROW WITH MEDIUM SHAFT;UPWARDS TRIANGLE-HEADED ARROW WITH MEDIUM SHAFT;RIGHTWARDS ",
    "TRIANGLE-HEADED ARROW WITH MEDIUM SHAFT;DOWNWARDS TRIANGLE-HEADED ARROW WITH MEDIUM SHAFT;",
    "LEFTWARDS TRIANGLE-HEADED ARROW WITH BOLD SHAFT;UPWARDS TRIANGLE-HEADED ARROW WITH BOLD ",
    "SHAFT;RIGHTWARDS TRIANGLE-HEADED ARROW WITH BOLD SHAFT;DOWNWARDS TRIANGLE-HEADED ARROW ",
    "WITH BOLD SHAFT;LEFTWARDS TRIANGLE-HEADED ARROW WITH HEAVY SHAFT;UPWARDS TRIANGLE-HEADED ",
    "ARROW WITH HEAVY SHAFT;RIGHTWARDS TRIANGLE-HEADED ARROW WITH HEAVY SHAFT;DOWNWARDS ",
    "TRIANGLE-HEADED ARROW WITH HEAVY SHAFT;LEFTWARDS TRIANGLE-HEADED ARROW WITH VERY HEAVY ",
    "SHAFT;UPWARDS TRIANGLE-HEADED ARROW WITH VERY HEAVY SHAFT;RIGHTWARDS TRIANGLE-HEADED ",
    "ARROW WITH VERY HEAVY SHAFT;DOWNWARDS TRIANGLE-HEADED ARROW WITH VERY HEAVY SHAFT;",
    "LEFTWARDS FINGER-POST ARROW;UPWARDS FINGER-POST ARROW;RIGHTWARDS FINGER-POST ARROW;",
    "DOWNWARDS FINGER-POST ARROW;LEFTWARDS SQUARED ARROW;UPWARDS SQUARED ARROW;RIGHTWARDS ",
    "SQUARED ARROW;DOWNWARDS SQUARED ARROW;LEFTWARDS COMPRESSED ARROW;UPWARDS COMPRESSED ARROW;",
    "RIGHTWARDS COMPRESSED ARROW;DOWNWARDS COMPRESSED ARROW;LEFTWARDS HEAVY COMPRESSED ARROW;",
    "UPWARDS HEAVY COMPRESSED ARROW;RIGHTWARDS HEAVY COMPRESSED ARROW;DOWNWARDS HEAVY ",
    "COMPRESSED ARROW;LEFTWARDS HEAVY ARROW;UPWARDS HEAVY ARROW;RIGHTWARDS HEAVY ARROW;",
    "DOWNWARDS HEAVY ARROW"]),
  (0x1f850, ["LEFTWARDS SANS-SERIF ARROW;UPWARDS SANS-SERIF ARROW;RIGHTWARDS SANS-SERIF ARROW;",
    "DOWNWARDS SANS-SERIF ARROW;NORTH [WEST SANS-SERIF ARROW;EAST SANS-SERIF ARROW];SOUTH [",
    "EAST SANS-SERIF ARROW;WEST SANS-SERIF ARROW];LEFT RIGHT SANS-SERIF ARROW;UP DOWN ",
    "SANS-SERIF ARROW"]),
  (0x1f860, ["WIDE-HEADED [LEFTWARDS LIGHT BARB ARROW;UPWARDS LIGHT BARB ARROW;RIGHTWARDS ",
    "LIGHT BARB ARROW;DOWNWARDS LIGHT BARB ARROW;NORTH [WEST LIGHT BARB ARROW;EAST LIGHT BARB ",
    "ARROW];SOUTH [EAST LIGHT BARB ARROW;WEST LIGHT BARB ARROW];LEFTWARDS BARB ARROW;UPWARDS ",
    "BARB ARROW;RIGHTWARDS BARB ARROW;DOWNWARDS BARB ARROW;NORTH [WEST BARB ARROW;EAST BARB ",
    "ARROW];SOUTH [EAST BARB ARROW;WEST BARB ARROW];LEFTWARDS MEDIUM BARB ARROW;UPWARDS MEDIUM ",
    "BARB ARROW;RIGHTWARDS MEDIUM BARB ARROW;DOWNWARDS MEDIUM BARB ARROW;NORTH [WEST MEDIUM ",
    "BARB ARROW;EAST MEDIUM BARB ARROW];SOUTH [EAST MEDIUM BARB ARROW;WEST MEDIUM BARB ARROW];",
    "LEFTWARDS HEAVY BARB ARROW;UPWARDS HEAVY BARB ARROW;RIGHTWARDS HEAVY BARB ARROW;DOWNWARDS ",
    "HEAVY BARB ARROW;NORTH [WEST HEAVY BARB ARROW;EAST HEAVY BARB ARROW];SOUTH [EAST HEAVY ",
    "BARB ARROW;WEST HEAVY BARB ARROW];LEFTWARDS VERY HEAVY BARB ARROW;UPWARDS VERY HEAVY BARB ",
    "ARROW;RIGHTWARDS VERY HEAVY BARB ARROW;DOWNWARDS VERY HEAVY BARB ARROW;NORTH [WEST VERY ",
    "HEAVY BARB ARROW;EAST VERY HEAVY BARB ARROW];SOUTH [EAST VERY HEAVY BARB ARROW;WEST VERY ",
    "HEAVY BARB ARROW]]"]),
  (0x1f890, ["LEFTWARDS TRIANGLE ARROWHEAD;UPWARDS TRIANGLE ARROWHEAD;RIGHTWARDS TRIANGLE ",
    "ARROWHEAD;DOWNWARDS TRIANGLE ARROWHEAD;LEFTWARDS WHITE ARROW WITHIN TRIANGLE ARROWHEAD;",
    "UPWARDS WHITE ARROW WITHIN TRIANGLE ARROWHEAD;RIGHTWARDS WHITE ARROW WITHIN TRIANGLE ",
    "ARROWHEAD;DOWNWARDS WHITE ARROW WITHIN TRIANGLE ARROWHEAD;LEFTWARDS ARROW WITH NOTCHED ",
    "TAIL;UPWARDS ARROW WITH NOTCHED TAIL;RIGHTWARDS ARROW WITH NOTCHED TAIL;DOWNWARDS ARROW ",
    "WITH NOTCHED TAIL;HEAVY ARROW SHAFT WIDTH [ONE;TWO THIRDS;ONE [HALF;THIRD]];LEFTWARDS ",
    "BOTTOM-SHADED WHITE ARROW;RIGHTWARDS BOTTOM SHADED WHITE ARROW;LEFTWARDS TOP SHADED WHITE ",
    "ARROW;RIGHTWARDS TOP SHADED WHITE ARROW;LEFTWARDS LEFT-SHADED WHITE ARROW;RIGHTWARDS ",
    "RIGHT-SHADED WHITE ARROW;LEFTWARDS RIGHT-SHADED WHITE ARROW;RIGHTWARDS LEFT-SHADED WHITE ",
    "ARROW;LEFTWARDS BACK-TILTED SHADOWED WHITE ARROW;RIGHTWARDS BACK-TILTED SHADOWED WHITE ",
    "ARROW;LEFTWARDS FRONT-TILTED SHADOWED WHITE ARROW;RIGHTWARDS FRONT-TILTED SHADOWED WHITE ",
    "ARROW;WHITE ARROW SHAFT WIDTH [ONE;TWO THIRDS];=;=;ARROW POINTING [UPWARDS THEN NORTH ",
    "WEST;RIGHTWARDS THEN CURVING SOUTH WEST]"]),
  (0x1f900, ["CIRCLED CROSS [FORMEE WITH [FOUR DOTS;TWO DOTS];FORMEE];LEFT HALF CIRCLE WITH [",
    "FOUR DOTS;THREE DOTS;TWO DOTS;DOT];LEFT HALF CIRCLE;DOWNWARD FACING [HOOK;NOTCHED HOOK;",
    "HOOK WITH DOT;NOTCHED HOOK WITH DOT];PINCHED FINGERS;WHITE HEART;BROWN HEART;PINCHING ",
    "HAND;ZIPPER-MOUTH FACE;MONEY-MOUTH FACE;FACE WITH THERMOMETER;NERD FACE;THINKING FACE;",
    "FACE WITH HEAD-BANDAGE;ROBOT FACE;HUGGING FACE;SIGN OF THE HORNS;CALL ME HAND;RAISED BACK ",
    "OF HAND;LEFT-FACING FIST;RIGHT-FACING FIST;HANDSHAKE;HAND WITH INDEX AND MIDDLE FINGERS ",
    "CROSSED;I LOVE YOU HAND SIGN;FACE WITH COWBOY HAT;CLOWN FACE;NAUSEATED FACE;ROLLING ON ",
    "THE FLOOR LAUGHING;DROOLING FACE;LYING FACE;FACE PALM;SNEEZING FACE;FACE WITH ONE EYEBROW ",
    "RAISED;GRINNING FACE WITH [STAR EYES;ONE LARGE AND ONE SMALL EYE];FACE WITH FINGER ",
    "COVERING CLOSED LIPS;SERIOUS FACE WITH SYMBOLS COVERING MOUTH;SMILING FACE WITH SMILING ",
    "EYES AND HAND COVERING MOUTH;FACE WITH OPEN MOUTH VOMITING;SHOCKED FACE WITH EXPLODING ",
    "HEAD;PREGNANT WOMAN;BREAST-FEEDING;PALMS UP TOGETHER;SELFIE;PRINCE;MAN IN TUXEDO;MOTHER ",
    "CHRISTMAS;SHRUG;PERSON DOING CARTWHEEL;JUGGLING;FENCER;MODERN PENTATHLON;WRESTLERS;WATER ",
    "POLO;HANDBALL;DIVING MASK;WILTED FLOWER;DRUM WITH DRUMSTICKS;CLINKING GLASSES;TUMBLER ",
    "GLASS;SPOON;GOAL NET;RIFLE;FIRST PLACE MEDAL;SECOND PLACE MEDAL;THIRD PLACE MEDAL;BOXING ",
    "GLOVE;MARTIAL ARTS UNIFORM;CURLING STONE;LACROSSE STICK AND BALL;SOFTBALL;FLYING DISC;",
    "CROISSANT;AVOCADO;CUCUMBER;BACON;POTATO;CARROT;BAGUETTE BREAD;GREEN SALAD;SHALLOW PAN OF ",
    "FOOD;STUFFED FLATBREAD;EGG;GLASS OF MILK;PEANUTS;KIWIFRUIT;PANCAKES;DUMPLING;FORTUNE ",
    "COOKIE;TAKEOUT BOX;CHOPSTICKS;BOWL WITH SPOON;CUP WITH STRAW;COCONUT;BROCCOLI;PIE;PRETZEL;",
    "CUT OF MEAT;SANDWICH;CANNED FOOD;LEAFY GREEN;MANGO;MOON CAKE;BAGEL;SMILING FACE WITH ",
    "SMILING EYES AND THREE HEARTS;YAWNING FACE;SMILING FACE WITH TEAR;FACE WITH [PARTY HORN ",
    "AND PARTY HAT;UNEVEN EYES AND WAVY MOUTH];OVERHEATED FACE;FREEZING FACE;NINJA;DISGUISED ",
    "FACE;FACE [HOLDING BACK TEARS;WITH PLEADING EYES];SARI;LAB COAT;GOGGLES;HIKING BOOT;FLAT ",
    "SHOE;CRAB;LION FACE;SCORPION;TURKEY;UNICORN FACE;EAGLE;DUCK;BAT;SHARK;OWL;FOX FACE;",
    "BUTTERFLY;DEER;GORILLA;LIZARD;RHINOCEROS;SHRIMP;SQUID;GIRAFFE FACE;ZEBRA FACE;HEDGEHOG;",
    "SAUROPOD;T-REX;CRICKET;KANGAROO;LLAMA;PEACOCK;HIPPOPOTAMUS;PARROT;RACCOON;LOBSTER;",
    "MOSQUITO;MICROBE;BADGER;SWAN;MAMMOTH;DODO;SLOTH;OTTER;ORANGUTAN;SKUNK;FLAMINGO;OYSTER;",
    "BEAVER;BISON;SEAL;GUIDE DOG;PROBING CANE;EMOJI COMPONENT [RED HAIR;CURLY HAIR;BALD;WHITE ",
    "HAIR];BONE;LEG;FOOT;TOOTH;SUPERHERO;SUPERVILLAIN;SAFETY VEST;EAR WITH HEARING AID;",
    "MOTORIZED WHEELCHAIR;MANUAL WHEELCHAIR;MECHANICAL [ARM;LEG];CHEESE WEDGE;CUPCAKE;SALT ",
    "SHAKER;BEVERAGE BOX;GARLIC;ONION;FALAFEL;WAFFLE;BUTTER;MATE DRINK;ICE CUBE;BUBBLE TEA;",
    "TROLL;STANDING PERSON;KNEELING PERSON;DEAF PERSON;FACE WITH MONOCLE;ADULT;CHILD;OLDER ",
    "ADULT;BEARDED PERSON;PERSON [WITH HEADSCARF;IN STEAMY ROOM;CLIMBING;IN LOTUS POSITION];",
    "MAGE;FAIRY;VAMPIRE;MERPERSON;ELF;GENIE;ZOMBIE;BRAIN;ORANGE HEART;BILLED CAP;SCARF;GLOVES;",
    "COAT;SOCKS;RED GIFT ENVELOPE;FIRECRACKER;JIGSAW PUZZLE PIECE;TEST TUBE;PETRI DISH;DNA ",
    "DOUBLE HELIX;COMPASS;ABACUS;FIRE EXTINGUISHER;TOOLBOX;BRICK;MAGNET;LUGGAGE;LOTION BOTTLE;",
    "SPOOL OF THREAD;BALL OF YARN;SAFETY PIN;TEDDY BEAR;BROOM;BASKET;ROLL OF PAPER;BAR OF SOAP;",
    "SPONGE;RECEIPT;NAZAR AMULET;NEUTRAL CHESS [KING;QUEEN;ROOK;BISHOP;KNIGHT;PAWN];WHITE ",
    "CHESS KNIGHT ROTATED FORTY-FIVE DEGREES;BLACK CHESS KNIGHT ROTATED FORTY-FIVE DEGREES;",
    "NEUTRAL CHESS KNIGHT ROTATED FORTY-FIVE DEGREES;WHITE CHESS [KING ROTATED NINETY DEGREES;",
    "QUEEN ROTATED NINETY DEGREES;ROOK ROTATED NINETY DEGREES;BISHOP ROTATED NINETY DEGREES;",
    "KNIGHT ROTATED NINETY DEGREES;PAWN ROTATED NINETY DEGREES];BLACK CHESS [KING ROTATED ",
    "NINETY DEGREES;QUEEN ROTATED NINETY DEGREES;ROOK ROTATED NINETY DEGREES;BISHOP ROTATED ",
    "NINETY DEGREES;KNIGHT ROTATED NINETY DEGREES;PAWN ROTATED NINETY DEGREES];NEUTRAL CHESS [",
    "KING ROTATED NINETY DEGREES;QUEEN ROTATED NINETY DEGREES;ROOK ROTATED NINETY DEGREES;",
    "BISHOP ROTATED NINETY DEGREES;KNIGHT ROTATED NINETY DEGREES;PAWN ROTATED NINETY DEGREES];",
    "WHITE CHESS KNIGHT ROTATED ONE HUNDRED THIRTY-FIVE DEGREES;BLACK CHESS KNIGHT ROTATED ONE ",
    "HUNDRED THIRTY-FIVE DEGREES;NEUTRAL CHESS KNIGHT ROTATED ONE HUNDRED THIRTY-FIVE DEGREES;",
    "WHITE CHESS TURNED [KING;QUEEN;ROOK;BISHOP;KNIGHT;PAWN];BLACK CHESS TURNED [KING;QUEEN;",
    "ROOK;BISHOP;KNIGHT;PAWN];NEUTRAL CHESS TURNED [KING;QUEEN;ROOK;BISHOP;KNIGHT;PAWN];WHITE ",
    "CHESS KNIGHT ROTATED TWO HUNDRED TWENTY-FIVE DEGREES;BLACK CHESS KNIGHT ROTATED TWO ",
    "HUNDRED TWENTY-FIVE DEGREES;NEUTRAL CHESS KNIGHT ROTATED TWO HUNDRED TWENTY-FIVE DEGREES;",
    "WHITE CHESS [KING ROTATED TWO HUNDRED SEVENTY DEGREES;QUEEN ROTATED TWO HUNDRED SEVENTY ",
    "DEGREES;ROOK ROTATED TWO HUNDRED SEVENTY DEGREES;BISHOP ROTATED TWO HUNDRED SEVENTY ",
    "DEGREES;KNIGHT ROTATED TWO HUNDRED SEVENTY DEGREES;PAWN ROTATED TWO HUNDRED SEVENTY ",
    "DEGREES];BLACK CHESS [KING ROTATED TWO HUNDRED SEVENTY DEGREES;QUEEN ROTATED TWO HUNDRED ",
    "SEVENTY DEGREES;ROOK ROTATED TWO HUNDRED SEVENTY DEGREES;BISHOP ROTATED TWO HUNDRED ",
    "SEVENTY DEGREES;KNIGHT ROTATED TWO HUNDRED SEVENTY DEGREES;PAWN ROTATED TWO HUNDRED ",
    "SEVENTY DEGREES];NEUTRAL CHESS [KING ROTATED TWO HUNDRED SEVENTY DEGREES;QUEEN ROTATED ",
    "TWO HUNDRED SEVENTY DEGREES;ROOK ROTATED TWO HUNDRED SEVENTY DEGREES;BISHOP ROTATED TWO ",
    "HUNDRED SEVENTY DEGREES;KNIGHT ROTATED TWO HUNDRED SEVENTY DEGREES;PAWN ROTATED TWO ",
    "HUNDRED SEVENTY DEGREES];WHITE CHESS KNIGHT ROTATED THREE HUNDRED FIFTEEN DEGREES;BLACK ",
    "CHESS KNIGHT ROTATED THREE HUNDRED FIFTEEN DEGREES;NEUTRAL CHESS KNIGHT ROTATED THREE ",
    "HUNDRED FIFTEEN DEGREES;WHITE CHESS EQUIHOPPER;BLACK CHESS EQUIHOPPER;NEUTRAL CHESS ",
    "EQUIHOPPER;WHITE CHESS EQUIHOPPER ROTATED NINETY DEGREES;BLACK CHESS EQUIHOPPER ROTATED ",
    "NINETY DEGREES;NEUTRAL CHESS EQUIHOPPER ROTATED NINETY DEGREES;WHITE CHESS KNIGHT-[QUEEN;",
    "ROOK;BISHOP];BLACK CHESS KNIGHT-[QUEEN;ROOK;BISHOP]"]),
  (0x1fa60, ["XIANGQI [RED [GENERAL;MANDARIN;ELEPHANT;HORSE;CHARIOT;CANNON;SOLDIER];BLACK [",
    "GENERAL;MANDARIN;ELEPHANT;HORSE;CHARIOT;CANNON;SOLDIER]];=;=;BALLET SHOES;ONE-PIECE ",
    "SWIMSUIT;BRIEFS;SHORTS;THONG SANDAL;=;=;=;DROP OF BLOOD;ADHESIVE BANDAGE;STETHOSCOPE;",
    "X-RAY;CRUTCH;=;=;=;YO-YO;KITE;PARACHUTE;BOOMERANG;MAGIC WAND;PINATA;NESTING DOLLS"]),
  (0x1fa90, ["RINGED PLANET;CHAIR;RAZOR;AXE;DIYA LAMP;BANJO;MILITARY HELMET;ACCORDION;LONG ",
    "DRUM;COIN;CARPENTRY SAW;SCREWDRIVER;LADDER;HOOK;MIRROR;WINDOW;PLUNGER;SEWING NEEDLE;KNOT;",
    "BUCKET;MOUSE TRAP;TOOTHBRUSH;HEADSTONE;PLACARD;ROCK;MIRROR BALL;IDENTIFICATION CARD;LOW ",
    "BATTERY;HAMSA;=;=;=;FLY;WORM;BEETLE;COCKROACH;POTTED PLANT;WOOD;FEATHER;LOTUS;CORAL;EMPTY ",
    "NEST;NEST WITH EGGS;=;=;=;=;=;ANATOMICAL HEART;LUNGS;PEOPLE HUGGING;PREGNANT [MAN;PERSON];",
    "PERSON WITH CROWN"]),
  (0x1fad0, ["BLUEBERRIES;BELL PEPPER;OLIVE;FLATBREAD;TAMALE;FONDUE;TEAPOT;POURING LIQUID;",
    "BEANS;JAR"]),
  (0x1fae0, ["MELTING FACE;SALUTING FACE;FACE WITH [OPEN EYES AND HAND OVER MOUTH;PEEKING EYE;",
    "DIAGONAL MOUTH];DOTTED LINE FACE;BITING LIP;BUBBLES"]),
  (0x1faf0, ["HAND WITH INDEX FINGER AND THUMB CROSSED;RIGHTWARDS HAND;LEFTWARDS HAND;PALM [",
    "DOWN HAND;UP HAND];INDEX POINTING AT THE VIEWER;HEART HANDS"]),
  (0x1fb00, ["BLOCK SEXTANT-[1;2;12;3;13;23;123;4;14;24;124;34;134;234;1234;5;15;25;125;35;235;",
    "1235;45;145;245;1245;345;1345;2345;12345;6;16;26;126;36;136;236;1236;46;146;1246;346;1346;",
    "2346;12346;56;156;256;1256;356;1356;2356;12356;456;1456;2456;12456;3456;13456;23456];",
    "LOWER [LEFT BLOCK DIAGONAL [LOWER MIDDLE LEFT TO LOWER [CENTRE;RIGHT];UPPER MIDDLE LEFT ",
    "TO LOWER [CENTRE;RIGHT];UPPER LEFT TO LOWER CENTRE];RIGHT BLOCK DIAGONAL [UPPER MIDDLE ",
    "LEFT TO UPPER [CENTRE;RIGHT];LOWER [MIDDLE LEFT TO UPPER [CENTRE;RIGHT];LEFT TO UPPER ",
    "CENTRE;MIDDLE LEFT TO UPPER MIDDLE RIGHT;CENTRE TO LOWER MIDDLE RIGHT;LEFT TO LOWER ",
    "MIDDLE RIGHT;CENTRE TO UPPER MIDDLE RIGHT;LEFT TO UPPER MIDDLE RIGHT;CENTRE TO UPPER ",
    "RIGHT]];LEFT BLOCK DIAGONAL UPPER [CENTRE TO UPPER MIDDLE RIGHT;LEFT TO UPPER MIDDLE ",
    "RIGHT;CENTRE TO LOWER MIDDLE RIGHT;LEFT TO LOWER MIDDLE RIGHT;CENTRE TO LOWER RIGHT;",
    "MIDDLE LEFT TO LOWER MIDDLE RIGHT]];UPPER [RIGHT BLOCK DIAGONAL [LOWER MIDDLE LEFT TO ",
    "LOWER [CENTRE;RIGHT];UPPER MIDDLE LEFT TO LOWER [CENTRE;RIGHT];UPPER LEFT TO LOWER ",
    "CENTRE];LEFT BLOCK DIAGONAL [UPPER MIDDLE LEFT TO UPPER [CENTRE;RIGHT];LOWER [MIDDLE LEFT ",
    "TO UPPER [CENTRE;RIGHT];LEFT TO UPPER CENTRE;MIDDLE LEFT TO UPPER MIDDLE RIGHT;CENTRE TO ",
    "LOWER MIDDLE RIGHT;LEFT TO LOWER MIDDLE RIGHT;CENTRE TO UPPER MIDDLE RIGHT;LEFT TO UPPER ",
    "MIDDLE RIGHT;CENTRE TO UPPER RIGHT]];RIGHT BLOCK DIAGONAL UPPER [CENTRE TO UPPER MIDDLE ",
    "RIGHT;LEFT TO UPPER MIDDLE RIGHT;CENTRE TO LOWER MIDDLE RIGHT;LEFT TO LOWER MIDDLE RIGHT;",
    "CENTRE TO LOWER RIGHT;MIDDLE LEFT TO LOWER MIDDLE RIGHT];AND RIGHT AND LOWER TRIANGULAR ",
    "THREE QUARTERS BLOCK];LEFT AND LOWER AND RIGHT TRIANGULAR THREE QUARTERS BLOCK;UPPER AND ",
    "LEFT AND LOWER TRIANGULAR THREE QUARTERS BLOCK;LEFT [AND UPPER AND RIGHT TRIANGULAR THREE ",
    "QUARTERS BLOCK;TRIANGULAR ONE QUARTER BLOCK];UPPER TRIANGULAR ONE QUARTER BLOCK;RIGHT ",
    "TRIANGULAR ONE QUARTER BLOCK;LOWER TRIANGULAR ONE QUARTER BLOCK;VERTICAL ONE EIGHTH ",
    "BLOCK-[2;3;4;5;6;7];HORIZONTAL ONE EIGHTH BLOCK-[2;3;4;5;6;7];LEFT AND [LOWER ONE EIGHTH ",
    "BLOCK;UPPER ONE EIGHTH BLOCK];RIGHT AND [UPPER ONE EIGHTH BLOCK;LOWER ONE EIGHTH BLOCK];",
    "UPPER AND LOWER ONE EIGHTH BLOCK;HORIZONTAL ONE EIGHTH BLOCK-1358;UPPER [ONE QUARTER ",
    "BLOCK;THREE EIGHTHS BLOCK;FIVE EIGHTHS BLOCK;THREE QUARTERS BLOCK;SEVEN EIGHTHS BLOCK];",
    "RIGHT [ONE QUARTER BLOCK;THREE EIGHTHS BLOCK;FIVE EIGHTHS BLOCK;THREE QUARTERS BLOCK;",
    "SEVEN EIGHTHS BLOCK];LEFT HALF MEDIUM SHADE;RIGHT HALF MEDIUM SHADE;UPPER HALF MEDIUM ",
    "SHADE;LOWER HALF MEDIUM SHADE;INVERSE MEDIUM SHADE;UPPER HALF [BLOCK AND LOWER HALF ",
    "INVERSE MEDIUM SHADE;INVERSE MEDIUM SHADE AND LOWER HALF BLOCK];=;LEFT HALF INVERSE ",
    "MEDIUM SHADE AND RIGHT HALF BLOCK;CHECKER BOARD FILL;INVERSE CHECKER BOARD FILL;HEAVY ",
    "HORIZONTAL FILL;UPPER [LEFT TO LOWER RIGHT FILL;RIGHT TO LOWER LEFT FILL;AND LOWER ",
    "TRIANGULAR HALF BLOCK];LEFT AND RIGHT TRIANGULAR HALF BLOCK;UPPER [LEFT TRIANGULAR MEDIUM ",
    "SHADE;RIGHT TRIANGULAR MEDIUM SHADE];LOWER [RIGHT TRIANGULAR MEDIUM SHADE;LEFT TRIANGULAR ",
    "MEDIUM SHADE];BOX DRAWINGS LIGHT DIAGONAL [UPPER CENTRE TO MIDDLE [LEFT;RIGHT];MIDDLE [",
    "LEFT TO LOWER CENTRE;RIGHT TO LOWER CENTRE];UPPER CENTRE TO MIDDLE [LEFT TO LOWER CENTRE;",
    "RIGHT TO LOWER CENTRE];MIDDLE LEFT TO [LOWER CENTRE TO MIDDLE RIGHT;UPPER CENTRE TO ",
    "MIDDLE RIGHT];UPPER CENTRE TO MIDDLE [LEFT AND MIDDLE RIGHT TO LOWER CENTRE;RIGHT [AND ",
    "MIDDLE LEFT TO LOWER CENTRE;TO LOWER CENTRE TO MIDDLE LEFT];LEFT TO LOWER CENTRE TO ",
    "MIDDLE RIGHT];MIDDLE [LEFT TO UPPER CENTRE TO MIDDLE RIGHT TO LOWER CENTRE;RIGHT TO UPPER ",
    "CENTRE TO MIDDLE LEFT TO LOWER CENTRE];DIAMOND];BOX DRAWINGS LIGHT HORIZONTAL WITH ",
    "VERTICAL STROKE;ARROWHEAD-SHAPED POINTER;INVERSE CHECK MARK;LEFT HALF RUNNING MAN;RIGHT ",
    "HALF RUNNING MAN;INVERSE DOWNWARDS ARROW WITH TIP LEFTWARDS;LEFTWARDS ARROW AND UPPER AND ",
    "LOWER ONE EIGHTH BLOCK;RIGHTWARDS ARROW AND UPPER AND LOWER ONE EIGHTH BLOCK;DOWNWARDS ",
    "ARROW AND RIGHT ONE EIGHTH BLOCK;UPWARDS ARROW AND RIGHT ONE EIGHTH BLOCK;LEFT HALF ",
    "FOLDER;RIGHT HALF FOLDER;VOIDED GREEK CROSS;RIGHT OPEN SQUARED DOT;NEGATIVE DIAGONAL [",
    "CROSS;MIDDLE RIGHT TO LOWER CENTRE;DIAMOND];WHITE HEAVY SALTIRE WITH ROUNDED CORNERS;LEFT ",
    "THIRD WHITE RIGHT POINTING INDEX;MIDDLE THIRD WHITE RIGHT POINTING INDEX;RIGHT THIRD ",
    "WHITE RIGHT POINTING INDEX;NEGATIVE SQUARED QUESTION MARK;STICK [FIGURE;FIGURE [WITH ARMS ",
    "RAISED;LEANING [LEFT;RIGHT];WITH DRESS]];WHITE UP-POINTING CHEVRON"]),
  (0x1fbf0, ["SEGMENTED DIGIT [ZERO;ONE;TWO;THREE;FOUR;FIVE;SIX;SEVEN;EIGHT;NINE]"]),
  (0xe0001, ["LANGUAGE TAG"]),
  (0xe0020, ["TAG [SPACE;EXCLAMATION MARK;QUOTATION MARK;NUMBER SIGN;DOLLAR SIGN;PERCENT SIGN;",
    "AMPERSAND;APOSTROPHE;LEFT PARENTHESIS;RIGHT PARENTHESIS;ASTERISK;PLUS SIGN;COMMA;",
    "HYPHEN-MINUS;FULL STOP;SOLIDUS;DIGIT [ZERO;ONE;TWO;THREE;FOUR;FIVE;SIX;SEVEN;EIGHT;NINE];",
    "COLON;SEMICOLON;LESS-THAN SIGN;EQUALS SIGN;GREATER-THAN SIGN;QUESTION MARK;COMMERCIAL AT;",
    "LATIN CAPITAL LETTER [A;B;C;D;E;F;G;H;I;J;K;L;M;N;O;P;Q;R;S;T;U;V;W;X;Y;Z];LEFT SQUARE ",
    "BRACKET;REVERSE SOLIDUS;RIGHT SQUARE BRACKET;CIRCUMFLEX ACCENT;LOW LINE;GRAVE ACCENT;",
    "LATIN SMALL LETTER [A;B;C;D;E;F;G;H;I;J;K;L;M;N;O;P;Q;R;S;T;U;V;W;X;Y;Z];LEFT CURLY ",
    "BRACKET;VERTICAL LINE;RIGHT CURLY BRACKET;TILDE];CANCEL TAG"]),
  (0xe0100, ["VARIATION SELECTOR-[17;18;19;20;21;22;23;24;25;26;27;28;29;30;31;32;33;34;35;36;",
    "37;38;39;40;41;42;43;44;45;46;47;48;49;50;51;52;53;54;55;56;57;58;59;60;61;62;63;64;65;66;",
    "67;68;69;70;71;72;73;74;75;76;77;78;79;80;81;82;83;84;85;86;87;88;89;90;91;92;93;94;95;96;",
    "97;98;99;100;101;102;103;104;105;106;107;108;109;110;111;112;113;114;115;116;117;118;119;",
    "120;121;122;123;124;125;126;127;128;129;130;131;132;133;134;135;136;137;138;139;140;141;",
    "142;143;144;145;146;147;148;149;150;151;152;153;154;155;156;157;158;159;160;161;162;163;",
    "164;165;166;167;168;169;170;171;172;173;174;175;176;177;178;179;180;181;182;183;184;185;",
    "186;187;188;189;190;191;192;193;194;195;196;197;198;199;200;201;202;203;204;205;206;207;",
    "208;209;210;211;212;213;214;215;216;217;218;219;220;221;222;223;224;225;226;227;228;229;",
    "230;231;232;233;234;235;236;237;238;239;240;241;242;243;244;245;246;247;248;249;250;251;",
    "252;253;254;255;256]"])]

end Mend.Text.CharName
