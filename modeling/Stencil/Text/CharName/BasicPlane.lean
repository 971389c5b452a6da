import Stencil.Text.CharName.Run

/-! The names of the characters of the basic plane, in the order of their code points; a name
    leaves out what it shares with the name before it. -/

namespace Stencil.Text

/-- Names of characters from U+0020 to U+196D. -/
def namesFrom0020 : List NameRun :=
  [⟨0x20, ["aSPACEaEXCLAMATION MARKaQUOTATION MARKaNUMBER SIGNaDOLLAR SIGNaPERCENT SIGN",
     "aAMPERSANDbPOSTROPHEaLEFT PARENTHESISaRIGHT PARENTHESISaASTERISKaPLUS SIGN",
     "aCOMMAaHYPHEN-MINUSaFULL STOPaSOLIDUSaDIGIT ZEROgONEgTWOhHREEgFOURhIVEgSIX",
     "hEVENgEIGHTgNINEaCOLONaSEMICOLONaLESS-THAN SIGNaEQUALS SIGN",
     "aGREATER-THAN SIGNaQUESTION MARKaCOMMERCIAL ATaLATIN CAPITAL LETTER AvBvCvD",
     "vEvFvGvHvIvJvKvLvMvNvOvPvQvRvSvTvUvVvWvXvYvZbEFT SQUARE BRACKET",
     "aREVERSE SOLIDUSbIGHT SQUARE BRACKETaCIRCUMFLEX ACCENTaLOW LINEaGRAVE ACCENT",
     "aLATIN SMALL LETTER AtBtCtDtEtFtGtHtItJtKtLtMtNtOtPtQtRtStTtUtVtWtXtYtZ",
     "bEFT CURLY BRACKETaVERTICAL LINEaRIGHT CURLY BRACKETaTILDE"]⟩,
   ⟨0xA0, ["aNO-BREAK SPACEaINVERTED EXCLAMATION MARKaCENT SIGNaPOUND SIGNaCURRENCY SIGN",
     "aYEN SIGNaBROKEN BARaSECTION SIGNaDIAERESISaCOPYRIGHT SIGN",
     "aFEMININE ORDINAL INDICATORaLEFT-POINTING DOUBLE ANGLE QUOTATION MARK",
     "aNOT SIGNaSOFT HYPHENaREGISTERED SIGNaMACRONaDEGREE SIGNaPLUS-MINUS SIGN",
     "aSUPERSCRIPT TWOnHREEaACUTE ACCENTaMICRO SIGNaPILCROW SIGNaMIDDLE DOT",
     "aCEDILLAaSUPERSCRIPT ONEaMASCULINE ORDINAL INDICATOR",
     "aRIGHT-POINTING DOUBLE ANGLE QUOTATION MARKaVULGAR FRACTION ONE QUARTERuHALF",
     "qTHREE QUARTERSaINVERTED QUESTION MARKaLATIN CAPITAL LETTER A WITH GRAVE",
     "zTH ACUTEzTH CIRCUMFLEXzTH TILDEzTH DIAERESISzTH RING ABOVEwEvC WITH CEDILLA",
     "vE WITH GRAVEzTH ACUTEzTH CIRCUMFLEXzTH DIAERESISvI WITH GRAVEzTH ACUTE",
     "zTH CIRCUMFLEXzTH DIAERESISvETHvN WITH TILDEvO WITH GRAVEzTH ACUTE",
     "zTH CIRCUMFLEXzTH TILDEzTH DIAERESISaMULTIPLICATION SIGN",
     "aLATIN CAPITAL LETTER O WITH STROKEvU WITH GRAVEzTH ACUTEzTH CIRCUMFLEX",
     "zTH DIAERESISvY WITH ACUTEvTHORNgSMALL LETTER SHARP StA WITH GRAVEz ACUTE",
     "z CIRCUMFLEXz TILDEz DIAERESISz RING ABOVEuEtC WITH CEDILLAtE WITH GRAVE",
     "z ACUTEz CIRCUMFLEXz DIAERESIStI WITH GRAVEz ACUTEz CIRCUMFLEXz DIAERESIS",
     "tETHtN WITH TILDEtO WITH GRAVEz ACUTEz CIRCUMFLEXz TILDEz DIAERESIS",
     "aDIVISION SIGNaLATIN SMALL LETTER O WITH STROKEtU WITH GRAVEz ACUTE",
     "z CIRCUMFLEXz DIAERESIStY WITH ACUTEtTHORNtY WITH DIAERESIS",
     "gCAPITAL LETTER A WITH MACRONgSMALL LETTER A WITH MACRON",
     "gCAPITAL LETTER A WITH BREVEgSMALL LETTER A WITH BREVE",
     "gCAPITAL LETTER A WITH OGONEKgSMALL LETTER A WITH OGONEK",
     "gCAPITAL LETTER C WITH ACUTEgSMALL LETTER C WITH ACUTE",
     "gCAPITAL LETTER C WITH CIRCUMFLEXgSMALL LETTER C WITH CIRCUMFLEX",
     "gCAPITAL LETTER C WITH DOT ABOVEgSMALL LETTER C WITH DOT ABOVE",
     "gCAPITAL LETTER C WITH CARONgSMALL LETTER C WITH CARON",
     "gCAPITAL LETTER D WITH CARONgSMALL LETTER D WITH CARON",
     "gCAPITAL LETTER D WITH STROKEgSMALL LETTER D WITH STROKE",
     "gCAPITAL LETTER E WITH MACRONgSMALL LETTER E WITH MACRON",
     "gCAPITAL LETTER E WITH BREVEgSMALL LETTER E WITH BREVE",
     "gCAPITAL LETTER E WITH DOT ABOVEgSMALL LETTER E WITH DOT ABOVE",
     "gCAPITAL LETTER E WITH OGONEKgSMALL LETTER E WITH OGONEK",
     "gCAPITAL LETTER E WITH CARONgSMALL LETTER E WITH CARON",
     "gCAPITAL LETTER G WITH CIRCUMFLEXgSMALL LETTER G WITH CIRCUMFLEX",
     "gCAPITAL LETTER G WITH BREVEgSMALL LETTER G WITH BREVE",
     "gCAPITAL LETTER G WITH DOT ABOVEgSMALL LETTER G WITH DOT ABOVE",
     "gCAPITAL LETTER G WITH CEDILLAgSMALL LETTER G WITH CEDILLA",
     "gCAPITAL LETTER H WITH CIRCUMFLEXgSMALL LETTER H WITH CIRCUMFLEX",
     "gCAPITAL LETTER H WITH STROKEgSMALL LETTER H WITH STROKE",
     "gCAPITAL LETTER I WITH TILDEgSMALL LETTER I WITH TILDE",
     "gCAPITAL LETTER I WITH MACRONgSMALL LETTER I WITH MACRON",
     "gCAPITAL LETTER I WITH BREVEgSMALL LETTER I WITH BREVE",
     "gCAPITAL LETTER I WITH OGONEKgSMALL LETTER I WITH OGONEK",
     "gCAPITAL LETTER I WITH DOT ABOVEgSMALL LETTER DOTLESS IgCAPITAL LIGATURE IJ",
     "gSMALL LIGATURE IJgCAPITAL LETTER J WITH CIRCUMFLEX",
     "gSMALL LETTER J WITH CIRCUMFLEXgCAPITAL LETTER K WITH CEDILLA",
     "gSMALL LETTER K WITH CEDILLAuRAgCAPITAL LETTER L WITH ACUTE",
     "gSMALL LETTER L WITH ACUTEgCAPITAL LETTER L WITH CEDILLA",
     "gSMALL LETTER L WITH CEDILLAgCAPITAL LETTER L WITH CARON",
     "gSMALL LETTER L WITH CARONgCAPITAL LETTER L WITH MIDDLE DOT",
     "gSMALL LETTER L WITH MIDDLE DOTgCAPITAL LETTER L WITH STROKE",
     "gSMALL LETTER L WITH STROKEgCAPITAL LETTER N WITH ACUTE",
     "gSMALL LETTER N WITH ACUTEgCAPITAL LETTER N WITH CEDILLA",
     "gSMALL LETTER N WITH CEDILLAgCAPITAL LETTER N WITH CARON",
     "gSMALL LETTER N WITH CARONvPRECEDED BY APOSTROPHEgCAPITAL LETTER ENG",
     "gSMALL LETTER ENGgCAPITAL LETTER O WITH MACRONgSMALL LETTER O WITH MACRON",
     "gCAPITAL LETTER O WITH BREVEgSMALL LETTER O WITH BREVE",
     "gCAPITAL LETTER O WITH DOUBLE ACUTEgSMALL LETTER O WITH DOUBLE ACUTE",
     "gCAPITAL LIGATURE OEgSMALL LIGATURE OEgCAPITAL LETTER R WITH ACUTE",
     "gSMALL LETTER R WITH ACUTEgCAPITAL LETTER R WITH CEDILLA",
     "gSMALL LETTER R WITH CEDILLAgCAPITAL LETTER R WITH CARON",
     "gSMALL LETTER R WITH CARONgCAPITAL LETTER S WITH ACUTE",
     "gSMALL LETTER S WITH ACUTEgCAPITAL LETTER S WITH CIRCUMFLEX",
     "gSMALL LETTER S WITH CIRCUMFLEXgCAPITAL LETTER S WITH CEDILLA",
     "gSMALL LETTER S WITH CEDILLAgCAPITAL LETTER S WITH CARON",
     "gSMALL LETTER S WITH CARONgCAPITAL LETTER T WITH CEDILLA",
     "gSMALL LETTER T WITH CEDILLAgCAPITAL LETTER T WITH CARON",
     "gSMALL LETTER T WITH CARONgCAPITAL LETTER T WITH STROKE",
     "gSMALL LETTER T WITH STROKEgCAPITAL LETTER U WITH TILDE",
     "gSMALL LETTER U WITH TILDEgCAPITAL LETTER U WITH MACRON",
     "gSMALL LETTER U WITH MACRONgCAPITAL LETTER U WITH BREVE",
     "gSMALL LETTER U WITH BREVEgCAPITAL LETTER U WITH RING ABOVE",
     "gSMALL LETTER U WITH RING ABOVEgCAPITAL LETTER U WITH DOUBLE ACUTE",
     "gSMALL LETTER U WITH DOUBLE ACUTEgCAPITAL LETTER U WITH OGONEK",
     "gSMALL LETTER U WITH OGONEKgCAPITAL LETTER W WITH CIRCUMFLEX",
     "gSMALL LETTER W WITH CIRCUMFLEXgCAPITAL LETTER Y WITH CIRCUMFLEX",
     "gSMALL LETTER Y WITH CIRCUMFLEXgCAPITAL LETTER Y WITH DIAERESISvZ WITH ACUTE",
     "gSMALL LETTER Z WITH ACUTEgCAPITAL LETTER Z WITH DOT ABOVE",
     "gSMALL LETTER Z WITH DOT ABOVEgCAPITAL LETTER Z WITH CARON",
     "gSMALL LETTER Z WITH CARONtLONG StB WITH STROKEgCAPITAL LETTER B WITH HOOK",
     "zTH TOPBARgSMALL LETTER B WITH TOPBARgCAPITAL LETTER TONE SIX",
     "gSMALL LETTER TONE SIXgCAPITAL LETTER OPEN OvC WITH HOOK",
     "gSMALL LETTER C WITH HOOKgCAPITAL LETTER AFRICAN DvD WITH HOOKzTH TOPBAR",
     "gSMALL LETTER D WITH TOPBARtTURNED DELTAgCAPITAL LETTER REVERSED EvSCHWA",
     "vOPEN EvF WITH HOOKgSMALL LETTER F WITH HOOKgCAPITAL LETTER G WITH HOOKwAMMA",
     "gSMALL LETTER HVgCAPITAL LETTER IOTAw WITH STROKEvK WITH HOOK",
     "gSMALL LETTER K WITH HOOKtL WITH BARuAMBDA WITH STROKE",
     "gCAPITAL LETTER TURNED MvN WITH LEFT HOOKgSMALL LETTER N WITH LONG RIGHT LEG",
     "gCAPITAL LETTER O WITH MIDDLE TILDEzTH HORNgSMALL LETTER O WITH HORN",
     "gCAPITAL LETTER OIgSMALL LETTER OIgCAPITAL LETTER P WITH HOOK",
     "gSMALL LETTER P WITH HOOKgLETTER YRgCAPITAL LETTER TONE TWO",
     "gSMALL LETTER TONE TWOgCAPITAL LETTER ESHgLETTER REVERSED ESH LOOP",
     "gSMALL LETTER T WITH PALATAL HOOKgCAPITAL LETTER T WITH HOOK",
     "gSMALL LETTER T WITH HOOKgCAPITAL LETTER T WITH RETROFLEX HOOKvU WITH HORN",
     "gSMALL LETTER U WITH HORNgCAPITAL LETTER UPSILONvV WITH HOOKvY WITH HOOK",
     "gSMALL LETTER Y WITH HOOKgCAPITAL LETTER Z WITH STROKE",
     "gSMALL LETTER Z WITH STROKEgCAPITAL LETTER EZHy REVERSED",
     "gSMALL LETTER EZH REVERSEDxWITH TAILgLETTER TWO WITH STROKE",
     "gCAPITAL LETTER TONE FIVEgSMALL LETTER TONE FIVE",
     "gLETTER INVERTED GLOTTAL STOP WITH STROKEnWYNNnDENTAL CLICKnLATERAL CLICK",
     "nALVEOLAR CLICKnRETROFLEX CLICKgCAPITAL LETTER DZ WITH CARON",
     "w WITH SMALL LETTER Z WITH CARONgSMALL LETTER DZ WITH CARON",
     "gCAPITAL LETTER LJw WITH SMALL LETTER JgSMALL LETTER LJgCAPITAL LETTER NJ",
     "w WITH SMALL LETTER JgSMALL LETTER NJgCAPITAL LETTER A WITH CARON",
     "gSMALL LETTER A WITH CARONgCAPITAL LETTER I WITH CARON",
     "gSMALL LETTER I WITH CARONgCAPITAL LETTER O WITH CARON",
     "gSMALL LETTER O WITH CARONgCAPITAL LETTER U WITH CARON",
     "gSMALL LETTER U WITH CARONgCAPITAL LETTER U WITH DIAERESIS AND MACRON",
     "gSMALL LETTER U WITH DIAERESIS AND MACRON",
     "gCAPITAL LETTER U WITH DIAERESIS AND ACUTE",
     "gSMALL LETTER U WITH DIAERESIS AND ACUTE",
     "gCAPITAL LETTER U WITH DIAERESIS AND CARON",
     "gSMALL LETTER U WITH DIAERESIS AND CARON",
     "gCAPITAL LETTER U WITH DIAERESIS AND GRAVE",
     "gSMALL LETTER U WITH DIAERESIS AND GRAVEtTURNED E",
     "gCAPITAL LETTER A WITH DIAERESIS AND MACRON",
     "gSMALL LETTER A WITH DIAERESIS AND MACRON",
     "gCAPITAL LETTER A WITH DOT ABOVE AND MACRON",
     "gSMALL LETTER A WITH DOT ABOVE AND MACRONgCAPITAL LETTER AE WITH MACRON",
     "gSMALL LETTER AE WITH MACRONgCAPITAL LETTER G WITH STROKE",
     "gSMALL LETTER G WITH STROKEgCAPITAL LETTER G WITH CARON",
     "gSMALL LETTER G WITH CARONgCAPITAL LETTER K WITH CARON",
     "gSMALL LETTER K WITH CARONgCAPITAL LETTER O WITH OGONEK",
     "gSMALL LETTER O WITH OGONEKgCAPITAL LETTER O WITH OGONEK AND MACRON",
     "gSMALL LETTER O WITH OGONEK AND MACRONgCAPITAL LETTER EZH WITH CARON",
     "gSMALL LETTER EZH WITH CARONtJ WITH CARONgCAPITAL LETTER DZ",
     "w WITH SMALL LETTER ZgSMALL LETTER DZgCAPITAL LETTER G WITH ACUTE",
     "gSMALL LETTER G WITH ACUTEgCAPITAL LETTER HWAIRvWYNNvN WITH GRAVE",
     "gSMALL LETTER N WITH GRAVEgCAPITAL LETTER A WITH RING ABOVE AND ACUTE",
     "gSMALL LETTER A WITH RING ABOVE AND ACUTEgCAPITAL LETTER AE WITH ACUTE",
     "gSMALL LETTER AE WITH ACUTEgCAPITAL LETTER O WITH STROKE AND ACUTE",
     "gSMALL LETTER O WITH STROKE AND ACUTEgCAPITAL LETTER A WITH DOUBLE GRAVE",
     "gSMALL LETTER A WITH DOUBLE GRAVEgCAPITAL LETTER A WITH INVERTED BREVE",
     "gSMALL LETTER A WITH INVERTED BREVEgCAPITAL LETTER E WITH DOUBLE GRAVE",
     "gSMALL LETTER E WITH DOUBLE GRAVEgCAPITAL LETTER E WITH INVERTED BREVE",
     "gSMALL LETTER E WITH INVERTED BREVEgCAPITAL LETTER I WITH DOUBLE GRAVE",
     "gSMALL LETTER I WITH DOUBLE GRAVEgCAPITAL LETTER I WITH INVERTED BREVE",
     "gSMALL LETTER I WITH INVERTED BREVEgCAPITAL LETTER O WITH DOUBLE GRAVE",
     "gSMALL LETTER O WITH DOUBLE GRAVEgCAPITAL LETTER O WITH INVERTED BREVE",
     "gSMALL LETTER O WITH INVERTED BREVEgCAPITAL LETTER R WITH DOUBLE GRAVE",
     "gSMALL LETTER R WITH DOUBLE GRAVEgCAPITAL LETTER R WITH INVERTED BREVE",
     "gSMALL LETTER R WITH INVERTED BREVEgCAPITAL LETTER U WITH DOUBLE GRAVE",
     "gSMALL LETTER U WITH DOUBLE GRAVEgCAPITAL LETTER U WITH INVERTED BREVE",
     "gSMALL LETTER U WITH INVERTED BREVEgCAPITAL LETTER S WITH COMMA BELOW",
     "gSMALL LETTER S WITH COMMA BELOWgCAPITAL LETTER T WITH COMMA BELOW",
     "gSMALL LETTER T WITH COMMA BELOWgCAPITAL LETTER YOGHgSMALL LETTER YOGH",
     "gCAPITAL LETTER H WITH CARONgSMALL LETTER H WITH CARON",
     "gCAPITAL LETTER N WITH LONG RIGHT LEGgSMALL LETTER D WITH CURL",
     "gCAPITAL LETTER OUgSMALL LETTER OUgCAPITAL LETTER Z WITH HOOK",
     "gSMALL LETTER Z WITH HOOKgCAPITAL LETTER A WITH DOT ABOVE",
     "gSMALL LETTER A WITH DOT ABOVEgCAPITAL LETTER E WITH CEDILLA",
     "gSMALL LETTER E WITH CEDILLAgCAPITAL LETTER O WITH DIAERESIS AND MACRON",
     "gSMALL LETTER O WITH DIAERESIS AND MACRON",
     "gCAPITAL LETTER O WITH TILDE AND MACRONgSMALL LETTER O WITH TILDE AND MACRON",
     "gCAPITAL LETTER O WITH DOT ABOVEgSMALL LETTER O WITH DOT ABOVE",
     "gCAPITAL LETTER O WITH DOT ABOVE AND MACRON",
     "gSMALL LETTER O WITH DOT ABOVE AND MACRONgCAPITAL LETTER Y WITH MACRON",
     "gSMALL LETTER Y WITH MACRONtL WITH CURLtN WITH CURLtT WITH CURLtDOTLESS J",
     "uB DIGRAPHtQP DIGRAPHgCAPITAL LETTER A WITH STROKEvC WITH STROKE",
     "gSMALL LETTER C WITH STROKEgCAPITAL LETTER L WITH BARvT WITH DIAGONAL STROKE",
     "gSMALL LETTER S WITH SWASH TAILtZ WITH SWASH TAIL",
     "gCAPITAL LETTER GLOTTAL STOPgSMALL LETTER GLOTTAL STOP",
     "gCAPITAL LETTER B WITH STROKEvU BARvTURNED VvE WITH STROKE",
     "gSMALL LETTER E WITH STROKEgCAPITAL LETTER J WITH STROKE",
     "gSMALL LETTER J WITH STROKEgCAPITAL LETTER SMALL Q WITH HOOK TAIL",
     "gSMALL LETTER Q WITH HOOK TAILgCAPITAL LETTER R WITH STROKE",
     "gSMALL LETTER R WITH STROKEgCAPITAL LETTER Y WITH STROKE",
     "gSMALL LETTER Y WITH STROKEtTURNED AtALPHAtTURNED ALPHAtB WITH HOOKtOPEN O",
     "tC WITH CURLtD WITH TAILz HOOKtREVERSED EtSCHWAy WITH HOOKtOPEN E",
     "tREVERSED OPEN EzED OPEN E WITH HOOKtCLOSED REVERSED OPEN E",
     "tDOTLESS J WITH STROKEtG WITH HOOKtSCRIPT GgLETTER SMALL CAPITAL G",
     "gSMALL LETTER GAMMAtRAMS HORNtTURNED HtH WITH HOOKuENG WITH HOOK",
     "tI WITH STROKEuOTAgLETTER SMALL CAPITAL IgSMALL LETTER L WITH MIDDLE TILDE",
     "z BELTz RETROFLEX HOOKuEZHtTURNED Mz M WITH LONG LEGtM WITH HOOK",
     "tN WITH LEFT HOOKz RETROFLEX HOOKgLETTER SMALL CAPITAL N",
     "gSMALL LETTER BARRED OgLETTER SMALL CAPITAL OEgSMALL LETTER CLOSED OMEGAtPHI",
     "tTURNED Rz R WITH LONG LEGz R WITH HOOKtR WITH LONG LEGz TAILz FISHHOOK",
     "uEVERSED R WITH FISHHOOKgLETTER SMALL CAPITAL RzL INVERTED R",
     "gSMALL LETTER S WITH HOOKtESHtDOTLESS J WITH STROKE AND HOOK",
     "tSQUAT REVERSED ESHtESH WITH CURLtTURNED Tu WITH RETROFLEX HOOKtU BARuPSILON",
     "tV WITH HOOKtTURNED Vz Wz YgLETTER SMALL CAPITAL Y",
     "gSMALL LETTER Z WITH RETROFLEX HOOKz CURLtEZHw WITH CURLgLETTER GLOTTAL STOP",
     "nPHARYNGEAL VOICED FRICATIVEnINVERTED GLOTTAL STOPnSTRETCHED C",
     "nBILABIAL CLICKnSMALL CAPITAL BgSMALL LETTER CLOSED OPEN E",
     "gLETTER SMALL CAPITAL G WITH HOOKzL HgSMALL LETTER J WITH CROSSED-TAIL",
     "tTURNED KgLETTER SMALL CAPITAL LgSMALL LETTER Q WITH HOOK",
     "gLETTER GLOTTAL STOP WITH STROKEnREVERSED GLOTTAL STOP WITH STROKE",
     "gSMALL LETTER DZ DIGRAPHuEZH DIGRAPHuZ DIGRAPH WITH CURLtTS DIGRAPH",
     "uESH DIGRAPHuC DIGRAPH WITH CURLtFENG DIGRAPHtLS DIGRAPHuZ DIGRAPH",
     "gLETTER BILABIAL PERCUSSIVEpDENTAL PERCUSSIVE",
     "gSMALL LETTER TURNED H WITH FISHHOOKz H WITH FISHHOOK AND TAIL",
     "aMODIFIER LETTER SMALL Hx WITH HOOKwJwRwTURNED RzNED R WITH HOOK",
     "wCAPITAL INVERTED RwWwYqPRIMEqDOUBLE PRIMEqTURNED COMMAqAPOSTROPHE",
     "qREVERSED COMMArIGHT HALF RINGqLEFT HALF RINGqGLOTTAL STOP",
     "qREVERSED GLOTTAL STOPqLEFT ARROWHEADqRIGHT ARROWHEADqUP ARROWHEAD",
     "qDOWN ARROWHEADqCIRCUMFLEX ACCENTaCARONaMODIFIER LETTER VERTICAL LINEqMACRON",
     "qACUTE ACCENTqGRAVE ACCENTqLOW VERTICAL LINEuMACRONuGRAVE ACCENT",
     "uACUTE ACCENTqTRIANGULAR COLONqHALF TRIANGULAR COLONqCENTRED RIGHT HALF RING",
     "yLEFT HALF RINGqUP TACKqDOWN TACKqPLUS SIGNqMINUS SIGNaBREVEaDOT ABOVE",
     "aRING ABOVEaOGONEKaSMALL TILDEaDOUBLE ACUTE ACCENT",
     "aMODIFIER LETTER RHOTIC HOOKqCROSS ACCENTqSMALL GAMMAwLwSwX",
     "wREVERSED GLOTTAL STOPqEXTRA-HIGH TONE BARqHIGH TONE BARqMID TONE BAR",
     "qLOW TONE BARqEXTRA-LOW TONE BARqYIN DEPARTING TONE MARK",
     "rANG DEPARTING TONE MARKqVOICINGqUNASPIRATEDqDOUBLE APOSTROPHE",
     "qLOW DOWN ARROWHEADuUP ARROWHEADuLEFT ARROWHEADuRIGHT ARROWHEADwNG",
     "qMIDDLE GRAVE ACCENTxDOUBLE GRAVE ACCENTzUBLE ACUTE ACCENTqLOW TILDE",
     "qRAISED COLONqBEGIN HIGH TONEqEND HIGH TONEqBEGIN LOW TONEqEND LOW TONE",
     "qSHELFqOPEN SHELFqLOW LEFT ARROWaCOMBINING GRAVE ACCENTkACUTE ACCENT",
     "kCIRCUMFLEX ACCENTkTILDEkMACRONkOVERLINEkBREVEkDOT ABOVElIAERESISkHOOK ABOVE",
     "kRING ABOVEkDOUBLE ACUTE ACCENTkCARONkVERTICAL LINE ABOVE",
     "kDOUBLE VERTICAL LINE ABOVErGRAVE ACCENTkCANDRABINDUkINVERTED BREVE",
     "kTURNED COMMA ABOVEkCOMMA ABOVEkREVERSED COMMA ABOVEkCOMMA ABOVE RIGHT",
     "kGRAVE ACCENT BELOWkACUTE ACCENT BELOWkLEFT TACK BELOWkRIGHT TACK BELOW",
     "kLEFT ANGLE ABOVEkHORNkLEFT HALF RING BELOWkUP TACK BELOWkDOWN TACK BELOW",
     "kPLUS SIGN BELOWkMINUS SIGN BELOWkPALATALIZED HOOK BELOW",
     "kRETROFLEX HOOK BELOWkDOT BELOWlIAERESIS BELOWkRING BELOWkCOMMA BELOWlEDILLA",
     "kOGONEKkVERTICAL LINE BELOWkBRIDGE BELOWkINVERTED DOUBLE ARCH BELOW",
     "kCARON BELOWlIRCUMFLEX ACCENT BELOWkBREVE BELOWkINVERTED BREVE BELOW",
     "kTILDE BELOWkMACRON BELOWkLOW LINEkDOUBLE LOW LINEkTILDE OVERLAY",
     "kSHORT STROKE OVERLAYkLONG STROKE OVERLAYkSHORT SOLIDUS OVERLAY",
     "kLONG SOLIDUS OVERLAYkRIGHT HALF RING BELOWkINVERTED BRIDGE BELOW",
     "kSQUARE BELOWlEAGULL BELOWkX ABOVEkVERTICAL TILDEkDOUBLE OVERLINE",
     "kGRAVE TONE MARKkACUTE TONE MARKkGREEK PERISPOMENIqKORONISqDIALYTIKA TONOS",
     "qYPOGEGRAMMENIkBRIDGE ABOVEkEQUALS SIGN BELOWkDOUBLE VERTICAL LINE BELOW",
     "kLEFT ANGLE BELOWkNOT TILDE ABOVEkHOMOTHETIC ABOVEkALMOST EQUAL TO ABOVE",
     "kLEFT RIGHT ARROW BELOWkUPWARDS ARROW BELOWkGRAPHEME JOINER",
     "kRIGHT ARROWHEAD ABOVEkLEFT HALF RING ABOVEkFERMATAkX BELOW",
     "kLEFT ARROWHEAD BELOWkRIGHT ARROWHEAD BELOWz AND UP ARROWHEAD BELOW",
     "qHALF RING ABOVEkDOT ABOVE RIGHTkASTERISK BELOWkDOUBLE RING BELOW",
     "kZIGZAG ABOVEkDOUBLE BREVE BELOWwrMACRONx BELOWrTILDErINVERTED BREVE",
     "rRIGHTWARDS ARROW BELOWkLATIN SMALL LETTER AzTER EzTER IzTER OzTER UzTER C",
     "zTER DzTER HzTER MzTER RzTER TzTER VzTER XaGREEK CAPITAL LETTER HETA",
     "gSMALL LETTER HETAgCAPITAL LETTER ARCHAIC SAMPIgSMALL LETTER ARCHAIC SAMPI",
     "gNUMERAL SIGNgLOWER NUMERAL SIGNgCAPITAL LETTER PAMPHYLIAN DIGAMMA",
     "gSMALL LETTER PAMPHYLIAN DIGAMMA"]⟩,
   ⟨0x37A, ["aGREEK YPOGEGRAMMENIgSMALL REVERSED LUNATE SIGMA SYMBOL",
     "mDOTTED LUNATE SIGMA SYMBOLmREVERSED DOTTED LUNATE SIGMA SYMBOL",
     "gQUESTION MARKgCAPITAL LETTER YOT"]⟩,
   ⟨0x384, ["aGREEK TONOSgDIALYTIKA TONOSgCAPITAL LETTER ALPHA WITH TONOSgANO TELEIA",
     "gCAPITAL LETTER EPSILON WITH TONOSwTA WITH TONOSvIOTA WITH TONOS"]⟩,
   ⟨0x38C, ["aGREEK CAPITAL LETTER OMICRON WITH TONOS"]⟩,
   ⟨0x38E, ["aGREEK CAPITAL LETTER UPSILON WITH TONOSvOMEGA WITH TONOS",
     "gSMALL LETTER IOTA WITH DIALYTIKA AND TONOSgCAPITAL LETTER ALPHAvBETAvGAMMA",
     "vDELTAvEPSILONvZETAvETAvTHETAvIOTAvKAPPAvLAMDAvMUvNUvXIvOMICRONvPIvRHO"]⟩,
   ⟨0x3A3, ["aGREEK CAPITAL LETTER SIGMAvTAUvUPSILONvPHIvCHIvPSIvOMEGA",
     "vIOTA WITH DIALYTIKAvUPSILON WITH DIALYTIKAgSMALL LETTER ALPHA WITH TONOS",
     "tEPSILON WITH TONOSuTA WITH TONOStIOTA WITH TONOS",
     "tUPSILON WITH DIALYTIKA AND TONOStALPHAtBETAtGAMMAtDELTAtEPSILONtZETAtETA",
     "tTHETAtIOTAtKAPPAtLAMDAtMUtNUtXItOMICRONtPItRHOtFINAL SIGMAtSIGMAtTAU",
     "tUPSILONtPHItCHItPSItOMEGAtIOTA WITH DIALYTIKAtUPSILON WITH DIALYTIKA",
     "tOMICRON WITH TONOStUPSILON WITH TONOStOMEGA WITH TONOSgCAPITAL KAI SYMBOL",
     "gBETA SYMBOLgTHETA SYMBOLgUPSILON WITH HOOK SYMBOLtACUTE AND HOOK SYMBOL",
     "tDIAERESIS AND HOOK SYMBOLgPHI SYMBOLhI SYMBOLgKAI SYMBOL",
     "gLETTER ARCHAIC KOPPAgSMALL LETTER ARCHAIC KOPPAgLETTER STIGMA",
     "gSMALL LETTER STIGMAgLETTER DIGAMMAgSMALL LETTER DIGAMMAgLETTER KOPPA",
     "gSMALL LETTER KOPPAgLETTER SAMPIgSMALL LETTER SAMPI",
     "aCOPTIC CAPITAL LETTER SHEIhSMALL LETTER SHEIhCAPITAL LETTER FEI",
     "hSMALL LETTER FEIhCAPITAL LETTER KHEIhSMALL LETTER KHEIhCAPITAL LETTER HORI",
     "hSMALL LETTER HORIhCAPITAL LETTER GANGIAhSMALL LETTER GANGIA",
     "hCAPITAL LETTER SHIMAhSMALL LETTER SHIMAhCAPITAL LETTER DEIhSMALL LETTER DEI",
     "aGREEK KAPPA SYMBOLgRHO SYMBOLgLUNATE SIGMA SYMBOLhETTER YOT",
     "gCAPITAL THETA SYMBOLgLUNATE EPSILON SYMBOLgREVERSED LUNATE EPSILON SYMBOL",
     "gCAPITAL LETTER SHOgSMALL LETTER SHOgCAPITAL LUNATE SIGMA SYMBOLpETTER SAN",
     "gSMALL LETTER SANgRHO WITH STROKE SYMBOL",
     "gCAPITAL REVERSED LUNATE SIGMA SYMBOLoDOTTED LUNATE SIGMA SYMBOL",
     "oREVERSED DOTTED LUNATE SIGMA SYMBOLaCYRILLIC CAPITAL LETTER IE WITH GRAVEzO",
     "yDJEyGJEyUKRAINIAN IEyDZEyBYELORUSSIAN-UKRAINIAN IyYIyJEyLJEyNJEyTSHEyKJE",
     "yI WITH GRAVEySHORT UyDZHEyAyBEyVEyGHEyDEyIEyZHEzEyIySHORT IyKAyELzMzNyOyPE",
     "yERzSyTEyUyEFyHAyTSEyCHEySHAzHCHAyHARD SIGNyYERUySOFT SIGNyEyYUzA",
     "jSMALL LETTER AwBEwVEwGHEwDEwIEwZHExEwIwSHORT IwKAwELxMxNwOwPEwERxSwTEwUwEF",
     "wHAwTSEwCHEwSHAyCHAwHARD SIGNwYERUwSOFT SIGNwEwYUxAwIE WITH GRAVExOwDJEwGJE",
     "wUKRAINIAN IEwDZEwBYELORUSSIAN-UKRAINIAN IwYIwJEwLJEwNJEwTSHEwKJE",
     "wI WITH GRAVEwSHORT UwDZHEjCAPITAL LETTER OMEGAjSMALL LETTER OMEGA",
     "jCAPITAL LETTER YATjSMALL LETTER YATjCAPITAL LETTER IOTIFIED E",
     "jSMALL LETTER IOTIFIED EjCAPITAL LETTER LITTLE YUSjSMALL LETTER LITTLE YUS",
     "jCAPITAL LETTER IOTIFIED LITTLE YUSjSMALL LETTER IOTIFIED LITTLE YUS",
     "jCAPITAL LETTER BIG YUSjSMALL LETTER BIG YUSjCAPITAL LETTER IOTIFIED BIG YUS",
     "jSMALL LETTER IOTIFIED BIG YUSjCAPITAL LETTER KSIjSMALL LETTER KSI",
     "jCAPITAL LETTER PSIjSMALL LETTER PSIjCAPITAL LETTER FITAjSMALL LETTER FITA",
     "jCAPITAL LETTER IZHITSAjSMALL LETTER IZHITSA",
     "jCAPITAL LETTER IZHITSA WITH DOUBLE GRAVE ACCENT",
     "jSMALL LETTER IZHITSA WITH DOUBLE GRAVE ACCENTjCAPITAL LETTER UK",
     "jSMALL LETTER UKjCAPITAL LETTER ROUND OMEGAjSMALL LETTER ROUND OMEGA",
     "jCAPITAL LETTER OMEGA WITH TITLOjSMALL LETTER OMEGA WITH TITLO",
     "jCAPITAL LETTER OTjSMALL LETTER OTjCAPITAL LETTER KOPPAjSMALL LETTER KOPPA",
     "jTHOUSANDS SIGNbOMBINING CYRILLIC TITLOtPALATALIZATIONtDASIA PNEUMATA",
     "tPSILI PNEUMATAuOKRYTIEtHUNDRED THOUSANDS SIGNtMILLIONS SIGN",
     "bYRILLIC CAPITAL LETTER SHORT I WITH TAILjSMALL LETTER SHORT I WITH TAIL",
     "jCAPITAL LETTER SEMISOFT SIGNjSMALL LETTER SEMISOFT SIGN",
     "jCAPITAL LETTER ER WITH TICKjSMALL LETTER ER WITH TICK",
     "jCAPITAL LETTER GHE WITH UPTURNjSMALL LETTER GHE WITH UPTURN",
     "jCAPITAL LETTER GHE WITH STROKEjSMALL LETTER GHE WITH STROKE",
     "jCAPITAL LETTER GHE WITH MIDDLE HOOKjSMALL LETTER GHE WITH MIDDLE HOOK",
     "jCAPITAL LETTER ZHE WITH DESCENDERjSMALL LETTER ZHE WITH DESCENDER",
     "jCAPITAL LETTER ZE WITH DESCENDERjSMALL LETTER ZE WITH DESCENDER",
     "jCAPITAL LETTER KA WITH DESCENDERjSMALL LETTER KA WITH DESCENDER",
     "jCAPITAL LETTER KA WITH VERTICAL STROKEjSMALL LETTER KA WITH VERTICAL STROKE",
     "jCAPITAL LETTER KA WITH STROKEjSMALL LETTER KA WITH STROKE",
     "jCAPITAL LETTER BASHKIR KAjSMALL LETTER BASHKIR KA",
     "jCAPITAL LETTER EN WITH DESCENDERjSMALL LETTER EN WITH DESCENDER",
     "jCAPITAL LIGATURE EN GHEjSMALL LIGATURE EN GHE",
     "jCAPITAL LETTER PE WITH MIDDLE HOOKjSMALL LETTER PE WITH MIDDLE HOOK",
     "jCAPITAL LETTER ABKHASIAN HAjSMALL LETTER ABKHASIAN HA",
     "jCAPITAL LETTER ES WITH DESCENDERjSMALL LETTER ES WITH DESCENDER",
     "jCAPITAL LETTER TE WITH DESCENDERjSMALL LETTER TE WITH DESCENDER",
     "jCAPITAL LETTER STRAIGHT UjSMALL LETTER STRAIGHT U",
     "jCAPITAL LETTER STRAIGHT U WITH STROKEjSMALL LETTER STRAIGHT U WITH STROKE",
     "jCAPITAL LETTER HA WITH DESCENDERjSMALL LETTER HA WITH DESCENDER",
     "jCAPITAL LIGATURE TE TSEjSMALL LIGATURE TE TSE",
     "jCAPITAL LETTER CHE WITH DESCENDERjSMALL LETTER CHE WITH DESCENDER",
     "jCAPITAL LETTER CHE WITH VERTICAL STROKE",
     "jSMALL LETTER CHE WITH VERTICAL STROKEjCAPITAL LETTER SHHAjSMALL LETTER SHHA",
     "jCAPITAL LETTER ABKHASIAN CHEjSMALL LETTER ABKHASIAN CHE",
     "jCAPITAL LETTER ABKHASIAN CHE WITH DESCENDER",
     "jSMALL LETTER ABKHASIAN CHE WITH DESCENDERjLETTER PALOCHKA",
     "jCAPITAL LETTER ZHE WITH BREVEjSMALL LETTER ZHE WITH BREVE",
     "jCAPITAL LETTER KA WITH HOOKjSMALL LETTER KA WITH HOOK",
     "jCAPITAL LETTER EL WITH TAILjSMALL LETTER EL WITH TAIL",
     "jCAPITAL LETTER EN WITH HOOKjSMALL LETTER EN WITH HOOK",
     "jCAPITAL LETTER EN WITH TAILjSMALL LETTER EN WITH TAIL",
     "jCAPITAL LETTER KHAKASSIAN CHEjSMALL LETTER KHAKASSIAN CHE",
     "jCAPITAL LETTER EM WITH TAILjSMALL LETTER EM WITH TAILwPALOCHKA",
     "jCAPITAL LETTER A WITH BREVEjSMALL LETTER A WITH BREVE",
     "jCAPITAL LETTER A WITH DIAERESISjSMALL LETTER A WITH DIAERESIS",
     "jCAPITAL LIGATURE A IEjSMALL LIGATURE A IEjCAPITAL LETTER IE WITH BREVE",
     "jSMALL LETTER IE WITH BREVEjCAPITAL LETTER SCHWAjSMALL LETTER SCHWA",
     "jCAPITAL LETTER SCHWA WITH DIAERESISjSMALL LETTER SCHWA WITH DIAERESIS",
     "jCAPITAL LETTER ZHE WITH DIAERESISjSMALL LETTER ZHE WITH DIAERESIS",
     "jCAPITAL LETTER ZE WITH DIAERESISjSMALL LETTER ZE WITH DIAERESIS",
     "jCAPITAL LETTER ABKHASIAN DZEjSMALL LETTER ABKHASIAN DZE",
     "jCAPITAL LETTER I WITH MACRONjSMALL LETTER I WITH MACRON",
     "jCAPITAL LETTER I WITH DIAERESISjSMALL LETTER I WITH DIAERESIS",
     "jCAPITAL LETTER O WITH DIAERESISjSMALL LETTER O WITH DIAERESIS",
     "jCAPITAL LETTER BARRED OjSMALL LETTER BARRED O",
     "jCAPITAL LETTER BARRED O WITH DIAERESISjSMALL LETTER BARRED O WITH DIAERESIS",
     "jCAPITAL LETTER E WITH DIAERESISjSMALL LETTER E WITH DIAERESIS",
     "jCAPITAL LETTER U WITH MACRONjSMALL LETTER U WITH MACRON",
     "jCAPITAL LETTER U WITH DIAERESISjSMALL LETTER U WITH DIAERESIS",
     "jCAPITAL LETTER U WITH DOUBLE ACUTEjSMALL LETTER U WITH DOUBLE ACUTE",
     "jCAPITAL LETTER CHE WITH DIAERESISjSMALL LETTER CHE WITH DIAERESIS",
     "jCAPITAL LETTER GHE WITH DESCENDERjSMALL LETTER GHE WITH DESCENDER",
     "jCAPITAL LETTER YERU WITH DIAERESISjSMALL LETTER YERU WITH DIAERESIS",
     "jCAPITAL LETTER GHE WITH STROKE AND HOOK",
     "jSMALL LETTER GHE WITH STROKE AND HOOKjCAPITAL LETTER HA WITH HOOK",
     "jSMALL LETTER HA WITH HOOKjCAPITAL LETTER HA WITH STROKE",
     "jSMALL LETTER HA WITH STROKEjCAPITAL LETTER KOMI DEjSMALL LETTER KOMI DE",
     "jCAPITAL LETTER KOMI DJEjSMALL LETTER KOMI DJEjCAPITAL LETTER KOMI ZJE",
     "jSMALL LETTER KOMI ZJEjCAPITAL LETTER KOMI DZJEjSMALL LETTER KOMI DZJE",
     "jCAPITAL LETTER KOMI LJEjSMALL LETTER KOMI LJEjCAPITAL LETTER KOMI NJE",
     "jSMALL LETTER KOMI NJEjCAPITAL LETTER KOMI SJEjSMALL LETTER KOMI SJE",
     "jCAPITAL LETTER KOMI TJEjSMALL LETTER KOMI TJEjCAPITAL LETTER REVERSED ZE",
     "jSMALL LETTER REVERSED ZEjCAPITAL LETTER EL WITH HOOK",
     "jSMALL LETTER EL WITH HOOKjCAPITAL LETTER LHAjSMALL LETTER LHA",
     "jCAPITAL LETTER RHAjSMALL LETTER RHAjCAPITAL LETTER YAEjSMALL LETTER YAE",
     "jCAPITAL LETTER QAjSMALL LETTER QAjCAPITAL LETTER WEjSMALL LETTER WE",
     "jCAPITAL LETTER ALEUT KAjSMALL LETTER ALEUT KA",
     "jCAPITAL LETTER EL WITH MIDDLE HOOKjSMALL LETTER EL WITH MIDDLE HOOK",
     "jCAPITAL LETTER EN WITH MIDDLE HOOKjSMALL LETTER EN WITH MIDDLE HOOK",
     "jCAPITAL LETTER PE WITH DESCENDERjSMALL LETTER PE WITH DESCENDER",
     "jCAPITAL LETTER SHHA WITH DESCENDERjSMALL LETTER SHHA WITH DESCENDER",
     "jCAPITAL LETTER EN WITH LEFT HOOKjSMALL LETTER EN WITH LEFT HOOK",
     "jCAPITAL LETTER DZZHEjSMALL LETTER DZZHEjCAPITAL LETTER DCHE",
     "jSMALL LETTER DCHEjCAPITAL LETTER EL WITH DESCENDER",
     "jSMALL LETTER EL WITH DESCENDER"]⟩,
   ⟨0x531, ["aARMENIAN CAPITAL LETTER AYByBENyGIMyDAyECHyZAyEHzTyTOyZHEyINIyLIWNyXEHyCA",
     "yKENyHOyJAyGHADyCHEHyMENyYIyNOWySHAyVOyCHAyPEHyJHEHyRAySEHyVEWyTIWNyREHyCO",
     "yYIWNyPIWRyKEHyOHyFEH"]⟩,
   ⟨0x559, ["aARMENIAN MODIFIER LETTER LEFT HALF RINGjAPOSTROPHEjEMPHASIS MARK",
     "kXCLAMATION MARKjCOMMAjQUESTION MARKjABBREVIATION MARK",
     "jSMALL LETTER TURNED AYBwAYBwBENwGIMwDAwECHwZAwEHxTwTOwZHEwINIwLIWNwXEHwCA",
     "wKENwHOwJAwGHADwCHEHwMENwYIwNOWwSHAwVOwCHAwPEHwJHEHwRAwSEHwVEWwTIWNwREHwCO",
     "wYIWNwPIWRwKEHwOHwFEHqIGATURE ECH YIWNqETTER YI WITH STROKEjFULL STOPjHYPHEN"]⟩,
   ⟨0x58D, ["aRIGHT-FACING ARMENIAN ETERNITY SIGNaLEFT-FACING ARMENIAN ETERNITY SIGN",
     "aARMENIAN DRAM SIGN"]⟩,
   ⟨0x591, ["aHEBREW ACCENT ETNAHTAoSEGOLpHALSHELEToZAQEF QATANuGADOLoTIPEHAoREVIAoZARQA",
     "oPASHTAoYETIVoTEVIRoGERESHu MUQDAMrSHAYIMoQARNEY PARAoTELISHA GEDOLAoPAZER",
     "oATNAH HAFUKHoMUNAHpAHAPAKHpERKHAu KEFULAoDARGAoQADMAoTELISHA QETANA",
     "oYERAH BEN YOMOoOLEoILUYoDEHIoZINORhMARK MASORA CIRCLEhPOINT SHEVA",
     "nHATAF SEGOLtPATAHtQAMATSoIRIQnTSEREnSEGOLnPATAHnQAMATSnHOLAMs HASER FOR VAV",
     "nQUBUTSnDAGESH OR MAPIQnMETEGiUNCTUATION MAQAFiOINT RAFEiUNCTUATION PASEQ",
     "iOINT SHIN DOToIN DOTiUNCTUATION SOF PASUQhMARK UPPER DOTmLOWER DOT",
     "hPUNCTUATION NUN HAFUKHAiOINT QAMATS QATAN"]⟩,
   ⟨0x5D0, ["aHEBREW LETTER ALEFoBEToGIMELoDALEToHEoVAVoZAYINoHEToTEToYODoFINAL KAFoKAF",
     "oLAMEDoFINAL MEMoMEMoFINAL NUNoNUNoSAMEKHoAYINoFINAL PEoPEoFINAL TSADIoTSADI",
     "oQOFoRESHoSHINoTAV"]⟩,
   ⟨0x5EF, ["aHEBREW YOD TRIANGLEhLIGATURE YIDDISH DOUBLE VAVyVAV YODyDOUBLE YOD",
     "hPUNCTUATION GERESHwSHAYIM"]⟩,
   ⟨0x600, ["aARABIC NUMBER SIGNhSIGN SANAHhFOOTNOTE MARKERhSIGN SAFHAoMVAT",
     "hNUMBER MARK ABOVEg-INDIC CUBE ROOTnFOURTH ROOTg RAYg-INDIC PER MILLE SIGN",
     "rTEN THOUSAND SIGNbFGHANI SIGNbRABIC COMMAhDATE SEPARATORhPOETIC VERSE SIGN",
     "hSIGN MISRAmSALLALLAHOU ALAYHE WASSALLAMmALAYHE ASSALLAMmRAHMATULLAH ALAYHE",
     "oDI ALLAHOU ANHUmTAKHALLUSiMALL HIGH TAHsLIGATURE ALEF WITH LAM WITH YEH",
     "sZAINnFATHAnDAMMAnKASRAiEMICOLONhLETTER MARKhEND OF TEXT MARK",
     "hTRIPLE DOT PUNCTUATION MARKhQUESTION MARKhLETTER KASHMIRI YEHoHAMZA",
     "oALEF WITH MADDA ABOVEyHAMZA ABOVEoWAW WITH HAMZA ABOVE",
     "oALEF WITH HAMZA BELOWoYEH WITH HAMZA ABOVEoALEFoBEHoTEH MARBUTArpHEHoJEEM",
     "oHAHoKHAHoDALoTHALoREHoZAINoSEENpHEENpADoDADoTAHoZAHoAINoGHAIN",
     "oKEHEH WITH TWO DOTS ABOVEzTHREE DOTS BELOWoFARSI YEH WITH INVERTED V",
     "zITH TWO DOTS ABOVEzITH THREE DOTS ABOVEhTATWEELhLETTER FEHoQAFoKAFoLAMoMEEM",
     "oNOONoHEHoWAWoALEF MAKSURAoYEHhFATHATANhDAMMATANhKASRATANhFATHAhDAMMAhKASRA",
     "hSHADDAiUKUNhMADDAH ABOVEhHAMZA ABOVEnBELOWhSUBSCRIPT ALEFhINVERTED DAMMA",
     "hMARK NOON GHUNNAhZWARAKAYhVOWEL SIGN SMALL V ABOVEsINVERTED SMALL V ABOVE",
     "sDOT BELOWhREVERSED DAMMAhFATHA WITH TWO DOTShWAVY HAMZA BELOW",
     "g-INDIC DIGIT ZEROtONEtTWOuHREEtFOURuIVEtSIXuEVENtEIGHTtNINEg PERCENT SIGN",
     "hDECIMAL SEPARATORhTHOUSANDS SEPARATORhFIVE POINTED STARhLETTER DOTLESS BEH",
     "wQAFoSUPERSCRIPT ALEFoALEF WASLAuITH WAVY HAMZA ABOVEzAVY HAMZA BELOW",
     "oHIGH HAMZAy ALEFzWAWoU WITH HAMZA ABOVEoHIGH HAMZA YEHoTTEHsEHoBEEH",
     "oTEH WITH RINGxTHREE DOTS ABOVE DOWNWARDSoPEHoTEHEHoBEHEH",
     "oHAH WITH HAMZA ABOVExTWO DOTS VERTICAL ABOVEoNYEHoDYEH",
     "oHAH WITH THREE DOTS ABOVEoTCHEHtEHoDDALpAL WITH RINGxDOT BELOW",
     "zT BELOW AND SMALL TAHqHALpDAHALpULpAL WITH THREE DOTS ABOVE DOWNWARDS",
     "xFOUR DOTS ABOVEoRREHpEH WITH SMALL VxRINGxDOT BELOWxSMALL V BELOW",
     "xDOT BELOW AND DOT ABOVExTWO DOTS ABOVEoJEHoREH WITH FOUR DOTS ABOVE",
     "oSEEN WITH DOT BELOW AND DOT ABOVEyTHREE DOTS BELOW",
     "zHREE DOTS BELOW AND THREE DOTS ABOVEpAD WITH TWO DOTS BELOWyHREE DOTS ABOVE",
     "oTAH WITH THREE DOTS ABOVEoAIN WITH THREE DOTS ABOVEoDOTLESS FEH",
     "oFEH WITH DOT MOVED BELOWzT BELOWoVEHoFEH WITH THREE DOTS BELOWoPEHEH",
     "oQAF WITH DOT ABOVExTHREE DOTS ABOVEoKEHEHoSWASH KAFoKAF WITH RINGxDOT ABOVE",
     "oNGoKAF WITH THREE DOTS BELOWoGAFr WITH RINGoNGOEHoGAF WITH TWO DOTS BELOW",
     "pUEHpAF WITH THREE DOTS ABOVEoLAM WITH SMALL VxDOT ABOVExTHREE DOTS ABOVE",
     "zREE DOTS BELOWoNOON WITH DOT BELOWtGHUNNAoRNOONoNOON WITH RING",
     "yTHREE DOTS ABOVEoHEH DOACHASHMEEoTCHEH WITH DOT ABOVEoHEH WITH YEH ABOVE",
     "sGOALw WITH HAMZA ABOVEoTEH MARBUTA GOALoWAW WITH RINGoKIRGHIZ OEoOEoUoYU",
     "oKIRGHIZ YUoWAW WITH TWO DOTS ABOVEoVEoFARSI YEHoYEH WITH TAILxSMALL V",
     "oWAW WITH DOT ABOVEoEoYEH WITH THREE DOTS BELOWsBARREEy WITH HAMZA ABOVE",
     "hFULL STOPhLETTER AEhSMALL HIGH LIGATURE SAD WITH LAM WITH ALEF MAKSURA",
     "zE QAF WITH LAM WITH ALEF MAKSURAsMEEM INITIAL FORMsLAM ALEFsJEEMsTHREE DOTS",
     "sSEENhEND OF AYAHhSTART OF RUB EL HIZBiMALL HIGH ROUNDED ZERO",
     "sUPRIGHT RECTANGULAR ZEROsDOTLESS HEAD OF KHAHsMEEM ISOLATED FORMnLOW SEEN",
     "nHIGH MADDAnWAWnYEHnHIGH YEHsNOONhPLACE OF SAJDAHhEMPTY CENTRE LOW STOP",
     "uHIGH STOPhROUNDED HIGH STOP WITH FILLED CENTREhSMALL LOW MEEM",
     "hLETTER DAL WITH INVERTED VoREH WITH INVERTED V",
     "aEXTENDED ARABIC-INDIC DIGIT ZEROzIT ONEzIT TWOzIT THREEzIT FOURzIT FIVE",
     "zIT SIXzIT SEVENzIT EIGHTzIT NINEaARABIC LETTER SHEEN WITH DOT BELOW",
     "oDAD WITH DOT BELOWoGHAIN WITH DOT BELOWhSIGN SINDHI AMPERSAND",
     "tPOSTPOSITION MENhLETTER HEH WITH INVERTED VaSYRIAC END OF PARAGRAPH",
     "hSUPRALINEAR FULL STOPjBLINEAR FULL STOPjPRALINEAR COLONjBLINEAR COLON",
     "hHORIZONTAL COLONhCOLON SKEWED LEFTuRIGHThSUPRALINEAR COLON SKEWED LEFT",
     "jBLINEAR COLON SKEWED RIGHThCONTRACTIONhHARKLEAN OBELUSqMETOBELUSqASTERISCUS"]⟩,
   ⟨0x70F, ["aSYRIAC ABBREVIATION MARKhLETTER ALAPHoSUPERSCRIPT ALAPHoBETHoGAMAL",
     "t GARSHUNIoDALATHpOTLESS DALATH RISHoHEoWAWoZAINoHETHoTETHs GARSHUNIoYUDH",
     "s HEoKAPHoLAMADHoMIMoNUNoSEMKATHoFINAL SEMKATHoEoPEoREVERSED PEoSADHEoQAPH",
     "oRISHoSHINoTAWoPERSIAN BHETHwGHAMALwDHALATHhPTHAHA ABOVEoBELOWoDOTTED",
     "hZQAPHA ABOVEoBELOWoDOTTEDhRBASA ABOVEnBELOWhDOTTED ZLAMA HORIZONTALuANGULAR",
     "hHBASA ABOVEnBELOWm-ESASA DOTTEDhESASA ABOVEnBELOWhRWAHAhFEMININE DOT",
     "hQUSHSHAYAhRUKKAKHAhTWO VERTICAL DOTS ABOVEzBELOWiHREE DOTS ABOVEsBELOW",
     "hOBLIQUE LINE ABOVEuBELOWhMUSIChBARREKH"]⟩,
   ⟨0x74D, ["aSYRIAC LETTER SOGDIAN ZHAINwKHAPHwFE",
     "aARABIC LETTER BEH WITH THREE DOTS HORIZONTALLY BELOW",
     "xDOT BELOW AND THREE DOTS ABOVExTHREE DOTS POINTING UPWARDS BELOW",
     "zREE DOTS POINTING UPWARDS BELOW AND TWO DOTS ABOVE",
     "yWO DOTS BELOW AND DOT ABOVExINVERTED SMALL V BELOWxSMALL V",
     "oHAH WITH TWO DOTS ABOVEyHREE DOTS POINTING UPWARDS BELOW",
     "oDAL WITH TWO DOTS VERTICALLY BELOW AND SMALL TAHxINVERTED SMALL V BELOW",
     "oREH WITH STROKEoSEEN WITH FOUR DOTS ABOVEoAIN WITH TWO DOTS ABOVE",
     "yHREE DOTS POINTING DOWNWARDS ABOVEyWO DOTS VERTICALLY ABOVE",
     "oFEH WITH TWO DOTS BELOWyHREE DOTS POINTING UPWARDS BELOW",
     "oKEHEH WITH DOT ABOVEzTHREE DOTS ABOVEzTHREE DOTS POINTING UPWARDS BELOW",
     "oMEEM WITH DOT ABOVEzOT BELOWoNOON WITH TWO DOTS BELOWySMALL TAHzMALL V",
     "oLAM WITH BARoREH WITH TWO DOTS VERTICALLY ABOVExHAMZA ABOVE",
     "oSEEN WITH TWO DOTS VERTICALLY ABOVEoHAH WITH SMALL ARABIC LETTER TAH BELOW",
     "zALL ARABIC LETTER TAH AND TWO DOTS",
     "oSEEN WITH SMALL ARABIC LETTER TAH AND TWO DOTS",
     "oREH WITH SMALL ARABIC LETTER TAH AND TWO DOTS",
     "oHAH WITH SMALL ARABIC LETTER TAH ABOVE",
     "oALEF WITH EXTENDED ARABIC-INDIC DIGIT TWO ABOVE",
     "zXTENDED ARABIC-INDIC DIGIT THREE ABOVE",
     "oFARSI YEH WITH EXTENDED ARABIC-INDIC DIGIT TWO ABOVE",
     "zITH EXTENDED ARABIC-INDIC DIGIT THREE ABOVE",
     "zITH EXTENDED ARABIC-INDIC DIGIT FOUR BELOW",
     "oWAW WITH EXTENDED ARABIC-INDIC DIGIT TWO ABOVE",
     "zTENDED ARABIC-INDIC DIGIT THREE ABOVE",
     "oYEH BARREE WITH EXTENDED ARABIC-INDIC DIGIT TWO ABOVE",
     "zWITH EXTENDED ARABIC-INDIC DIGIT THREE ABOVE",
     "oHAH WITH EXTENDED ARABIC-INDIC DIGIT FOUR BELOW",
     "oSEEN WITH EXTENDED ARABIC-INDIC DIGIT FOUR ABOVEyINVERTED V",
     "oKAF WITH TWO DOTS ABOVEaTHAANA LETTER HAAoSHAVIYANIoNOONUoRAAoBAAoLHAVIYANI",
     "oKAAFUoALIFUoVAAVUoMEEMUoFAAFUoDHAALUoTHAAoLAAMUoGAAFUpNAVIYANIoSEENU",
     "oDAVIYANIoZAVIYANIoTAVIYANIoYAAoPAVIYANIoJAVIYANIoCHAVIYANIoTTAAoHHAAoKHAA",
     "oTHAALUoZAAoSHEENUpAADHUoDAADHUoTOoZOoAINUoGHAINUoQAAFUoWAAVUhABAFILI",
     "iABAAFILIhIBIFILIhEEBEEFILIhUBUFILIhOOBOOFILIhEBEFILIiYBEYFILIhOBOFILI",
     "iABOAFILIhSUKUNhLETTER NAA"]⟩,
   ⟨0x7C0, ["aNKO DIGIT ZEROkONEkTWOlHREEkFOURlIVEkSIXlEVENkEIGHTkNINEeLETTER AlEElIlElU",
     "lOOmlDAGBASINNAlNlBAlPAlTAlJAlCHAlDAlRAmRAlSAlGBAlFAlKAlLAlNA WOLOSOlMAlNYA",
     "mAlHAlWAlYAlNYA WOLOSOlJONA JAqCHAqRAeCOMBINING SHORT HIGH TONEuLOW TONE",
     "uRISING TONEoLONG DESCENDING TONEtHIGH TONEtLOW TONEtRISING TONE",
     "oNASALIZATION MARKoDOUBLE DOT ABOVEeHIGH TONE APOSTROPHEeLOW TONE APOSTROPHE",
     "eSYMBOL OO DENNENlGBAKURUNENeCOMMAeEXCLAMATION MARKeLAJANYALAN"]⟩,
   ⟨0x7FD, ["aNKO DANTAYALANfOROME SIGNeTAMAN SIGNaSAMARITAN LETTER ALAFrBITrGAMANrDALAT",
     "rIYrBAArZENrITrTITrYUTrKAAFrLABATrMIMrNUNrSINGAATrINrFIrTSAADIYrQUFrRISH",
     "rSHANrTAAFkMARK INr-ALAFpOCCLUSIONpDAGESHlODIFIER LETTER EPENTHETIC YUT",
     "lARK EPENTHETIC YUTkVOWEL SIGN LONG EvEvOVERLONG AAvLONG AAvAAvOVERLONG A",
     "vLONG AvAkMODIFIER LETTER SHORT AkVOWEL SIGN SHORT AvLONG UvU",
     "kMODIFIER LETTER IkVOWEL SIGN LONG IvIvOvSUKUNkMARK NEQUDAA"]⟩,
   ⟨0x830, ["aSAMARITAN PUNCTUATION NEQUDAAwAFSAAQxNGEDwBAUwATMAAUwSHIYYAALAA",
     "kABBREVIATION MARKkPUNCTUATION MELODIC QITSAwZIQAAwQITSAwZAEFwTURUwARKAANU",
     "wSOF MASHFAATwANNAAU"]⟩,
   ⟨0x840, ["aMANDAIC LETTER HALQApABqGqDqHpUSHENNApAZpITpATTqKSArqLqMqNqSpINpAPqSZqQqR",
     "qSHqTpDUSHENNApKADpAINiAFFRICATION MARKiVOCALIZATION MARKiGEMINATION MARK"]⟩,
   ⟨0x85E, ["aMANDAIC PUNCTUATION"]⟩,
   ⟨0x860, ["aSYRIAC LETTER MALAYALAM NGAyJAyNYAyTTAyNNAzNNAyBHAyRAyLLAzLLAySSA"]⟩,
   ⟨0x870, ["aARABIC LETTER ALEF WITH ATTACHED FATHAzTTACHED TOP RIGHT FATHA",
     "yRIGHT MIDDLE STROKEyLEFT MIDDLE STROKEyATTACHED KASRA",
     "zTTACHED BOTTOM RIGHT KASRAzTTACHED ROUND DOT ABOVEzTTACHED RIGHT ROUND DOT",
     "zTTACHED LEFT ROUND DOTzTTACHED ROUND DOT BELOWyDOT ABOVE",
     "yATTACHED TOP RIGHT FATHA AND DOT ABOVEyRIGHT MIDDLE STROKE AND DOT ABOVE",
     "yATTACHED BOTTOM RIGHT KASRA AND DOT ABOVE",
     "zTTACHED TOP RIGHT FATHA AND LEFT RINGyRIGHT MIDDLE STROKE AND LEFT RING",
     "yATTACHED BOTTOM RIGHT KASRA AND LEFT RINGzTTACHED RIGHT HAMZA",
     "zTTACHED LEFT HAMZAhTATWEEL WITH OVERSTRUCK HAMZAzTRUCK WAWuTWO DOTS BELOW",
     "hLETTER THIN YEHhBASELINE ROUND DOThRAISED ROUND DOT",
     "hLETTER NOON WITH INVERTED SMALL VoHAH WITH INVERTED SMALL V BELOW",
     "oTAH WITH DOT BELOWxTHREE DOTS BELOWoKEHEH WITH TWO DOTS VERTICALLY BELOW",
     "hVERTICAL TAIL"]⟩,
   ⟨0x890, ["aARABIC POUND MARK ABOVEiIASTRE MARK ABOVE"]⟩,
   ⟨0x898, ["aARABIC SMALL HIGH WORD AL-JUZnLOW WORD ISHMAAMxMAALAwTASHEELhMADDA WAAJIB",
     "hSUPERSCRIPT ALEF MOKHASSAShDOUBLED MADDAhHALF MADDA OVER MADDA",
     "hLETTER BEH WITH SMALL V BELOWxHAMZA ABOVEoJEEM WITH TWO DOTS ABOVE",
     "oTAH WITH TWO DOTS ABOVEoFEH WITH DOT BELOW AND THREE DOTS ABOVE",
     "oQAF WITH DOT BELOWoLAM WITH DOUBLE BARoMEEM WITH THREE DOTS ABOVE",
     "oYEH WITH TWO DOTS BELOW AND HAMZA ABOVEzO DOTS BELOW AND DOT ABOVE",
     "oREH WITH LOOPoWAW WITH DOT WITHINoROHINGYA YEHoLOW ALEF",
     "oDAL WITH THREE DOTS BELOWoSAD WITH THREE DOTS BELOW",
     "oGAF WITH INVERTED STROKEoSTRAIGHT WAWoZAIN WITH INVERTED V ABOVE",
     "oAIN WITH THREE DOTS BELOWoKAF WITH DOT BELOW",
     "oQAF WITH DOT BELOW AND NO DOTS ABOVEoBEH WITH SMALL MEEM ABOVE",
     "oPEH WITH SMALL MEEM ABOVEoTEH WITH SMALL TEH ABOVE",
     "oREH WITH SMALL NOON ABOVEoYEH WITH TWO DOTS BELOW AND SMALL NOON ABOVE",
     "oAFRICAN FEHwQAFwNOONoPEH WITH SMALL VoTEH WITH SMALL VpTEH WITH SMALL V",
     "pCHEH WITH SMALL VoKEHEH WITH SMALL VoGHAIN WITH THREE DOTS ABOVE",
     "oAFRICAN QAF WITH THREE DOTS ABOVEoJEEM WITH THREE DOTS ABOVE",
     "zHREE DOTS BELOWoLAM WITH SMALL ARABIC LETTER TAH ABOVEoGRAFhSMALL FARSI YEH",
     "nHIGH FARSI YEHsYEH BARREE WITH TWO DOTS BELOWsWORD SAHsZAH",
     "hLARGE ROUND DOT ABOVExBELOWhSUKUN BELOWhLARGE CIRCLE BELOW",
     "nROUND DOT INSIDE CIRCLE BELOWhSMALL LOW WAWnHIGH WORD AR-RUBsSADsAINsQAF",
     "sNOON WITH KASRAnLOW NOON WITH KASRAnHIGH WORD ATH-THALATHAyS-SAJDAyN-NISF",
     "xSAKTAxQIFxWAQFAsFOOTNOTE MARKERsSIGN SAFHAhDISPUTED END OF AYAH",
     "hTURNED DAMMA BELOWhCURLY FATHAnDAMMAnKASRAnFATHATANnDAMMATANnKASRATAN",
     "hTONE ONE DOT ABOVEmTWO DOTS ABOVEmLOOP ABOVEmONE DOT BELOWmTWO DOTS BELOW",
     "mLOOP BELOWhOPEN FATHATANmDAMMATANmKASRATANhSMALL HIGH WAWhFATHA WITH RING",
     "sDOT ABOVEhKASRA WITH DOT BELOWhLEFT ARROWHEAD ABOVEhRIGHT ARROWHEAD ABOVE",
     "hLEFT ARROWHEAD BELOWhRIGHT ARROWHEAD BELOWhDOUBLE RIGHT ARROWHEAD ABOVE",
     "zHEAD ABOVE WITH DOThRIGHT ARROWHEAD ABOVE WITH DOThDAMMA WITH DOT",
     "hMARK SIDEWAYS NOON GHUNNAaDEVANAGARI SIGN INVERTED CANDRABINDUqCANDRABINDU",
     "qANUSVARAqVISARGAlLETTER SHORT AsAtAsItIsUtUsVOCALIC Rz LsCANDRA EsSHORT EsE",
     "sAIsCANDRA OsSHORT OsOsAUsKAtHAsGAtHAsNGAsCAtHAsJAtHAsNYAsTTAuHAsDDAuHAsNNA",
     "sTAtHAsDAtHAsNAtNNAsPAtHAsBAtHAsMAsYAsRAtRAsLAtLAuLAsVAsSHAtSAtAsHA",
     "lVOWEL SIGN OExOElSIGN NUKTAqAVAGRAHAlVOWEL SIGN AAwIxIwUxUwVOCALIC R",
     "zALIC RRwCANDRA EwSHORT EwEwAIwCANDRA OwSHORT OwOwAUlSIGN VIRAMA",
     "lVOWEL SIGN PRISHTHAMATRA EwAWlOMlSTRESS SIGN UDATTAxANUDATTAlGRAVE ACCENT",
     "lACUTE ACCENTlVOWEL SIGN CANDRA LONG EwUExUElLETTER QAsKHHAsGHHAsZAsDDDHA",
     "sRHAsFAsYYAsVOCALIC RRz LLlVOWEL SIGN VOCALIC LzALIC LLlDANDAmOUBLE DANDA",
     "mIGIT ZEROrONErTWOsHREErFOURsIVErSIXsEVENrEIGHTrNINElABBREVIATION SIGN",
     "lSIGN HIGH SPACING DOTlLETTER CANDRA AsOEtOEsAWsUEtUEsMARWARI DDAsZHA",
     "sHEAVY YAsGGAsJJAsGLOTTAL STOPsDDDAsBBAaBENGALI ANJIiSIGN CANDRABINDU",
     "nANUSVARAnVISARGA"]⟩,
   ⟨0x985, ["aBENGALI LETTER AqApIqIpUqUpVOCALIC RxL"]⟩,
   ⟨0x98F, ["aBENGALI LETTER EpAI"]⟩,
   ⟨0x993, ["aBENGALI LETTER OpAUpKAqHApGAqHApNGApCAqHApJAqHApNYApTTArHApDDArHApNNApTAqHA",
     "pDAqHApNA"]⟩,
   ⟨0x9AA, ["aBENGALI LETTER PAqHApBAqHApMApYApRA"]⟩,
   ⟨0x9B2, ["aBENGALI LETTER LA"]⟩,
   ⟨0x9B6, ["aBENGALI LETTER SHAqSAqApHA"]⟩,
   ⟨0x9BC, ["aBENGALI SIGN NUKTAnAVAGRAHAiVOWEL SIGN AAtIuItUuUtVOCALIC RzC RR"]⟩,
   ⟨0x9C7, ["aBENGALI VOWEL SIGN EtAI"]⟩,
   ⟨0x9CB, ["aBENGALI VOWEL SIGN OtAUiSIGN VIRAMAiLETTER KHANDA TA"]⟩,
   ⟨0x9D7, ["aBENGALI AU LENGTH MARK"]⟩,
   ⟨0x9DC, ["aBENGALI LETTER RRAqHA"]⟩,
   ⟨0x9DF, ["aBENGALI LETTER YYApVOCALIC RRxLLiVOWEL SIGN VOCALIC LzC LL"]⟩,
   ⟨0x9E6, ["aBENGALI DIGIT ZEROoONEoTWOpHREEoFOURpIVEoSIXpEVENoEIGHToNINE",
     "iLETTER RA WITH MIDDLE DIAGONALxLOWER DIAGONALiRUPEE MARKoSIGN",
     "iCURRENCY NUMERATOR ONEzR TWOzR THREEzR FOURzR ONE LESS THAN THE DENOMINATOR",
     "rDENOMINATOR SIXTEENiISSHARiGANDA MARKiLETTER VEDIC ANUSVARA",
     "iABBREVIATION SIGNiSANDHI MARK"]⟩,
   ⟨0xA01, ["aGURMUKHI SIGN ADAK BINDIoBINDIoVISARGA"]⟩,
   ⟨0xA05, ["aGURMUKHI LETTER ArAqIrIqUrU"]⟩,
   ⟨0xA0F, ["aGURMUKHI LETTER EEqAI"]⟩,
   ⟨0xA13, ["aGURMUKHI LETTER OOqAUqKArHAqGArHAqNGAqCArHAqJArHAqNYAqTTAsHAqDDAsHAqNNAqTA",
     "rHAqDArHAqNA"]⟩,
   ⟨0xA2A, ["aGURMUKHI LETTER PArHAqBArHAqMAqYAqRA"]⟩,
   ⟨0xA32, ["aGURMUKHI LETTER LArLA"]⟩,
   ⟨0xA35, ["aGURMUKHI LETTER VAqSHA"]⟩,
   ⟨0xA38, ["aGURMUKHI LETTER SAqHA"]⟩,
   ⟨0xA3C, ["aGURMUKHI SIGN NUKTA"]⟩,
   ⟨0xA3E, ["aGURMUKHI VOWEL SIGN AAuIvIuUvU"]⟩,
   ⟨0xA47, ["aGURMUKHI VOWEL SIGN EEuAI"]⟩,
   ⟨0xA4B, ["aGURMUKHI VOWEL SIGN OOuAUjSIGN VIRAMA"]⟩,
   ⟨0xA51, ["aGURMUKHI SIGN UDAAT"]⟩,
   ⟨0xA59, ["aGURMUKHI LETTER KHHAqGHHAqZAqRRA"]⟩,
   ⟨0xA5E, ["aGURMUKHI LETTER FA"]⟩,
   ⟨0xA66, ["aGURMUKHI DIGIT ZEROpONEpTWOqHREEpFOURqIVEpSIXqEVENpEIGHTpNINEjTIPPIjADDAK",
     "jIRIjURAjEK ONKARjSIGN YAKASHjABBREVIATION SIGN"]⟩,
   ⟨0xA81, ["aGUJARATI SIGN CANDRABINDUoANUSVARAoVISARGA"]⟩,
   ⟨0xA85, ["aGUJARATI LETTER ArAqIrIqUrUqVOCALIC RyLjVOWEL CANDRA E"]⟩,
   ⟨0xA8F, ["aGUJARATI LETTER EqAIjVOWEL CANDRA O"]⟩,
   ⟨0xA93, ["aGUJARATI LETTER OqAUqKArHAqGArHAqNGAqCArHAqJArHAqNYAqTTAsHAqDDAsHAqNNAqTA",
     "rHAqDArHAqNA"]⟩,
   ⟨0xAAA, ["aGUJARATI LETTER PArHAqBArHAqMAqYAqRA"]⟩,
   ⟨0xAB2, ["aGUJARATI LETTER LArLA"]⟩,
   ⟨0xAB5, ["aGUJARATI LETTER VAqSHArSArAqHA"]⟩,
   ⟨0xABC, ["aGUJARATI SIGN NUKTAoAVAGRAHAjVOWEL SIGN AAuIvIuUvUuVOCALIC RzIC RRuCANDRA E"]⟩,
   ⟨0xAC7, ["aGUJARATI VOWEL SIGN EuAIuCANDRA O"]⟩,
   ⟨0xACB, ["aGUJARATI VOWEL SIGN OuAUjSIGN VIRAMA"]⟩,
   ⟨0xAD0, ["aGUJARATI OM"]⟩,
   ⟨0xAE0, ["aGUJARATI LETTER VOCALIC RRyLLjVOWEL SIGN VOCALIC LzIC LL"]⟩,
   ⟨0xAE6, ["aGUJARATI DIGIT ZEROpONEpTWOqHREEpFOURqIVEpSIXqEVENpEIGHTpNINE",
     "jABBREVIATION SIGNjRUPEE SIGN"]⟩,
   ⟨0xAF9, ["aGUJARATI LETTER ZHAjSIGN SUKUNpHADDAoMADDAHoTHREE-DOT NUKTA ABOVE",
     "oCIRCLE NUKTA ABOVEoTWO-CIRCLE NUKTA ABOVE"]⟩,
   ⟨0xB01, ["aORIYA SIGN CANDRABINDUlANUSVARAlVISARGA"]⟩,
   ⟨0xB05, ["aORIYA LETTER AoAnIoInUoUnVOCALIC RvL"]⟩,
   ⟨0xB0F, ["aORIYA LETTER EnAI"]⟩,
   ⟨0xB13, ["aORIYA LETTER OnAUnKAoHAnGAoHAnNGAnCAoHAnJAoHAnNYAnTTApHAnDDApHAnNNAnTAoHA",
     "nDAoHAnNA"]⟩,
   ⟨0xB2A, ["aORIYA LETTER PAoHAnBAoHAnMAnYAnRA"]⟩,
   ⟨0xB32, ["aORIYA LETTER LAoLA"]⟩,
   ⟨0xB35, ["aORIYA LETTER VAnSHAoSAoAnHA"]⟩,
   ⟨0xB3C, ["aORIYA SIGN NUKTAlAVAGRAHAgVOWEL SIGN AArIsIrUsUrVOCALIC RzRR"]⟩,
   ⟨0xB47, ["aORIYA VOWEL SIGN ErAI"]⟩,
   ⟨0xB4B, ["aORIYA VOWEL SIGN OrAUgSIGN VIRAMA"]⟩,
   ⟨0xB55, ["aORIYA SIGN OVERLINEgAI LENGTH MARKhU LENGTH MARK"]⟩,
   ⟨0xB5C, ["aORIYA LETTER RRAoHA"]⟩,
   ⟨0xB5F, ["aORIYA LETTER YYAnVOCALIC RRvLLgVOWEL SIGN VOCALIC LzLL"]⟩,
   ⟨0xB66, ["aORIYA DIGIT ZEROmONEmTWOnHREEmFOURnIVEmSIXnEVENmEIGHTmNINEgISSHARgLETTER WA",
     "gFRACTION ONE QUARTERtHALFpTHREE QUARTERSpONE SIXTEENTHtEIGHTH",
     "pTHREE SIXTEENTHS"]⟩,
   ⟨0xB82, ["aTAMIL SIGN ANUSVARAlVISARGA"]⟩,
   ⟨0xB85, ["aTAMIL LETTER AoAnIoInUoU"]⟩,
   ⟨0xB8E, ["aTAMIL LETTER EoEnAI"]⟩,
   ⟨0xB92, ["aTAMIL LETTER OoOnAUnKA"]⟩,
   ⟨0xB99, ["aTAMIL LETTER NGAnCA"]⟩,
   ⟨0xB9C, ["aTAMIL LETTER JA"]⟩,
   ⟨0xB9E, ["aTAMIL LETTER NYAnTTA"]⟩,
   ⟨0xBA3, ["aTAMIL LETTER NNAnTA"]⟩,
   ⟨0xBA8, ["aTAMIL LETTER NAoNNAnPA"]⟩,
   ⟨0xBAE, ["aTAMIL LETTER MAnYAnRAoRAnLAoLApLAnVAnSHAoSAoAnHA"]⟩,
   ⟨0xBBE, ["aTAMIL VOWEL SIGN AArIsIrUsU"]⟩,
   ⟨0xBC6, ["aTAMIL VOWEL SIGN EsErAI"]⟩,
   ⟨0xBCA, ["aTAMIL VOWEL SIGN OsOrAUgSIGN VIRAMA"]⟩,
   ⟨0xBD0, ["aTAMIL OM"]⟩,
   ⟨0xBD7, ["aTAMIL AU LENGTH MARK"]⟩,
   ⟨0xBE6, ["aTAMIL DIGIT ZEROmONEmTWOnHREEmFOURnIVEmSIXnEVENmEIGHTmNINEgNUMBER TEN",
     "nONE HUNDREDrTHOUSANDgDAY SIGNgMONTH SIGNgYEAR SIGNgDEBIT SIGNgCREDIT SIGN",
     "gAS ABOVE SIGNgRUPEE SIGNgNUMBER SIGN"]⟩,
   ⟨0xC00, ["aTELUGU SIGN COMBINING CANDRABINDU ABOVEnANDRABINDUmANUSVARAmVISARGA",
     "mCOMBINING ANUSVARA ABOVEhLETTER ApAoIpIoUpUoVOCALIC RwL"]⟩,
   ⟨0xC0E, ["aTELUGU LETTER EpEoAI"]⟩,
   ⟨0xC12, ["aTELUGU LETTER OpOoAUoKApHAoGApHAoNGAoCApHAoJApHAoNYAoTTAqHAoDDAqHAoNNAoTA",
     "pHAoDApHAoNA"]⟩,
   ⟨0xC2A, ["aTELUGU LETTER PApHAoBApHAoMAoYAoRApRAoLApLAqLAoVAoSHApSApAoHA"]⟩,
   ⟨0xC3C, ["aTELUGU SIGN NUKTAmAVAGRAHAhVOWEL SIGN AAsItIsUtUsVOCALIC Rz RR"]⟩,
   ⟨0xC46, ["aTELUGU VOWEL SIGN EtEsAI"]⟩,
   ⟨0xC4A, ["aTELUGU VOWEL SIGN OtOsAUhSIGN VIRAMA"]⟩,
   ⟨0xC55, ["aTELUGU LENGTH MARKhAI LENGTH MARK"]⟩,
   ⟨0xC58, ["aTELUGU LETTER TSAoDZAoRRRA"]⟩,
   ⟨0xC5D, ["aTELUGU LETTER NAKAARA POLLU"]⟩,
   ⟨0xC60, ["aTELUGU LETTER VOCALIC RRwLLhVOWEL SIGN VOCALIC Lz LL"]⟩,
   ⟨0xC66, ["aTELUGU DIGIT ZEROnONEnTWOoHREEnFOURoIVEnSIXoEVENnEIGHTnNINE"]⟩,
   ⟨0xC77, ["aTELUGU SIGN SIDDHAMhFRACTION DIGIT ZERO FOR ODD POWERS OF FOUR",
     "wONE FOR ODD POWERS OF FOURwTWO FOR ODD POWERS OF FOUR",
     "xHREE FOR ODD POWERS OF FOURwONE FOR EVEN POWERS OF FOUR",
     "wTWO FOR EVEN POWERS OF FOURxHREE FOR EVEN POWERS OF FOURhSIGN TUUMU",
     "aKANNADA SIGN SPACING CANDRABINDUnCANDRABINDUnANUSVARAnVISARGAnSIDDHAM",
     "iLETTER AqApIqIpUqUpVOCALIC RxL"]⟩,
   ⟨0xC8E, ["aKANNADA LETTER EqEpAI"]⟩,
   ⟨0xC92, ["aKANNADA LETTER OqOpAUpKAqHApGAqHApNGApCAqHApJAqHApNYApTTArHApDDArHApNNApTA",
     "qHApDAqHApNA"]⟩,
   ⟨0xCAA, ["aKANNADA LETTER PAqHApBAqHApMApYApRAqRApLAqLA"]⟩,
   ⟨0xCB5, ["aKANNADA LETTER VApSHAqSAqApHA"]⟩,
   ⟨0xCBC, ["aKANNADA SIGN NUKTAnAVAGRAHAiVOWEL SIGN AAtIuItUuUtVOCALIC RzC RR"]⟩,
   ⟨0xCC6, ["aKANNADA VOWEL SIGN EuEtAI"]⟩,
   ⟨0xCCA, ["aKANNADA VOWEL SIGN OuOtAUiSIGN VIRAMA"]⟩,
   ⟨0xCD5, ["aKANNADA LENGTH MARKiAI LENGTH MARK"]⟩,
   ⟨0xCDD, ["aKANNADA LETTER NAKAARA POLLUpFA"]⟩,
   ⟨0xCE0, ["aKANNADA LETTER VOCALIC RRxLLiVOWEL SIGN VOCALIC LzC LL"]⟩,
   ⟨0xCE6, ["aKANNADA DIGIT ZEROoONEoTWOpHREEoFOURpIVEoSIXpEVENoEIGHToNINE"]⟩,
   ⟨0xCF1, ["aKANNADA SIGN JIHVAMULIYAnUPADHMANIYA"]⟩,
   ⟨0xD00, ["aMALAYALAM SIGN COMBINING ANUSVARA ABOVEqANDRABINDUpANUSVARApVISARGA",
     "kLETTER VEDIC ANUSVARArAsArIsIrUsUrVOCALIC RzL"]⟩,
   ⟨0xD0E, ["aMALAYALAM LETTER EsErAI"]⟩,
   ⟨0xD12, ["aMALAYALAM LETTER OsOrAUrKAsHArGAsHArNGArCAsHArJAsHArNYArTTAtHArDDAtHArNNA",
     "rTAsHArDAsHArNAsNNArPAsHArBAsHArMArYArRAsRArLAsLAtLArVArSHAsSAsArHArTTTA",
     "kSIGN VERTICAL BAR VIRAMApCIRCULAR VIRAMApAVAGRAHAkVOWEL SIGN AAvIwIvUwU",
     "vVOCALIC RzLIC RR"]⟩,
   ⟨0xD46, ["aMALAYALAM VOWEL SIGN EwEvAI"]⟩,
   ⟨0xD4A, ["aMALAYALAM VOWEL SIGN OwOvAUkSIGN VIRAMAkLETTER DOT REPHkSIGN PARA"]⟩,
   ⟨0xD54, ["aMALAYALAM LETTER CHILLU MyYyLLLkAU LENGTH MARK",
     "kFRACTION ONE ONE-HUNDRED-AND-SIXTIETHxFORTIETHtTHREE EIGHTIETHS",
     "tONE TWENTIETHyENTHtTHREE TWENTIETHStONE FIFTHkLETTER ARCHAIC IIrVOCALIC RR",
     "zLLkVOWEL SIGN VOCALIC LzLIC LL"]⟩,
   ⟨0xD66, ["aMALAYALAM DIGIT ZEROqONEqTWOrHREEqFOURrIVEqSIXrEVENqEIGHTqNINEkNUMBER TEN",
     "rONE HUNDREDvTHOUSANDkFRACTION ONE QUARTERxHALFtTHREE QUARTERStONE SIXTEENTH",
     "xEIGHTHtTHREE SIXTEENTHSkDATE MARKkLETTER CHILLU NNzyRRyLzLyK"]⟩,
   ⟨0xD81, ["aSINHALA SIGN CANDRABINDUnANUSVARAYAnVISARGAYA"]⟩,
   ⟨0xD85, ["aSINHALA LETTER AYANNAqAYANNAqEYANNArEYANNApIYANNAqIYANNApUYANNAqUYANNA",
     "pIRUYANNAsUYANNAqLUYANNAsUYANNApEYANNAqEYANNApAIYANNApOYANNAqOYANNApAUYANNA"]⟩,
   ⟨0xD9A, ["aSINHALA LETTER ALPAPRAANA KAYANNApMAHAAPRAANA KAYANNApALPAPRAANA GAYANNA",
     "pMAHAAPRAANA GAYANNApKANTAJA NAASIKYAYApSANYAKA GAYANNApALPAPRAANA CAYANNA",
     "pMAHAAPRAANA CAYANNApALPAPRAANA JAYANNApMAHAAPRAANA JAYANNA",
     "pTAALUJA NAASIKYAYAxSANYOOGA NAAKSIKYAYApSANYAKA JAYANNApALPAPRAANA TTAYANNA",
     "pMAHAAPRAANA TTAYANNApALPAPRAANA DDAYANNApMAHAAPRAANA DDAYANNA",
     "qUURDHAJA NAYANNApSANYAKA DDAYANNApALPAPRAANA TAYANNApMAHAAPRAANA TAYANNA",
     "pALPAPRAANA DAYANNApMAHAAPRAANA DAYANNApDANTAJA NAYANNA"]⟩,
   ⟨0xDB3, ["aSINHALA LETTER SANYAKA DAYANNApALPAPRAANA PAYANNApMAHAAPRAANA PAYANNA",
     "pALPAPRAANA BAYANNApMAHAAPRAANA BAYANNArYANNApAMBA BAYANNApYAYANNApRAYANNA"]⟩,
   ⟨0xDBD, ["aSINHALA LETTER DANTAJA LAYANNA"]⟩,
   ⟨0xDC0, ["aSINHALA LETTER VAYANNApTAALUJA SAYANNApMUURDHAJA SAYANNApDANTAJA SAYANNA",
     "pHAYANNApMUURDHAJA LAYANNApFAYANNA"]⟩,
   ⟨0xDCA, ["aSINHALA SIGN AL-LAKUNA"]⟩,
   ⟨0xDCF, ["aSINHALA VOWEL SIGN AELA-PILLAtKETTI AEDA-PILLAtDIGA AEDA-PILLA",
     "tKETTI IS-PILLAtDIGA IS-PILLAtKETTI PAA-PILLA"]⟩,
   ⟨0xDD6, ["aSINHALA VOWEL SIGN DIGA PAA-PILLA"]⟩,
   ⟨0xDD8, ["aSINHALA VOWEL SIGN GAETTA-PILLAtKOMBUVAtDIGA KOMBUVAtKOMBU DEKA",
     "yVA HAA AELA-PILLAzA HAA DIGA AELA-PILLAzA HAA GAYANUKITTAtGAYANUKITTA"]⟩,
   ⟨0xDE6, ["aSINHALA LITH DIGIT ZEROtONEtTWOuHREEtFOURuIVEtSIXuEVENtEIGHTtNINE"]⟩,
   ⟨0xDF2, ["aSINHALA VOWEL SIGN DIGA GAETTA-PILLAzAYANUKITTAiPUNCTUATION KUNDDALIYA"]⟩,
   ⟨0xE01, ["aTHAI CHARACTER KO KAIqHO KHAIvUATvWAIvONtRAKHANGpNGO NGUpCHO CHANvINGvANG",
     "pSO SOpCHO CHOEpYO YINGpDO CHADApTO PATAKqHO THANtNANGMONTHOtPHUTHAOpNO NEN",
     "pDO DEKpTO TAOqHO THUNGvAHANvONGpNO NUpBO BAIMAIpPO PLAqHO PHUNGpFO FA",
     "pPHO PHANpFO FANpPHO SAMPHAOpMO MApYO YAKpRO RUAqUpLO LINGqUpWO WAENpSO SALA",
     "sRUSIsSUApHO HIPpLO CHULApO ANGpHO NOKHUKpPAIYANNOIpSARA ApMAI HAN-AKAT",
     "pSARA AAvMuIvIuUEwEvvUpPHINTHU"]⟩,
   ⟨0xE3F, ["aTHAI CURRENCY SYMBOL BAHTgHARACTER SARA EuAEuOuAI MAIMUANzIMALAI",
     "pLAKKHANGYAOpMAIYAMOKsTAIKHUs EKtTHOuRItCHATTAWApTHANTHAKHATpNIKHAHIT",
     "pYAMAKKANpFONGMANfDIGIT ZEROlONElTWOmHREElFOURmIVElSIXmEVENlEIGHTlNINE",
     "fCHARACTER ANGKHANKHUpKHOMUT"]⟩,
   ⟨0xE81, ["aLAO LETTER KOmHO SUNG"]⟩,
   ⟨0xE84, ["aLAO LETTER KHO TAM"]⟩,
   ⟨0xE86, ["aLAO LETTER PALI GHAlNGOlCOlPALI CHAlSO TAM"]⟩,
   ⟨0xE8C, ["aLAO LETTER PALI JHAlNYOlPALI NYAqTTAsHAqDDAsHAqNNAlDOlTOmHO SUNGpTAM",
     "lPALI DHAlNOlBOlPOmHO SUNGlFO TAMlPHO TAMlFO SUNGlPALI BHAlMOlYOlLO LING"]⟩,
   ⟨0xEA5, ["aLAO LETTER LO LOOT"]⟩,
   ⟨0xEA7, ["aLAO LETTER WOlSANSKRIT SHAvSAmO SUNGlHO SUNGlPALI LLAlOlHO TAMeELLIPSIS",
     "eVOWEL SIGN ApMAI KANpAAqMpIqIpYqYpUqUeSIGN PALI VIRAMAeVOWEL SIGN MAI KON",
     "eSEMIVOWEL SIGN LOtNYO"]⟩,
   ⟨0xEC0, ["aLAO VOWEL SIGN EqIpOpAYqI"]⟩,
   ⟨0xEC6, ["aLAO KO LA"]⟩,
   ⟨0xEC8, ["aLAO TONE MAI EKnTHOoInCATAWAeCANCELLATION MARKeNIGGAHITA"]⟩,
   ⟨0xED0, ["aLAO DIGIT ZEROkONEkTWOlHREEkFOURlIVEkSIXlEVENkEIGHTkNINE"]⟩,
   ⟨0xEDC, ["aLAO HO NOhMOeLETTER KHMU GOqNYO"]⟩,
   ⟨0xF00, ["aTIBETAN SYLLABLE OMiMARK GTER YIG MGO TRUNCATED Az -UM RNAM BCAD MA",
     "z -UM GTER TSHEG MAnINITIAL YIG MGO MDUN MAnCLOSING YIG MGO SGAB MA",
     "oARET YIG MGO PHUR SHAD MAnYIG MGO TSHEG SHAD MAnSBRUL SHADnBSKUR YIG MGO",
     "oKA- SHOG YIG MGOnINTERSYLLABIC TSHEGnDELIMITER TSHEG BSTARnSHADnNYIS SHAD",
     "nTSHEG SHADnNYIS TSHEG SHADnRIN CHEN SPUNGS SHADoGYA GRAM SHAD",
     "nCARET -DZUD RTAGS ME LONG CANnGTER TSHEGiLOGOTYPE SIGN CHAD RTAGS",
     "wLHAG RTAGSiASTROLOGICAL SIGN SGRA GCAN -CHAR RTAGSz -KHYUD PAz SDONG TSHUGS",
     "iSIGN RDEL DKAR GCIGyNYISySUMsNAG GCIGxNYISsDKAR RDEL NAGiDIGIT ZEROoONEoTWO",
     "pHREEoFOURpIVEoSIXpEVENoEIGHToNINEoHALF ONEtTWOuHREEtFOURuIVEtSIXuEVENtEIGHT",
     "tNINEtZEROiMARK BSDUS RTAGSnNGAS BZUNG NYI ZLA",
     "nCARET -DZUD RTAGS BZHI MIG CANnNGAS BZUNG SGOR RTAGSnCHE MGOnTSA -PHRU",
     "nGUG RTAGS GYONzASnANG KHANG GYONzASiSIGN YAR TSHESnMAR TSHESiLETTER KAqHA",
     "pGAqHApNGApCAqHApJA"]⟩,
   ⟨0xF49, ["aTIBETAN LETTER NYApTTArHApDDArHApNNApTAqHApDAqHApNApPAqHApBAqHApMApTSArHA",
     "pDZArHApWApZHAqAp-ApYApRApLApSHAqSAqApHApApKSSApFIXED-FORM RApKKApRRA"]⟩,
   ⟨0xF71, ["aTIBETAN VOWEL SIGN AAtIuItUuUtVOCALIC RzC RRzC LzC LLtEuEtOuO",
     "iSIGN RJES SU NGA ROoNAM BCADiVOWEL SIGN REVERSED IzED II",
     "iSIGN NYI ZLA NAA DAnSNA LDANiMARK HALANTAnPALUTAiSIGN LCI RTAGSnYANG RTAGS",
     "nLCE TSA CANnMCHU CANnGRU CAN RGYINGSrMED RGYINGSnINVERTED MCHU CAN",
     "jUBJOINED SIGN LCE TSA CANxMCHU CANxINVERTED MCHU CANsLETTER KAzKHAzGAzGHA",
     "zNGAzCAzCHAzJA"]⟩,
   ⟨0xF99, ["aTIBETAN SUBJOINED LETTER NYAzTTAzTTHAzDDAzDDHAzNNAzTAzTHAzDAzDHAzNAzPAzPHA",
     "zBAzBHAzMAzTSAzTSHAzDZAzDZHAzWAzZHAzZAz-AzYAzRAzLAzSHAzSSAzSAzHAzAzKSSA",
     "zFIXED-FORM WAzFIXED-FORM YAzFIXED-FORM RA"]⟩,
   ⟨0xFBE, ["aTIBETAN KU RU KHAr BZHI MIG CANiCANTILLATION SIGN HEAVY BEATz LIGHT BEAT",
     "z CANG TE-Uz SBUB -CHALiSYMBOL DRIL BUpRDO RJEpPADMA GDANpRDO RJE RGYA GRAM",
     "pPHUR PApNOR BUv NYIS -KHYILwGSUM -KHYILwBZHI -KHYIL"]⟩,
   ⟨0xFCE, ["aTIBETAN SIGN RDEL NAG RDEL DKARwGSUMiMARK BSKA- SHOG GI MGO RGYAN",
     "nMNYAM YIG GI MGO RGYANnNYIS TSHEGnINITIAL BRDA RNYING YIG MGO MDUN MA",
     "nCLOSING BRDA RNYING YIG MGO SGAB MAaRIGHT-FACING SVASTI SIGN",
     "aLEFT-FACING SVASTI SIGNaRIGHT-FACING SVASTI SIGN WITH DOTS",
     "aLEFT-FACING SVASTI SIGN WITH DOTSaTIBETAN MARK LEADING MCHAN RTAGS",
     "nTRAILING MCHAN RTAGS"]⟩,
   ⟨0x1000, ["aMYANMAR LETTER KAqHApGAqHApNGApCAqHApJAqHApNYAqNYApTTArHApDDArHApNNApTAqHA",
     "pDAqHApNApPAqHApBAqHApMApYApRApLApWApSApHApLLApApSHAN ApIqIpUqUpEpMON EpOpAU",
     "iVOWEL SIGN TALL AAtAAtIuItUuUtEtAItMON IIxOtE ABOVEiSIGN ANUSVARAnDOT BELOW",
     "nVISARGApRAMAnASATiCONSONANT SIGN MEDIAL YAzDIAL RAzDIAL WAzDIAL HA",
     "iLETTER GREAT SAiDIGIT ZEROoONEoTWOpHREEoFOURpIVEoSIXpEVENoEIGHToNINE",
     "iSIGN LITTLE SECTIONnSECTIONjYMBOL LOCATIVEpCOMPLETEDpAFOREMENTIONED",
     "pGENITIVEiLETTER SHAqSApVOCALIC RyRxLyLiVOWEL SIGN VOCALIC RzC RRzC LzC LL",
     "iLETTER MON NGAtJHAtBBAvEiCONSONANT SIGN MON MEDIAL NAzN MEDIAL MA",
     "zN MEDIAL LAiLETTER SGAW KAREN SHAiVOWEL SIGN SGAW KAREN EU",
     "iTONE MARK SGAW KAREN HATHIzREN KE PHOiLETTER WESTERN PWO KAREN THA",
     "zO KAREN PWAiVOWEL SIGN WESTERN PWO KAREN EUzN PWO KAREN UE",
     "iSIGN WESTERN PWO KAREN TONE-1zKAREN TONE-2zKAREN TONE-3zKAREN TONE-4",
     "zKAREN TONE-5iLETTER EASTERN PWO KAREN NNAzO KAREN YWAzO KAREN GHWA",
     "iVOWEL SIGN GEBA KAREN ItKAYAH OEzUzEEiLETTER SHAN KAvHAuGAuCAuZAuNYAuDAuNA",
     "uPHAuFAuBAuTHAuHAiCONSONANT SIGN SHAN MEDIAL WAiVOWEL SIGN SHAN AAyEz ABOVE",
     "yFINAL YiSIGN SHAN TONE-2x3x5x6sCOUNCIL TONE-2z TONE-3z EMPHATIC TONE",
     "iLETTER RUMAI PALAUNG FAiSIGN RUMAI PALAUNG TONE-5jHAN DIGIT ZEROtONEtTWO",
     "uHREEtFOURuIVEtSIXuEVENtEIGHTtNINEjIGN KHAMTI TONE-1z3iVOWEL SIGN AITON AzAI",
     "iSYMBOL SHAN ONEuEXCLAMATIONaGEORGIAN CAPITAL LETTER ANyBANyGANyDONyENyVIN",
     "yZENyTANyINyKANyLASyMANyNARyONyPARyZHARyRAEySANyTARyUNyPHARyKHARyGHANyQAR",
     "ySHINyCHINzANyJILyCILzHARyXANyJHANyHAEzEzIEyWEyHARzOE"]⟩,
   ⟨0x10C7, ["aGEORGIAN CAPITAL LETTER YN"]⟩,
   ⟨0x10CD, ["aGEORGIAN CAPITAL LETTER AEN"]⟩,
   ⟨0x10D0, ["aGEORGIAN LETTER ANqBANqGANqDONqENqVINqZENqTANqINqKANqLASqMANqNARqONqPAR",
     "qZHARqRAEqSANqTARqUNqPHARqKHARqGHANqQARqSHINqCHINrANqJILqCILrHARqXANqJHAN",
     "qHAErErIEqWEqHARrOEqFIqYNqELIFIqTURNED GANqAINjPARAGRAPH SEPARATOR",
     "aMODIFIER LETTER GEORGIAN NARaGEORGIAN LETTER AENqHARD SIGNqLABIAL SIGN",
     "aHANGUL CHOSEONG KIYEOKqSSANGKIYEOKqNIEUNqTIKEUTqSSANGTIKEUTqRIEULqMIEUM",
     "qPIEUPqSSANGPIEUPrIOSrSANGSIOSqIEUNGqCIEUCqSSANGCIEUCqCHIEUCHqKHIEUKH",
     "qTHIEUTHqPHIEUPHqHIEUHqNIEUN-KIYEOKqSSANGNIEUNqNIEUN-TIKEUTwPIEUP",
     "qTIKEUT-KIYEOKqRIEUL-NIEUNqSSANGRIEULqRIEUL-HIEUHqKAPYEOUNRIEULqMIEUM-PIEUP",
     "qKAPYEOUNMIEUMqPIEUP-KIYEOKwNIEUNwTIKEUTwSIOSzS-KIYEOKzS-TIKEUTzS-PIEUP",
     "xSANGSIOSxIOS-CIEUCwCIEUCxHIEUCHwTHIEUTHwPHIEUPHqKAPYEOUNPIEUPySSANGPIEUP",
     "qSIOS-KIYEOKvNIEUNvTIKEUTvRIEULvMIEUMvPIEUPzP-KIYEOKvSSANGSIOSvIEUNGvCIEUC",
     "wHIEUCHvKHIEUKHvTHIEUTHvPHIEUPHvHIEUHqCHITUEUMSIOSzSANGSIOSrEONGCHIEUMSIOS",
     "zUMSSANGSIOSqPANSIOSqIEUNG-KIYEOKwTIKEUTwMIEUMwPIEUPwSIOSwPANSIOSqSSANGIEUNG",
     "qIEUNG-CIEUCxHIEUCHwTHIEUTHwPHIEUPHqYESIEUNGqCIEUC-IEUNGrHITUEUMCIEUC",
     "ySSANGCIEUCrEONGCHIEUMCIEUCzUMSSANGCIEUCrHIEUCH-KHIEUKHyHIEUHtTUEUMCHIEUCH",
     "rEONGCHIEUMCHIEUCHqPHIEUPH-PIEUPqKAPYEOUNPHIEUPHqSSANGHIEUHqYEORINHIEUH",
     "qKIYEOK-TIKEUTqNIEUN-SIOSwCIEUCwHIEUHqTIKEUT-RIEULqFILLERhJUNGSEONG FILLERrA",
     "sErYAtErEOsrYEOtrOrWAtErOErYOrUrWEOtsIrYUrEUrYIrIrA-OtUrYA-OuYOrEO-OuUuEU",
     "rYEO-OvUrO-EOutYEtOtUrYO-YAwEvEOuOuIrU-AuEtEO-EUtYEtUrYU-AuEOvuYEOwuUuIrEU-U",
     "uEUrYI-UrI-AtYAtOtUtEUtARAEArARAEAw-EOxUxIrSSANGARAEArA-EUrYA-UsEO-YArO-YAvE",
     "iONGSEONG KIYEOKrSSANGKIYEOKrKIYEOK-SIOSrNIEUNw-CIEUCxHIEUHrTIKEUTrRIEUL",
     "w-KIYEOKxMIEUMxPIEUPxSIOSxTHIEUTHxPHIEUPHxHIEUHrMIEUMrPIEUPw-SIOSrSIOS",
     "sSANGSIOSrIEUNGrCIEUCsHIEUCHrKHIEUKHrTHIEUTHrPHIEUPHrHIEUHrKIYEOK-RIEUL",
     "ySIOS-KIYEOKrNIEUN-KIYEOKxTIKEUTxSIOSxPANSIOSxTHIEUTHrTIKEUT-KIYEOKyRIEUL",
     "rRIEUL-KIYEOK-SIOSxNIEUNxTIKEUTzKEUT-HIEUHrSSANGRIEULrRIEUL-MIEUM-KIYEOK",
     "zEUM-SIOSxPIEUP-SIOSzEUP-HIEUHxKAPYEOUNPIEUPxSSANGSIOSxPANSIOSxKHIEUKH",
     "xYEORINHIEUHrMIEUM-KIYEOKxRIEULxPIEUPxSIOSySANGSIOSxPANSIOSxCHIEUCHxHIEUH",
     "rKAPYEOUNMIEUMrPIEUP-RIEULxPHIEUPHxHIEUHrKAPYEOUNPIEUPrSIOS-KIYEOKwTIKEUT",
     "wRIEULwPIEUPrPANSIOSrIEUNG-KIYEOKxSSANGKIYEOKrSSANGIEUNGrIEUNG-KHIEUKH",
     "rYESIEUNGz-SIOSz-PANSIOSrPHIEUPH-PIEUPrKAPYEOUNPHIEUPHrHIEUH-NIEUNxRIEUL",
     "xMIEUMxPIEUPrYEORINHIEUHrKIYEOK-NIEUNyPIEUPyCHIEUCHyKHIEUKHyHIEUHrSSANGNIEUN",
     "aETHIOPIC SYLLABLE HAtUtItAAtEEutOuAsLAtUtItAAtEEutOtWAsHHAuUuIuAAuEEvuOuWA",
     "sMAtUtItAAtEEutOtWAsSZAuUuIuAAuEEvuOuWAsRAtUtItAAtEEutOtWAsSAtUtItAAtEEutO",
     "tWAtHAuUuIuAAuEEvuOuWAsQAtUtItAAtEEutOuAtWA"]⟩,
   ⟨0x124A, ["aETHIOPIC SYLLABLE QWIuAAuEEv"]⟩,
   ⟨0x1250, ["aETHIOPIC SYLLABLE QHAuUuIuAAuEEvuO"]⟩,
   ⟨0x1258, ["aETHIOPIC SYLLABLE QHWA"]⟩,
   ⟨0x125A, ["aETHIOPIC SYLLABLE QHWIvAAvEEw"]⟩,
   ⟨0x1260, ["aETHIOPIC SYLLABLE BAtUtItAAtEEutOtWAsVAtUtItAAtEEutOtWAsTAtUtItAAtEEutOtWA",
     "sCAtUtItAAtEEutOtWAsXAtUtItAAtEEutOuAtWA"]⟩,
   ⟨0x128A, ["aETHIOPIC SYLLABLE XWIuAAuEEv"]⟩,
   ⟨0x1290, ["aETHIOPIC SYLLABLE NAtUtItAAtEEutOtWAtYAuUuIuAAuEEvuOuWAsGLOTTAL Az Uz Iz AA",
     "z EEz Ez Oz WAsKAtUtItAAtEEutOuAtWA"]⟩,
   ⟨0x12B2, ["aETHIOPIC SYLLABLE KWIuAAuEEv"]⟩,
   ⟨0x12B8, ["aETHIOPIC SYLLABLE KXAuUuIuAAuEEvuO"]⟩,
   ⟨0x12C0, ["aETHIOPIC SYLLABLE KXWA"]⟩,
   ⟨0x12C2, ["aETHIOPIC SYLLABLE KXWIvAAvEEw"]⟩,
   ⟨0x12C8, ["aETHIOPIC SYLLABLE WAtUtItAAtEEutOuAsPHARYNGEAL AzEAL UzEAL IzEAL AAzEAL EE",
     "zEAL EzEAL O"]⟩,
   ⟨0x12D8, ["aETHIOPIC SYLLABLE ZAtUtItAAtEEutOtWAtHAuUuIuAAuEEvuOuWAsYAtUtItAAtEEutOuA",
     "sDAtUtItAAtEEutOtWAtDAuUuIuAAuEEvuOuWAsJAtUtItAAtEEutOtWAsGAtUtItAAtEEutOuA",
     "tWA"]⟩,
   ⟨0x1312, ["aETHIOPIC SYLLABLE GWIuAAuEEv"]⟩,
   ⟨0x1318, ["aETHIOPIC SYLLABLE GGAuUuIuAAuEEvuOuWAAsTHAuUuIuAAuEEvuOuWAsCHAuUuIuAAuEEvuO",
     "uWAsPHAuUuIuAAuEEvuOuWAsTSAuUuIuAAuEEvuOuWAtZAuUuIuAAuEEvuOvAsFAtUtItAAtEEu",
     "tOtWAsPAtUtItAAtEEutOtWAsRYAsMYAsFYA"]⟩,
   ⟨0x135D, ["aETHIOPIC COMBINING GEMINATION AND VOWEL LENGTH MARKtVOWEL LENGTH MARK",
     "tGEMINATION MARKjSECTION MARKjWORDSPACEjFULL STOPjCOMMAjSEMICOLONjCOLON",
     "jPREFACE COLONjQUESTION MARKjPARAGRAPH SEPARATORjDIGIT ONEpTWOqHREEpFOURqIVE",
     "pSIXqEVENpEIGHTpNINEjNUMBER TENrWENTYrHIRTYqFORTYrIFTYqSIXTYrEVENTYqEIGHTY",
     "qNINETYqHUNDREDqTEN THOUSAND"]⟩,
   ⟨0x1380, ["aETHIOPIC SYLLABLE SEBATBEIT MWAsMWIuEEvsSEBATBEIT BWAsBWIuEEvsSEBATBEIT FWA",
     "sFWIuEEvsSEBATBEIT PWAsPWIuEEvjTONAL MARK YIZETuDERETuRIKRIKuSHORT RIKRIK",
     "uDIFATuKENATuCHIRETuHIDETuDERET-HIDETuKURT"]⟩,
   ⟨0x13A0, ["aCHEROKEE LETTER AqEqIqOqUqVqGAqKAqGErIrOrUrVqHArErIrOrUrVqLArErIrOrUrVqMArE",
     "rIrOrUqNAqHNAqNAHrErIrOrUrVqQUAsEsIsOsUsVqSArrErIrOrUrVqDAqTAqDEqTEqDIqTIqDO",
     "rUrVrLAqTLAsEsIsOsUsVrSAsEsIsOsUsVqWArErIrOrUrVqYArErIrOrUrVqMV"]⟩,
   ⟨0x13F8, ["aCHEROKEE SMALL LETTER YExIxOxUxVwMV"]⟩,
   ⟨0x1400, ["aCANADIAN SYLLABICS HYPHENtEtAAItIuItOuOtY-CREE OOtCARRIER EEzR ItAuAtWE",
     "vST-CREE WEuIuEST-CREE WIuIIuEST-CREE WIIuOuEST-CREE WOuOOuEST-CREE WOO",
     "tNASKAPI WOOtWAuEST-CREE WAuAAuEST-CREE WAAtNASKAPI WAAtAItY-CREE W",
     "tGLOTTAL STOPtFINAL ACUTEzGRAVEzBOTTOM HALF RINGzTOP HALF RING",
     "zRIGHT HALF RINGzRINGzDOUBLE ACUTEzDOUBLE SHORT VERTICAL STROKESzMIDDLE DOT",
     "zSHORT HORIZONTAL STROKEzPLUSzDOWN TACKtENtINtONtANtPEuAAIuIvIuOvO",
     "tY-CREE POOtCARRIER HEEzR HItPAvAuWEtWEST-CREE PWEtPWItWEST-CREE PWItPWII",
     "tWEST-CREE PWIItPWOtWEST-CREE PWOtPWOOtWEST-CREE PWOOtPWAtWEST-CREE PWAtPWAA",
     "tWEST-CREE PWAAtY-CREE PWAAtPtWEST-CREE PtCARRIER HtTEuAAIuIvIuOvO",
     "tY-CREE TOOtCARRIER DEEzR DItTAvAuWEtWEST-CREE TWEtTWItWEST-CREE TWItTWII",
     "tWEST-CREE TWIItTWOtWEST-CREE TWOtTWOOtWEST-CREE TWOOtTWAtWEST-CREE TWAtTWAA",
     "tWEST-CREE TWAAtNASKAPI TWAAtTuTEvIvOvAtKEuAAIuIvIuOvOtY-CREE KOOtKAvAuWE",
     "tWEST-CREE KWEtKWItWEST-CREE KWItKWIItWEST-CREE KWIItKWOtWEST-CREE KWOtKWOO",
     "tWEST-CREE KWOOtKWAtWEST-CREE KWAtKWAAtWEST-CREE KWAAtNASKAPI KWAAtKuW",
     "tSOUTH-SLAVEY KEHzSLAVEY KIHzSLAVEY KOHzSLAVEY KAHtCEuAAIuIvIuOvOtY-CREE COO",
     "tCAvAuWEtWEST-CREE CWEtCWItWEST-CREE CWItCWIItWEST-CREE CWIItCWO",
     "tWEST-CREE CWOtCWOOtWEST-CREE CWOOtCWAtWEST-CREE CWAtCWAAtWEST-CREE CWAA",
     "tNASKAPI CWAAtCtSAYISI THtMEuAAIuIvIuOvOtY-CREE MOOtMAvAuWEtWEST-CREE MWE",
     "tMWItWEST-CREE MWItMWIItWEST-CREE MWIItMWOtWEST-CREE MWOtMWOOtWEST-CREE MWOO",
     "tMWAtWEST-CREE MWAtMWAAtWEST-CREE MWAAtNASKAPI MWAAtMtWEST-CREE MtMH",
     "tATHAPASCAN MtSAYISI MtNEuAAIuIvIuOvOtY-CREE NOOtNAvAuWEtWEST-CREE NWEtNWA",
     "tWEST-CREE NWAtNWAAtWEST-CREE NWAAtNASKAPI NWAAutCARRIER NGtNHtLEuAAIuIvIuO",
     "vOtY-CREE LOOtLAvAuWEtWEST-CREE LWEtLWItWEST-CREE LWItLWIItWEST-CREE LWII",
     "tLWOtWEST-CREE LWOtLWOOtWEST-CREE LWOOtLWAtWEST-CREE LWAtLWAAtWEST-CREE LWAA",
     "tLtWEST-CREE LtMEDIAL LtSEuAAIuIvIuOvOtY-CREE SOOtSAvAuWEtWEST-CREE SWEtSWI",
     "tWEST-CREE SWItSWIItWEST-CREE SWIItSWOtWEST-CREE SWOtSWOOtWEST-CREE SWOOtSWA",
     "tWEST-CREE SWAtSWAAtWEST-CREE SWAAtNASKAPI SWAAtStATHAPASCAN StSW",
     "tBLACKFOOT StMOOSE-CREE SKtNASKAPI SKWzI S-WzI SPWAzI STWAzI SKWAzI SCWAtSHE",
     "vIwIvOwOvAwAvWEtWEST-CREE SHWEtSHWItWEST-CREE SHWItSHWIItWEST-CREE SHWII",
     "tSHWOtWEST-CREE SHWOtSHWOOtWEST-CREE SHWOOtSHWAtWEST-CREE SHWAtSHWAA",
     "tWEST-CREE SHWAAtSHtYEuAAIuIvIuOvOu-CREE YOOuAvAuWEtWEST-CREE YWEtYWI",
     "tWEST-CREE YWItYWIItWEST-CREE YWIItYWOtWEST-CREE YWOtYWOOtWEST-CREE YWOOtYWA",
     "tWEST-CREE YWAtYWAAtWEST-CREE YWAAtNASKAPI YWAAtYtBIBLE-CREE YtWEST-CREE Y",
     "tSAYISI YItREu-CREE REtWEST-CREE LEtRAAIuIvIuOvOtWEST-CREE LOtRAvA",
     "tWEST-CREE LAtRWAAtWEST-CREE RWAAtRtWEST-CREE RtMEDIAL RtFEuAAIuIvIuOvOuAvA",
     "uWAAtWEST-CREE FWAAtFtTHEtN-CREE THEtTHItN-CREE THItTHIItN-CREE THIItTHOwOvA",
     "wAvWAAtWEST-CREE THWAAtTHuTHEwIwOwAwuYEvIvOvAtNUNAVIK HEzK HIzK HIIzK HO",
     "zK HOOzK HAzK HAAzK HyUT HtHKtQAAIuIvIuOvOuAvAutTLHEwIwOwAtWEST-CREE RE",
     "zREE RIzREE ROzREE RAtNGAAIvIwIvOwOvAwAvuNGtSAYISI SHEz SHIz SHOz SHA",
     "tWOODS-CREE THEzCREE THIzCREE THOzCREE THAzCREE THtLHIwIvOwOvAwAv",
     "tTH-CREE THEzE THIzE THIIzE THOzE THOOzE THAzE THAAzE THtAIVILIK B",
     "tBLACKFOOT EzOOT IzOOT OzOOT AzOOT WEzOOT WIzOOT WOzOOT WAzOOT NEzOOT NI",
     "zOOT NOzOOT NAzOOT KEzOOT KIzOOT KOzOOT KAtSAYISI HEz HIz HOz HAtCARRIER GHU",
     "zR GHOzR GHEzR GHEEzR GHIzR GHAzR RUzR ROzR REzR REEzR RIzR RAzR WUzR WO",
     "zR WEzR WEEzR WIzR WAzR HWUzR HWOzR HWEzR HWEEzR HWIzR HWAzR THUzR THOzR THE",
     "zR THEEzR THIzR THAzR TTUzR TTOzR TTEzR TTEEzR TTIzR TTAzR PUzR POzR PE",
     "zR PEEzR PIzR PAzR PzR GUzR GOzR GEzR GEEzR GIzR GAzR KHUzR KHOzR KHEzR KHEE",
     "zR KHIzR KHAzR KKUzR KKOzR KKEzR KKEEzR KKIzR KKAzR KKzR NUzR NOzR NEzR NEE",
     "zR NIzR NAzR MUzR MOzR MEzR MEEzR MIzR MAzR YUzR YOzR YEzR YEEzR YIzR YA",
     "zR JUtSAYISI JUtCARRIER JOzR JEzR JEEzR JItSAYISI JItCARRIER JAzR JJUzR JJO",
     "zR JJEzR JJEEzR JJIzR JJAzR LUzR LOzR LEzR LEEzR LIzR LAzR DLUzR DLOzR DLE",
     "zR DLEEzR DLIzR DLAzR LHUzR LHOzR LHEzR LHEEzR LHIzR LHAzR TLHUzR TLHO",
     "zR TLHEzR TLHEEzR TLHIzR TLHAzR TLUzR TLOzR TLEzR TLEEzR TLIzR TLAzR ZUzR ZO",
     "zR ZEzR ZEEzR ZIzR ZAzR ZzR INITIAL ZzR DZUzR DZOzR DZEzR DZEEzR DZIzR DZA",
     "zR SUzR SOzR SEzR SEEzR SIzR SAzR SHUzR SHOzR SHEzR SHEEzR SHIzR SHAzR SH",
     "zR TSUzR TSOzR TSEzR TSEEzR TSIzR TSAzR CHUzR CHOzR CHEzR CHEEzR CHIzR CHA",
     "zR TTSUzR TTSOzR TTSEzR TTSEEzR TTSIzR TTSAuHI SIGNtFULL STOPtQAItNGAIuNGIxI",
     "wOxOwAxAtWOODS-CREE THWEEzCREE THWIzCREE THWIIzCREE THWOzCREE THWOO",
     "zCREE THWAzCREE THWAAzCREE FINAL THtBLACKFOOT WaOGHAM SPACE MARK",
     "gLETTER BEITHnLUISnFEARNnSAILnNIONnUATHnDAIRnTINNEnCOLLoEIRTnMUINnGORT",
     "nNGEADALnSTRAIFnRUISnAILMnONNnURnEADHADHnIODHADHnEABHADHnORnUILLEANNnIFIN",
     "nEAMHANCHOLLnPEITHgFEATHER MARKgREVERSED FEATHER MARK"]⟩,
   ⟨0x16A0, ["aRUNIC LETTER FEHU FEOH FE FnVnURUZ UR UnYRonWnTHURISAZ THURS THORNnETH",
     "nANSUZ AnOS OnAC AoESCnLONG-BRANCH-OSS OnSHORT-TWIG-OSS OnOoEoN",
     "nRAIDO RAD REID RnKAUNAnCENnKAUN KnGnENGnGEBO GYFU GoARnWUNJO WYNN W",
     "nHAGLAZ HpEGL HnLONG-BRANCH-HAGALL HnSHORT-TWIG-HAGALL HnNAUDIZ NYD NAUD N",
     "nSHORT-TWIG-NAUD NnDOTTED-NnISAZ IS ISS InEnJERAN JnGERnLONG-BRANCH-AR AE",
     "nSHORT-TWIG-AR AnIWAZ EOHnPERTHO PEORTH PnALGIZ EOLHXnSOWILO S",
     "oIGEL LONG-BRANCH-SOL SoHORT-TWIG-SOL SnCnZnTIWAZ TIR TYR TnSHORT-TWIG-TYR T",
     "nDnBERKANAN BEORC BJARKAN BnSHORT-TWIG-BJARKAN BnDOTTED-PnOPEN-PnEHWAZ EH E",
     "nMANNAZ MAN MnLONG-BRANCH-MADR MnSHORT-TWIG-MADR MnLAUKAZ LAGU LOGR L",
     "nDOTTED-LnINGWAZqnDAGAZ DAEG DnOTHALAN ETHEL OnEARnIORnCWEORTHoALCoEALCnSTAN",
     "nLONG-BRANCH-YRnSHORT-TWIG-YRnICELANDIC-YRnQnXgSINGLE PUNCTUATION",
     "gMULTIPLE PUNCTUATIONgCROSS PUNCTUATIONgARLAUG SYMBOLgTVIMADUR SYMBOL",
     "gBELGTHOR SYMBOLgLETTER KnSHnOOnFRANKS CASKET OSzT ISzT EHzT ACzT AESC"]⟩,
   ⟨0x1700, ["aTAGALOG LETTER ApIpUpKApGApNGApTApDApNApPApBApMApYApRApLApWApSApHA",
     "iVOWEL SIGN ItUiSIGN VIRAMAnPAMUDPOD"]⟩,
   ⟨0x171F, ["aTAGALOG LETTER ARCHAIC RAaHANUNOO LETTER ApIpUpKApGApNGApTApDApNApPApBApMA",
     "pYApRApLApWApSApHAiVOWEL SIGN ItUiSIGN PAMUDPOD",
     "aPHILIPPINE SINGLE PUNCTUATIONlDOUBLE PUNCTUATION"]⟩,
   ⟨0x1740, ["aBUHID LETTER AnInUnKAnGAnNGAnTAnDAnNAnPAnBAnMAnYAnRAnLAnWAnSAnHA",
     "gVOWEL SIGN IrU"]⟩,
   ⟨0x1760, ["aTAGBANWA LETTER AqIqUqKAqGAqNGAqTAqDAqNAqPAqBAqMAqYA"]⟩,
   ⟨0x176E, ["aTAGBANWA LETTER LAqWAqSA"]⟩,
   ⟨0x1772, ["aTAGBANWA VOWEL SIGN IuU"]⟩,
   ⟨0x1780, ["aKHMER LETTER KAoHAoOoHOnNGOnCAoHAoOoHOnNYOnDAnTTHAnDOnTTHOnNNOnTAoHAoOoHO",
     "nNOnBAnPHAoOoHOnMOnYOnROnLOnVOnSHAoSOoAnHAnLAnQAgINDEPENDENT VOWEL QAQzAAzI",
     "zIIzUzUKzUUzUUVyRYzYYyLYzYYyQEzAIzOO TYPE ONEzOO TYPE TWOzAU",
     "gVOWEL INHERENT AQwAmSIGN AArIsIrYsYrUsUsArOErYArIErErAEsIrOOrAU",
     "gSIGN NIKAHITlREAHMUKlYUUKALEAPINTUlMUUSIKATOANlTRIISAPlBANTOClROBAT",
     "lTOANDAKHIATlKAKABATlAHSDAlSAMYOK SANNYAlVIRIAMlCOENGlBATHAMASATlKHAN",
     "lBARIYOOSANlCAMNUC PII KUUHlLEK TOOlBEYYALlPHNAEK MUANlKOOMUUT",
     "gCURRENCY SYMBOL RIELgSIGN AVAKRAHASANYAmTTHACAN"]⟩,
   ⟨0x17E0, ["aKHMER DIGIT ZEROmONEmTWOnHREEmFOURnIVEmSIXnEVENmEIGHTmNINE"]⟩,
   ⟨0x17F0, ["aKHMER SYMBOL LEK ATTAK SONxMUOYxPIIxBEIyUONxPRAMzAM-MUOYzAM-PIIzAM-BEI",
     "zAM-BUON"]⟩,
   ⟨0x1800, ["aMONGOLIAN BIRGAkELLIPSISkCOMMAkFULL STOPkCOLONkFOUR DOTSkTODO SOFT HYPHEN",
     "kSIBE SYLLABLE BOUNDARY MARKERkMANCHU COMMArFULL STOPkNIRUGU",
     "kFREE VARIATION SELECTOR ONEzSELECTOR TWOzSELECTOR THREEkVOWEL SEPARATOR",
     "kFREE VARIATION SELECTOR FOURkDIGIT ZEROqONEqTWOrHREEqFOURrIVEqSIXrEVEN",
     "qEIGHTqNINE"]⟩,
   ⟨0x1820, ["aMONGOLIAN LETTER ArErIrOrUrOErUErEErNArANGrBArPArQArGArMArLArSAsHArTArDA",
     "rCHArJArYArRArWArFArKAsHArTSArZArHAArZRArLHArZHIrCHIrTODO LONG VOWEL SIGNwE",
     "wIwOwUwOEwUEwANGwBAwPAwQAwGAwMAwTAwDAwCHAwJAwTSAwYAwWAwKAwGAAwHAAwJIAwNIA",
     "wDZArSIBE EwIxYwUExwANGwKAwGAwHAwPAwSHAwTAwDAwJAwFAwGAAwHAAwTSAwZAwRAAwCHA",
     "wZHArMANCHU IyKAyRAyFAyZHArCHA WITH TWO DOTS"]⟩,
   ⟨0x1880, ["aMONGOLIAN LETTER ALI GALI ANUSVARA ONEz VISARGA ONEz DAMARUz UBADAMA",
     "z INVERTED UBADAMAz BALUDAz THREE BALUDAz Az Iz KAz NGAz CAz TTAz TTHAz DDA",
     "z NNAz TAz DAz PAz PHAz SSAz ZHAz ZAz AHrTODO ALI GALI TAz GALI ZHA",
     "rMANCHU ALI GALI GHAzLI GALI NGAzLI GALI CAzLI GALI JHAzLI GALI TTA",
     "zLI GALI DDHAzLI GALI TAzLI GALI DHAzLI GALI SSAzLI GALI CYAzLI GALI ZHA",
     "zLI GALI ZArALI GALI HALF Uz HALF YArMANCHU ALI GALI BHArALI GALI DAGALGA",
     "rMANCHU ALI GALI LHA"]⟩,
   ⟨0x18B0, ["aCANADIAN SYLLABICS OYtAYuAYtWAYtPOYuAYuWOYtTAYtKAYuWAYtMAYtNOYuAYtLAYtSOY",
     "uAYuHOYvAYvWOYtYOYuAYtRAYtNWItOJIBWAY NWItNWIItOJIBWAY NWIItNWOtOJIBWAY NWO",
     "tNWOOtOJIBWAY NWOOtRWEEvIwIvOwOvAtOJIBWAY PzY TzY KzY CzY MzY NzY SzY SH",
     "tEASTERN WtWESTERN WtFINAL SMALL RINGzRAISED DOTtR-CREE RWEtWEST-CREE LOO",
     "zREE LAAtTHWEwAuTHWEwOOwAAuLHWEwOOtSAYISI SHWEz SHOOz HOOtCARRIER GWU",
     "zR DENE GEEzR GAAzR GWAtSAYISI JUUtCARRIER JWAtBEAVER DENE Lz DENE R",
     "tCARRIER DENTAL S"]⟩,
   ⟨0x1900, ["aLIMBU VOWEL-CARRIER LETTERgLETTER KAoHAnGAoHAnNGAnCAoHAnJAoHAnYANnTAoHAnDA",
     "oHAnNAnPAoHAnBAoHAnMAnYAnRAnLAnWAnSHAoSAoAnHAnGYANnTRA"]⟩,
   ⟨0x1920, ["aLIMBU VOWEL SIGN ArIrUrEErAIrOOrAUrErOgSUBJOINED LETTER YAxRAxWA"]⟩,
   ⟨0x1930, ["aLIMBU SMALL LETTER KAtNGAtANUSVARAtTAtNAtPAtMAtRAtLAhIGN MUKPHRENG",
     "lKEMPHRENGlSA-I"]⟩,
   ⟨0x1940, ["aLIMBU SIGN LOO"]⟩,
   ⟨0x1944, ["aLIMBU EXCLAMATION MARKgQUESTION MARKgDIGIT ZEROmONEmTWOnHREEmFOURnIVEmSIX",
     "nEVENmEIGHTmNINEaTAI LE LETTER KAoXAoNGAoTSAoSAoYAoTApHAoLAoPApHAoMAoFAoVA",
     "oHAoQAoKHAoTSHAoNAoAoIoEEpHoUoOOpoUEoEoAUEpI"]⟩]

/-- Names of characters from U+1970 to U+244A. -/
def namesFrom1970 : List NameRun :=
  [⟨0x1970, ["aTAI LE LETTER TONE-2t3t4t5t6"]⟩,
   ⟨0x1980, ["aNEW TAI LUE LETTER HIGH QAtLOW QAtHIGH KAyXAyNGAtLOW KAxXAxNGAtHIGH TSAySA",
     "yYAtLOW TSAxSAxYAtHIGH TAzHAyNAtLOW TAyHAxNAtHIGH PAzHAyMAtLOW PAyHAxMA",
     "tHIGH FAyVAyLAtLOW FAxVAxLAtHIGH HAyDAyBAtLOW HAxDAxBAtHIGH KVAyXVAtLOW KVA",
     "xXVAtHIGH SUAtLOW SUA"]⟩,
   ⟨0x19B0, ["aNEW TAI LUE VOWEL SIGN VOWEL SHORTENERxAAxIIxUyUxExAExOyAxUExAYyAYxUYxOYyAY",
     "xUEYxIYmLETTER FINAL VzNGzNzMzKzDzBmTONE MARK-1w2"]⟩,
   ⟨0x19D0, ["aNEW TAI LUE DIGIT ZEROsONEsTWOtHREEsFOURtIVEsSIXtEVENsEIGHTsNINE",
     "mTHAM DIGIT ONE"]⟩,
   ⟨0x19DE, ["aNEW TAI LUE SIGN LAEuVaKHMER SYMBOL PATHAMASATnMUOY KOETnPII KOETnBEI KOET",
     "oUON KOETnPRAM KOETr-MUOY KOETsPII KOETsBEI KOETtUON KOETnDAP KOET",
     "q-MUOY KOETrPII KOETrBEI KOETsUON KOETrPRAM KOETnTUTEYASATnMUOY ROCnPII ROC",
     "nBEI ROCoUON ROCnPRAM ROCr-MUOY ROCsPII ROCsBEI ROCtUON ROCnDAP ROC",
     "q-MUOY ROCrPII ROCrBEI ROCsUON ROCrPRAM ROCaBUGINESE LETTER KAqGAqNGAsKAqPA",
     "qBAqMArPAqTAqDAqNArRAqCAqJAqNYAsCAqYAqRAqLAqVAqSAqAqHAjVOWEL SIGN IuUuEuOuAE"]⟩,
   ⟨0x1A1E, ["aBUGINESE PALLAWAjEND OF SECTIONaTAI THAM LETTER HIGH KAwHAwXAqLOW KAvXAvHA",
     "qNGAqHIGH CAwHAqLOW CAuSAuCHAqNYAqRATAqHIGH RATHAqDAqLOW RATHAqRANAqHIGH TA",
     "wHAqLOW TAvHAqNAqBAqHIGH PAwHAvFAqLOW PAuFAuPHAqMAqLOW YAqHIGH YAqRArUEqLA",
     "rUEqWAqHIGH SHAwSAwAvHAqLLAqAqLOW HAqIrIqUrUqEEqOOqLAEqGREAT SA",
     "jCONSONANT SIGN MEDIAL RAzEDIAL LAyLA TANG LAIjSIGN MAI KANG LAI",
     "jCONSONANT SIGN FINAL NGAyLOW PAyHIGH RATHA OR LOW PAyMAyBAySA"]⟩,
   ⟨0x1A60, ["aTAI THAM SIGN SAKOTjVOWEL SIGN AuMAI SATuAAuTALL AAuIvIuUEvUEvvUuOvA BELOW",
     "vYuEuAEuOOuAIuTHAM AIuOA ABOVEjSIGN MAI KANGoTONE-1t2oKHUEN TONE-3z4z5",
     "oRA HAAMoMAI SAMoKHUEN-LUE KARAN"]⟩,
   ⟨0x1A7F, ["aTAI THAM COMBINING CRYPTOGRAMMIC DOTjHORA DIGIT ZEROuONEuTWOvHREEuFOURvIVE",
     "uSIXvEVENuEIGHTuNINE"]⟩,
   ⟨0x1A90, ["aTAI THAM THAM DIGIT ZEROuONEuTWOvHREEuFOURvIVEuSIXvEVENuEIGHTuNINE"]⟩,
   ⟨0x1AA0, ["aTAI THAM SIGN WIANGtWAAKoSAWANoKEOWoHOYoDOKMAIoREVERSED ROTATED RANA",
     "oMAI YAMOKoKAANsKUUoSATKAANvKUUoHANGoCAANG"]⟩,
   ⟨0x1AB0, ["aCOMBINING DOUBLED CIRCUMFLEX ACCENTlIAERESIS-RINGkINFINITYkDOWNWARDS ARROW",
     "kTRIPLE DOTkX-X BELOWkWIGGLY LINE BELOWkOPEN MARK BELOW",
     "kDOUBLE OPEN MARK BELOWkLIGHT CENTRALIZATION STROKE BELOW",
     "kSTRONG CENTRALIZATION STROKE BELOWkPARENTHESES ABOVE",
     "kDOUBLE PARENTHESES ABOVEkPARENTHESES BELOWwOVERLAY",
     "kLATIN SMALL LETTER W BELOWzTER TURNED W BELOWlEFT PARENTHESIS ABOVE LEFT",
     "kRIGHT PARENTHESIS ABOVE RIGHTkLEFT PARENTHESIS BELOW LEFT",
     "kRIGHT PARENTHESIS BELOW RIGHTkSQUARE BRACKETS ABOVEkNUMBER SIGN ABOVE",
     "kINVERTED DOUBLE ARCH ABOVEkPLUS SIGN ABOVEkDOUBLE PLUS SIGN ABOVEzN BELOW",
     "kTRIPLE ACUTE ACCENTkLATIN SMALL LETTER INSULAR GzTER INSULAR R",
     "zTER INSULAR T"]⟩,
   ⟨0x1B00, ["aBALINESE SIGN ULU RICEMsCANDRAoCECEKoSURANGoBISAHjLETTER AKARAv TEDUNG",
     "qIKARAv TEDUNGqUKARAv TEDUNGqRA REPAx TEDUNGqLA LENGAy TEDUNGqEKARAqAIKARA",
     "qOKARAv TEDUNGqKAs MAHAPRANAqGAs GORAqNGAqCAs LACAqJAs JERAqNYAqTA LATIK",
     "tMURDA MAHAPRANAqDA MURDA ALPAPRANAzMAHAPRANAqNA RAMBATqTAs TAWAqDAs MADUqNA",
     "qPAs KAPALqBAs KEMBANGqMAqYAqRAqLAqWAqSA SAGAvPAsqHAjSIGN REREKAN",
     "jVOWEL SIGN TEDUNGuULUx SARIuSUKUy ILUTuRA REPAzPA TEDUNGuLA LENGA",
     "zNGA TEDUNGuTALINGzG REPAzG TEDUNGzG REPA TEDUNGuPEPETz TEDUNGjADEG ADEG",
     "jLETTER KAF SASAKrHOT SASAKqTZIR SASAKqEF SASAKqVE SASAKqZAL SASAK",
     "qASYURA SASAKrRCHAIC JNYA"]⟩,
   ⟨0x1B50, ["aBALINESE DIGIT ZEROpONEpTWOqHREEpFOURqIVEpSIXqEVENpEIGHTpNINEjPANTIlMADA",
     "jWINDUjCARIK PAMUNGKAHpSIKIpPARERENjPAMENENGjMUSICAL SYMBOL DONGzENGzUNGzANG",
     "zANG SURANGzINGzAENGzEUNGzAINGzANG GEDEyCOMBINING TEGEHzOMBINING ENDEP",
     "zOMBINING KEMPULzOMBINING KEMPLIzOMBINING JEGOGAN",
     "zOMBINING KEMPUL WITH JEGOGANzOMBINING KEMPLI WITH JEGOGANzOMBINING BENDE",
     "zOMBINING GONGyRIGHT-HAND OPEN DUGzIGHT-HAND OPEN DAGzIGHT-HAND CLOSED TUK",
     "zIGHT-HAND CLOSED TAKyLEFT-HAND OPEN PANGzEFT-HAND OPEN PUNG",
     "zEFT-HAND CLOSED PLAKzEFT-HAND CLOSED PLUKzEFT-HAND OPEN PINGjPANTI LANTANG",
     "lMADA LANTANG"]⟩,
   ⟨0x1B80, ["aSUNDANESE SIGN PANYECEKsGLAYARtWISADkLETTER ArIrUrAErOrEsUrKArQArGArNGArCA",
     "rJArZArNYArTArDArNArPArFArVArBArMArYArRArLArWArSArXArHA",
     "kCONSONANT SIGN PAMINGKALzPANYAKRAzPANYIKUkVOWEL SIGN PANGHULUyYUKUyAELAENG",
     "yOLONGxMEPETxNEULEUNGkSIGN PAMAAEHpVIRAMAkCONSONANT SIGN PASANGAN MA",
     "zPASANGAN WAkLETTER KHArSYAkDIGIT ZEROqONEqTWOrHREEqFOURrIVEqSIXrEVENqEIGHT",
     "qNINEkAVAGRAHAkLETTER REUrLEUrBHArFINAL KxMaBATAK LETTER AnSIMALUNGUN AnHA",
     "nSIMALUNGUN HAnMANDAILING HAnBAnKARO BAnPAnSIMALUNGUN PAnNAnMANDAILING NAnWA",
     "nSIMALUNGUN WAnPAKPAK WAnGAnSIMALUNGUN GAnJAnDAnRAnSIMALUNGUN RAnMA",
     "nSIMALUNGUN MAoOUTHERN TAnNORTHERN TAnSAoIMALUNGUN SAnMANDAILING SAnYA",
     "nSIMALUNGUN YAnNGAnLAnSIMALUNGUN LAnNYAnCAnNDAnMBAnInUgSIGN TOMPI",
     "gVOWEL SIGN ErPAKPAK ErEErIrKARO IrOrKARO OrUs FOR SIMALUNGUN SA",
     "gCONSONANT SIGN NGvHgPANGOLATjONGONAN"]⟩,
   ⟨0x1BFC, ["aBATAK SYMBOL BINDU NA METEKtPINARBORAStJUDULtPANGOLATaLEPCHA LETTER KApLA",
     "pHAoGApLAoNGAoCApHAoJAoNYAoTApHAoDAoNAoPApLApHAoFApLAoBApLAoMApLAoTSAqHAoDZA",
     "oYAoRAoLAoHApLAoVAoSApHAoWAoAhSUBJOINED LETTER YAyRAhVOWEL SIGN AAsIsOtOsUtU",
     "sEhCONSONANT SIGN KwMwLwNwPwRwTwNYIN-DOwKANGhSIGN RANmNUKTA"]⟩,
   ⟨0x1C3B, ["aLEPCHA PUNCTUATION TA-ROLtNYET THYOOM TA-ROLtCER-WAtTSHOOK CER-WAz",
     "hDIGIT ZEROnONEnTWOoHREEnFOURoIVEnSIXoEVENnEIGHTnNINE"]⟩,
   ⟨0x1C4D, ["aLEPCHA LETTER TTAqHAoDDAaOL CHIKI DIGIT ZEROpONEpTWOqHREEpFOURqIVEpSIXqEVEN",
     "pEIGHTpNINEjLETTER LAqATrGrNGrLqLAAqAAKsJsMsWqLIqISrHrNYrRqLUqUCrDrNNrYqLE",
     "qEPrDDrNrRRqLOqOTTrBrVrHjMU TTUDDAGjGAAHLAA TTUDDAAGjMU-GAAHLAA TTUDDAAG",
     "jRELAAjPHAARKAAjAHADjPUNCTUATION MUCAADvDOUBLE MUCAAD",
     "aCYRILLIC SMALL LETTER ROUNDED VEwLONG-LEGGED DEwNARROW OwWIDE ESwTALL TE",
     "xHREE-LEGGED TExALL HARD SIGNzL YATwUNBLENDED UK"]⟩,
   ⟨0x1C90, ["aGEORGIAN MTAVRULI CAPITAL LETTER ANz LETTER BANz LETTER GANz LETTER DON",
     "z LETTER ENz LETTER VINz LETTER ZENz LETTER TANz LETTER INz LETTER KAN",
     "z LETTER LASz LETTER MANz LETTER NARz LETTER ONz LETTER PARz LETTER ZHAR",
     "z LETTER RAEz LETTER SANz LETTER TARz LETTER UNz LETTER PHARz LETTER KHAR",
     "z LETTER GHANz LETTER QARz LETTER SHINz LETTER CHINz LETTER CANz LETTER JIL",
     "z LETTER CILz LETTER CHARz LETTER XANz LETTER JHANz LETTER HAEz LETTER HE",
     "z LETTER HIEz LETTER WEz LETTER HARz LETTER HOEz LETTER FIz LETTER YN",
     "z LETTER ELIFIz LETTER TURNED GANz LETTER AIN"]⟩,
   ⟨0x1CBD, ["aGEORGIAN MTAVRULI CAPITAL LETTER AENz LETTER HARD SIGNz LETTER LABIAL SIGN",
     "aSUNDANESE PUNCTUATION BINDU SURYAzDU PANGLONGzDU PURNAMAzDU CAKRA",
     "zDU LEU SATANGAzDU KA SATANGAzDU DA SATANGAzDU BA SATANGA"]⟩,
   ⟨0x1CD0, ["aVEDIC TONE KARSHANAlSHARAlPRENKHAgSIGN NIHSHVASAlYAJURVEDIC MIDLINE SVARITA",
     "gTONE YAJURVEDIC AGGRAVATED INDEPENDENT SVARITAwINDEPENDENT SVARITA",
     "wKATHAKA INDEPENDENT SVARITAlCANDRA BELOW",
     "lYAJURVEDIC KATHAKA INDEPENDENT SVARITA SCHROEDERlDOUBLE SVARITA",
     "lTRIPLE SVARITAlKATHAKA ANUDATTAlDOT BELOWlTWO DOTS BELOWmHREE DOTS BELOW",
     "lRIGVEDIC KASHMIRI INDEPENDENT SVARITAlATHARVAVEDIC INDEPENDENT SVARITA",
     "gSIGN VISARGA SVARITAtUDATTAlREVERSED VISARGA UDATTAlVISARGA ANUDATTA",
     "lREVERSED VISARGA ANUDATTAlVISARGA UDATTA WITH TAILtANUDATTA WITH TAIL",
     "lANUSVARA ANTARGOMUKHAuBAHIRGOMUKHAuVAMAGOMUKHAzOMUKHA WITH TAILlTIRYAK",
     "lHEXIFORM LONG ANUSVARAlLONG ANUSVARAlRTHANG LONG ANUSVARA",
     "lANUSVARA UBHAYATO MUKHAmRDHAVISARGAlROTATED ARDHAVISARGAgTONE CANDRA ABOVE",
     "gSIGN JIHVAMULIYAlUPADHMANIYAlATIKRAMAgTONE RING ABOVElDOUBLE RING ABOVE",
     "gSIGN DOUBLE ANUSVARA ANTARGOMUKHA"]⟩,
   ⟨0x1D00, ["aLATIN LETTER SMALL CAPITAL AzL AEgSMALL LETTER TURNED AE",
     "gLETTER SMALL CAPITAL BARRED BzL CzL DzL ETHzL EgSMALL LETTER TURNED OPEN E",
     "z IgLETTER SMALL CAPITAL JzL KzL L WITH STROKEzL MzL REVERSED NzL OzL OPEN O",
     "gSMALL LETTER SIDEWAYS OzYS OPEN OzYS O WITH STROKEtTURNED OE",
     "gLETTER SMALL CAPITAL OUgSMALL LETTER TOP HALF OtBOTTOM HALF O",
     "gLETTER SMALL CAPITAL PzL REVERSED RzL TURNED RzL TzL U",
     "gSMALL LETTER SIDEWAYS UzYS DIAERESIZED UzYS TURNED MgLETTER SMALL CAPITAL V",
     "zL WzL ZzL EZHnVOICED LARYNGEAL SPIRANTnAINaGREEK LETTER SMALL CAPITAL GAMMA",
     "zL LAMDAzL PIzL RHOzL PSIaCYRILLIC LETTER SMALL CAPITAL EL",
     "aMODIFIER LETTER CAPITAL AzEyBzARRED ByDyEyREVERSED EyGyHyIyJyKyLyMyN",
     "yREVERSED NyOzUyPyRyTyUyWqSMALL AwTURNED AwALPHAwTURNED AEwBwDwEwSCHWA",
     "wOPEN EwTURNED OPEN EwGwTURNED IwKwMwENGwOxPEN OwTOP HALF OwBOTTOM HALF OwP",
     "wTwUwSIDEWAYS UwTURNED MwVwAINwBETAwGREEK GAMMAwDELTAwGREEK PHIwCHI",
     "aLATIN SUBSCRIPT SMALL LETTER IzTER RzTER UzTER V",
     "aGREEK SUBSCRIPT SMALL LETTER BETAzTER GAMMAzTER RHOzTER PHIzTER CHI",
     "aLATIN SMALL LETTER UEtB WITH MIDDLE TILDEtD WITH MIDDLE TILDE",
     "tF WITH MIDDLE TILDEtM WITH MIDDLE TILDEtN WITH MIDDLE TILDE",
     "tP WITH MIDDLE TILDEtR WITH MIDDLE TILDEz FISHHOOK AND MIDDLE TILDE",
     "tS WITH MIDDLE TILDEtT WITH MIDDLE TILDEtZ WITH MIDDLE TILDEtTURNED G",
     "aMODIFIER LETTER CYRILLIC ENaLATIN SMALL LETTER INSULAR G",
     "tTH WITH STRIKETHROUGHmCAPITAL LETTER I WITH STROKEmLETTER IOTA WITH STROKE",
     "tP WITH STROKEmCAPITAL LETTER U WITH STROKEmLETTER UPSILON WITH STROKE",
     "tB WITH PALATAL HOOKtD WITH PALATAL HOOKtF WITH PALATAL HOOK",
     "tG WITH PALATAL HOOKtK WITH PALATAL HOOKtL WITH PALATAL HOOK",
     "tM WITH PALATAL HOOKtN WITH PALATAL HOOKtP WITH PALATAL HOOK",
     "tR WITH PALATAL HOOKtS WITH PALATAL HOOKtESH WITH PALATAL HOOK",
     "tV WITH PALATAL HOOKtX WITH PALATAL HOOKtZ WITH PALATAL HOOK",
     "tA WITH RETROFLEX HOOKuLPHA WITH RETROFLEX HOOKtD WITH HOOK AND TAIL",
     "tE WITH RETROFLEX HOOKtOPEN E WITH RETROFLEX HOOK",
     "tREVERSED OPEN E WITH RETROFLEX HOOKtSCHWA WITH RETROFLEX HOOK",
     "tI WITH RETROFLEX HOOKtOPEN O WITH RETROFLEX HOOKtESH WITH RETROFLEX HOOK",
     "tU WITH RETROFLEX HOOKtEZH WITH RETROFLEX HOOK",
     "aMODIFIER LETTER SMALL TURNED ALPHAwCx WITH CURLwETHwREVERSED OPEN EwF",
     "wDOTLESS J WITH STROKEwSCRIPT GwTURNED HwI WITH STROKExOTAwCAPITAL I",
     "zITAL I WITH STROKEwJ WITH CROSSED-TAILwL WITH RETROFLEX HOOK",
     "zITH PALATAL HOOKwCAPITAL LwM WITH HOOKwTURNED M WITH LONG LEG",
     "wN WITH LEFT HOOKzITH RETROFLEX HOOKwCAPITAL NwBARRED OwPHIwS WITH HOOKwESH",
     "wT WITH PALATAL HOOKwU BARxPSILONwCAPITAL UwV WITH HOOKwTURNED VwZ",
     "x WITH RETROFLEX HOOKzITH CURLwEZHwTHETAaCOMBINING DOTTED GRAVE ACCENT",
     "rACUTE ACCENTkSNAKE BELOWlUSPENSION MARKkMACRON-ACUTEkGRAVE-MACRON",
     "kMACRON-GRAVEkACUTE-MACRONkGRAVE-ACUTE-GRAVEkACUTE-GRAVE-ACUTE",
     "kLATIN SMALL LETTER R BELOWkBREVE-MACRONkMACRON-BREVE",
     "kDOUBLE CIRCUMFLEX ABOVEkOGONEK ABOVEkZIGZAG BELOWkIS BELOWkUR ABOVElS ABOVE",
     "kLATIN SMALL LETTER FLATTENED OPEN A ABOVEzTER AEzTER AOzTER AV",
     "zTER C CEDILLAzTER INSULAR DzTER ETHzTER GqLETTER SMALL CAPITAL G",
     "qSMALL LETTER KzTER LqLETTER SMALL CAPITAL LzALL CAPITAL MqSMALL LETTER N",
     "qLETTER SMALL CAPITAL NzALL CAPITAL RqSMALL LETTER R ROTUNDAzTER S",
     "zTER LONG SzTER ZzTER ALPHAzTER BzTER BETAzTER SCHWAzTER F",
     "zTER L WITH DOUBLE MIDDLE TILDEzTER O WITH LIGHT CENTRALIZATION STROKEzTER P",
     "zTER ESHzTER U WITH LIGHT CENTRALIZATION STROKEzTER WzTER A WITH DIAERESIS",
     "zTER O WITH DIAERESISzTER U WITH DIAERESISkUP TACK ABOVEkKAVYKA ABOVE RIGHT",
     "xLEFTkDOT ABOVE LEFTkWIDE INVERTED BRIDGE BELOWkDOT BELOW LEFTlELETION MARK",
     "lOUBLE INVERTED BREVE BELOWkALMOST EQUAL TO BELOWkLEFT ARROWHEAD ABOVE",
     "kRIGHT ARROWHEAD AND DOWN ARROWHEAD BELOW",
     "aLATIN CAPITAL LETTER A WITH RING BELOWgSMALL LETTER A WITH RING BELOW",
     "gCAPITAL LETTER B WITH DOT ABOVEgSMALL LETTER B WITH DOT ABOVE",
     "gCAPITAL LETTER B WITH DOT BELOWgSMALL LETTER B WITH DOT BELOW",
     "gCAPITAL LETTER B WITH LINE BELOWgSMALL LETTER B WITH LINE BELOW",
     "gCAPITAL LETTER C WITH CEDILLA AND ACUTE",
     "gSMALL LETTER C WITH CEDILLA AND ACUTEgCAPITAL LETTER D WITH DOT ABOVE",
     "gSMALL LETTER D WITH DOT ABOVEgCAPITAL LETTER D WITH DOT BELOW",
     "gSMALL LETTER D WITH DOT BELOWgCAPITAL LETTER D WITH LINE BELOW",
     "gSMALL LETTER D WITH LINE BELOWgCAPITAL LETTER D WITH CEDILLA",
     "gSMALL LETTER D WITH CEDILLAgCAPITAL LETTER D WITH CIRCUMFLEX BELOW",
     "gSMALL LETTER D WITH CIRCUMFLEX BELOWgCAPITAL LETTER E WITH MACRON AND GRAVE",
     "gSMALL LETTER E WITH MACRON AND GRAVEgCAPITAL LETTER E WITH MACRON AND ACUTE",
     "gSMALL LETTER E WITH MACRON AND ACUTEgCAPITAL LETTER E WITH CIRCUMFLEX BELOW",
     "gSMALL LETTER E WITH CIRCUMFLEX BELOWgCAPITAL LETTER E WITH TILDE BELOW",
     "gSMALL LETTER E WITH TILDE BELOWgCAPITAL LETTER E WITH CEDILLA AND BREVE",
     "gSMALL LETTER E WITH CEDILLA AND BREVEgCAPITAL LETTER F WITH DOT ABOVE",
     "gSMALL LETTER F WITH DOT ABOVEgCAPITAL LETTER G WITH MACRON",
     "gSMALL LETTER G WITH MACRONgCAPITAL LETTER H WITH DOT ABOVE",
     "gSMALL LETTER H WITH DOT ABOVEgCAPITAL LETTER H WITH DOT BELOW",
     "gSMALL LETTER H WITH DOT BELOWgCAPITAL LETTER H WITH DIAERESIS",
     "gSMALL LETTER H WITH DIAERESISgCAPITAL LETTER H WITH CEDILLA",
     "gSMALL LETTER H WITH CEDILLAgCAPITAL LETTER H WITH BREVE BELOW",
     "gSMALL LETTER H WITH BREVE BELOWgCAPITAL LETTER I WITH TILDE BELOW",
     "gSMALL LETTER I WITH TILDE BELOWgCAPITAL LETTER I WITH DIAERESIS AND ACUTE",
     "gSMALL LETTER I WITH DIAERESIS AND ACUTEgCAPITAL LETTER K WITH ACUTE",
     "gSMALL LETTER K WITH ACUTEgCAPITAL LETTER K WITH DOT BELOW",
     "gSMALL LETTER K WITH DOT BELOWgCAPITAL LETTER K WITH LINE BELOW",
     "gSMALL LETTER K WITH LINE BELOWgCAPITAL LETTER L WITH DOT BELOW",
     "gSMALL LETTER L WITH DOT BELOWgCAPITAL LETTER L WITH DOT BELOW AND MACRON",
     "gSMALL LETTER L WITH DOT BELOW AND MACRONgCAPITAL LETTER L WITH LINE BELOW",
     "gSMALL LETTER L WITH LINE BELOWgCAPITAL LETTER L WITH CIRCUMFLEX BELOW",
     "gSMALL LETTER L WITH CIRCUMFLEX BELOWgCAPITAL LETTER M WITH ACUTE",
     "gSMALL LETTER M WITH ACUTEgCAPITAL LETTER M WITH DOT ABOVE",
     "gSMALL LETTER M WITH DOT ABOVEgCAPITAL LETTER M WITH DOT BELOW",
     "gSMALL LETTER M WITH DOT BELOWgCAPITAL LETTER N WITH DOT ABOVE",
     "gSMALL LETTER N WITH DOT ABOVEgCAPITAL LETTER N WITH DOT BELOW",
     "gSMALL LETTER N WITH DOT BELOWgCAPITAL LETTER N WITH LINE BELOW",
     "gSMALL LETTER N WITH LINE BELOWgCAPITAL LETTER N WITH CIRCUMFLEX BELOW",
     "gSMALL LETTER N WITH CIRCUMFLEX BELOWgCAPITAL LETTER O WITH TILDE AND ACUTE",
     "gSMALL LETTER O WITH TILDE AND ACUTE",
     "gCAPITAL LETTER O WITH TILDE AND DIAERESIS",
     "gSMALL LETTER O WITH TILDE AND DIAERESIS",
     "gCAPITAL LETTER O WITH MACRON AND GRAVEgSMALL LETTER O WITH MACRON AND GRAVE",
     "gCAPITAL LETTER O WITH MACRON AND ACUTEgSMALL LETTER O WITH MACRON AND ACUTE",
     "gCAPITAL LETTER P WITH ACUTEgSMALL LETTER P WITH ACUTE",
     "gCAPITAL LETTER P WITH DOT ABOVEgSMALL LETTER P WITH DOT ABOVE",
     "gCAPITAL LETTER R WITH DOT ABOVEgSMALL LETTER R WITH DOT ABOVE",
     "gCAPITAL LETTER R WITH DOT BELOWgSMALL LETTER R WITH DOT BELOW",
     "gCAPITAL LETTER R WITH DOT BELOW AND MACRON",
     "gSMALL LETTER R WITH DOT BELOW AND MACRONgCAPITAL LETTER R WITH LINE BELOW",
     "gSMALL LETTER R WITH LINE BELOWgCAPITAL LETTER S WITH DOT ABOVE",
     "gSMALL LETTER S WITH DOT ABOVEgCAPITAL LETTER S WITH DOT BELOW",
     "gSMALL LETTER S WITH DOT BELOWgCAPITAL LETTER S WITH ACUTE AND DOT ABOVE",
     "gSMALL LETTER S WITH ACUTE AND DOT ABOVE",
     "gCAPITAL LETTER S WITH CARON AND DOT ABOVE",
     "gSMALL LETTER S WITH CARON AND DOT ABOVE",
     "gCAPITAL LETTER S WITH DOT BELOW AND DOT ABOVE",
     "gSMALL LETTER S WITH DOT BELOW AND DOT ABOVEgCAPITAL LETTER T WITH DOT ABOVE",
     "gSMALL LETTER T WITH DOT ABOVEgCAPITAL LETTER T WITH DOT BELOW",
     "gSMALL LETTER T WITH DOT BELOWgCAPITAL LETTER T WITH LINE BELOW",
     "gSMALL LETTER T WITH LINE BELOWgCAPITAL LETTER T WITH CIRCUMFLEX BELOW",
     "gSMALL LETTER T WITH CIRCUMFLEX BELOWgCAPITAL LETTER U WITH DIAERESIS BELOW",
     "gSMALL LETTER U WITH DIAERESIS BELOWgCAPITAL LETTER U WITH TILDE BELOW",
     "gSMALL LETTER U WITH TILDE BELOWgCAPITAL LETTER U WITH CIRCUMFLEX BELOW",
     "gSMALL LETTER U WITH CIRCUMFLEX BELOWgCAPITAL LETTER U WITH TILDE AND ACUTE",
     "gSMALL LETTER U WITH TILDE AND ACUTE",
     "gCAPITAL LETTER U WITH MACRON AND DIAERESIS",
     "gSMALL LETTER U WITH MACRON AND DIAERESISgCAPITAL LETTER V WITH TILDE",
     "gSMALL LETTER V WITH TILDEgCAPITAL LETTER V WITH DOT BELOW",
     "gSMALL LETTER V WITH DOT BELOWgCAPITAL LETTER W WITH GRAVE",
     "gSMALL LETTER W WITH GRAVEgCAPITAL LETTER W WITH ACUTE",
     "gSMALL LETTER W WITH ACUTEgCAPITAL LETTER W WITH DIAERESIS",
     "gSMALL LETTER W WITH DIAERESISgCAPITAL LETTER W WITH DOT ABOVE",
     "gSMALL LETTER W WITH DOT ABOVEgCAPITAL LETTER W WITH DOT BELOW",
     "gSMALL LETTER W WITH DOT BELOWgCAPITAL LETTER X WITH DOT ABOVE",
     "gSMALL LETTER X WITH DOT ABOVEgCAPITAL LETTER X WITH DIAERESIS",
     "gSMALL LETTER X WITH DIAERESISgCAPITAL LETTER Y WITH DOT ABOVE",
     "gSMALL LETTER Y WITH DOT ABOVEgCAPITAL LETTER Z WITH CIRCUMFLEX",
     "gSMALL LETTER Z WITH CIRCUMFLEXgCAPITAL LETTER Z WITH DOT BELOW",
     "gSMALL LETTER Z WITH DOT BELOWgCAPITAL LETTER Z WITH LINE BELOW",
     "gSMALL LETTER Z WITH LINE BELOWtH WITH LINE BELOWtT WITH DIAERESIS",
     "tW WITH RING ABOVEtY WITH RING ABOVEtA WITH RIGHT HALF RING",
     "tLONG S WITH DOT ABOVEz WITH DIAGONAL STROKEz WITH HIGH STROKE",
     "gCAPITAL LETTER SHARP SgSMALL LETTER DELTAgCAPITAL LETTER A WITH DOT BELOW",
     "gSMALL LETTER A WITH DOT BELOWgCAPITAL LETTER A WITH HOOK ABOVE",
     "gSMALL LETTER A WITH HOOK ABOVEgCAPITAL LETTER A WITH CIRCUMFLEX AND ACUTE",
     "gSMALL LETTER A WITH CIRCUMFLEX AND ACUTE",
     "gCAPITAL LETTER A WITH CIRCUMFLEX AND GRAVE",
     "gSMALL LETTER A WITH CIRCUMFLEX AND GRAVE",
     "gCAPITAL LETTER A WITH CIRCUMFLEX AND HOOK ABOVE",
     "gSMALL LETTER A WITH CIRCUMFLEX AND HOOK ABOVE",
     "gCAPITAL LETTER A WITH CIRCUMFLEX AND TILDE",
     "gSMALL LETTER A WITH CIRCUMFLEX AND TILDE",
     "gCAPITAL LETTER A WITH CIRCUMFLEX AND DOT BELOW",
     "gSMALL LETTER A WITH CIRCUMFLEX AND DOT BELOW",
     "gCAPITAL LETTER A WITH BREVE AND ACUTEgSMALL LETTER A WITH BREVE AND ACUTE",
     "gCAPITAL LETTER A WITH BREVE AND GRAVEgSMALL LETTER A WITH BREVE AND GRAVE",
     "gCAPITAL LETTER A WITH BREVE AND HOOK ABOVE",
     "gSMALL LETTER A WITH BREVE AND HOOK ABOVE",
     "gCAPITAL LETTER A WITH BREVE AND TILDEgSMALL LETTER A WITH BREVE AND TILDE",
     "gCAPITAL LETTER A WITH BREVE AND DOT BELOW",
     "gSMALL LETTER A WITH BREVE AND DOT BELOWgCAPITAL LETTER E WITH DOT BELOW",
     "gSMALL LETTER E WITH DOT BELOWgCAPITAL LETTER E WITH HOOK ABOVE",
     "gSMALL LETTER E WITH HOOK ABOVEgCAPITAL LETTER E WITH TILDE",
     "gSMALL LETTER E WITH TILDEgCAPITAL LETTER E WITH CIRCUMFLEX AND ACUTE",
     "gSMALL LETTER E WITH CIRCUMFLEX AND ACUTE",
     "gCAPITAL LETTER E WITH CIRCUMFLEX AND GRAVE",
     "gSMALL LETTER E WITH CIRCUMFLEX AND GRAVE",
     "gCAPITAL LETTER E WITH CIRCUMFLEX AND HOOK ABOVE",
     "gSMALL LETTER E WITH CIRCUMFLEX AND HOOK ABOVE",
     "gCAPITAL LETTER E WITH CIRCUMFLEX AND TILDE",
     "gSMALL LETTER E WITH CIRCUMFLEX AND TILDE",
     "gCAPITAL LETTER E WITH CIRCUMFLEX AND DOT BELOW",
     "gSMALL LETTER E WITH CIRCUMFLEX AND DOT BELOW",
     "gCAPITAL LETTER I WITH HOOK ABOVEgSMALL LETTER I WITH HOOK ABOVE",
     "gCAPITAL LETTER I WITH DOT BELOWgSMALL LETTER I WITH DOT BELOW",
     "gCAPITAL LETTER O WITH DOT BELOWgSMALL LETTER O WITH DOT BELOW",
     "gCAPITAL LETTER O WITH HOOK ABOVEgSMALL LETTER O WITH HOOK ABOVE",
     "gCAPITAL LETTER O WITH CIRCUMFLEX AND ACUTE",
     "gSMALL LETTER O WITH CIRCUMFLEX AND ACUTE",
     "gCAPITAL LETTER O WITH CIRCUMFLEX AND GRAVE",
     "gSMALL LETTER O WITH CIRCUMFLEX AND GRAVE",
     "gCAPITAL LETTER O WITH CIRCUMFLEX AND HOOK ABOVE",
     "gSMALL LETTER O WITH CIRCUMFLEX AND HOOK ABOVE",
     "gCAPITAL LETTER O WITH CIRCUMFLEX AND TILDE",
     "gSMALL LETTER O WITH CIRCUMFLEX AND TILDE",
     "gCAPITAL LETTER O WITH CIRCUMFLEX AND DOT BELOW",
     "gSMALL LETTER O WITH CIRCUMFLEX AND DOT BELOW",
     "gCAPITAL LETTER O WITH HORN AND ACUTEgSMALL LETTER O WITH HORN AND ACUTE",
     "gCAPITAL LETTER O WITH HORN AND GRAVEgSMALL LETTER O WITH HORN AND GRAVE",
     "gCAPITAL LETTER O WITH HORN AND HOOK ABOVE",
     "gSMALL LETTER O WITH HORN AND HOOK ABOVE",
     "gCAPITAL LETTER O WITH HORN AND TILDEgSMALL LETTER O WITH HORN AND TILDE",
     "gCAPITAL LETTER O WITH HORN AND DOT BELOW",
     "gSMALL LETTER O WITH HORN AND DOT BELOWgCAPITAL LETTER U WITH DOT BELOW",
     "gSMALL LETTER U WITH DOT BELOWgCAPITAL LETTER U WITH HOOK ABOVE",
     "gSMALL LETTER U WITH HOOK ABOVEgCAPITAL LETTER U WITH HORN AND ACUTE",
     "gSMALL LETTER U WITH HORN AND ACUTEgCAPITAL LETTER U WITH HORN AND GRAVE",
     "gSMALL LETTER U WITH HORN AND GRAVE",
     "gCAPITAL LETTER U WITH HORN AND HOOK ABOVE",
     "gSMALL LETTER U WITH HORN AND HOOK ABOVE",
     "gCAPITAL LETTER U WITH HORN AND TILDEgSMALL LETTER U WITH HORN AND TILDE",
     "gCAPITAL LETTER U WITH HORN AND DOT BELOW",
     "gSMALL LETTER U WITH HORN AND DOT BELOWgCAPITAL LETTER Y WITH GRAVE",
     "gSMALL LETTER Y WITH GRAVEgCAPITAL LETTER Y WITH DOT BELOW",
     "gSMALL LETTER Y WITH DOT BELOWgCAPITAL LETTER Y WITH HOOK ABOVE",
     "gSMALL LETTER Y WITH HOOK ABOVEgCAPITAL LETTER Y WITH TILDE",
     "gSMALL LETTER Y WITH TILDEgCAPITAL LETTER MIDDLE-WELSH LL",
     "gSMALL LETTER MIDDLE-WELSH LLgCAPITAL LETTER MIDDLE-WELSH V",
     "gSMALL LETTER MIDDLE-WELSH VgCAPITAL LETTER Y WITH LOOP",
     "gSMALL LETTER Y WITH LOOPaGREEK SMALL LETTER ALPHA WITH PSILIzWITH DASIA",
     "zWITH PSILI AND VARIAzWITH DASIA AND VARIAzWITH PSILI AND OXIA",
     "zWITH DASIA AND OXIAzWITH PSILI AND PERISPOMENIzWITH DASIA AND PERISPOMENI",
     "gCAPITAL LETTER ALPHA WITH PSILIzA WITH DASIAzA WITH PSILI AND VARIA",
     "zA WITH DASIA AND VARIAzA WITH PSILI AND OXIAzA WITH DASIA AND OXIA",
     "zA WITH PSILI AND PERISPOMENIzA WITH DASIA AND PERISPOMENI",
     "gSMALL LETTER EPSILON WITH PSILIzN WITH DASIAzN WITH PSILI AND VARIA",
     "zN WITH DASIA AND VARIAzN WITH PSILI AND OXIAzN WITH DASIA AND OXIA"]⟩,
   ⟨0x1F18, ["aGREEK CAPITAL LETTER EPSILON WITH PSILIzLON WITH DASIA",
     "zLON WITH PSILI AND VARIAzLON WITH DASIA AND VARIAzLON WITH PSILI AND OXIA",
     "zLON WITH DASIA AND OXIA"]⟩,
   ⟨0x1F20, ["aGREEK SMALL LETTER ETA WITH PSILIzTH DASIAzTH PSILI AND VARIA",
     "zTH DASIA AND VARIAzTH PSILI AND OXIAzTH DASIA AND OXIA",
     "zTH PSILI AND PERISPOMENIzTH DASIA AND PERISPOMENI",
     "gCAPITAL LETTER ETA WITH PSILIzWITH DASIAzWITH PSILI AND VARIA",
     "zWITH DASIA AND VARIAzWITH PSILI AND OXIAzWITH DASIA AND OXIA",
     "zWITH PSILI AND PERISPOMENIzWITH DASIA AND PERISPOMENI",
     "gSMALL LETTER IOTA WITH PSILIzITH DASIAzITH PSILI AND VARIA",
     "zITH DASIA AND VARIAzITH PSILI AND OXIAzITH DASIA AND OXIA",
     "zITH PSILI AND PERISPOMENIzITH DASIA AND PERISPOMENI",
     "gCAPITAL LETTER IOTA WITH PSILIz WITH DASIAz WITH PSILI AND VARIA",
     "z WITH DASIA AND VARIAz WITH PSILI AND OXIAz WITH DASIA AND OXIA",
     "z WITH PSILI AND PERISPOMENIz WITH DASIA AND PERISPOMENI",
     "gSMALL LETTER OMICRON WITH PSILIzN WITH DASIAzN WITH PSILI AND VARIA",
     "zN WITH DASIA AND VARIAzN WITH PSILI AND OXIAzN WITH DASIA AND OXIA"]⟩,
   ⟨0x1F48, ["aGREEK CAPITAL LETTER OMICRON WITH PSILIzRON WITH DASIA",
     "zRON WITH PSILI AND VARIAzRON WITH DASIA AND VARIAzRON WITH PSILI AND OXIA",
     "zRON WITH DASIA AND OXIA"]⟩,
   ⟨0x1F50, ["aGREEK SMALL LETTER UPSILON WITH PSILIzN WITH DASIAzN WITH PSILI AND VARIA",
     "zN WITH DASIA AND VARIAzN WITH PSILI AND OXIAzN WITH DASIA AND OXIA",
     "zN WITH PSILI AND PERISPOMENIzN WITH DASIA AND PERISPOMENI"]⟩,
   ⟨0x1F59, ["aGREEK CAPITAL LETTER UPSILON WITH DASIA"]⟩,
   ⟨0x1F5B, ["aGREEK CAPITAL LETTER UPSILON WITH DASIA AND VARIA"]⟩,
   ⟨0x1F5D, ["aGREEK CAPITAL LETTER UPSILON WITH DASIA AND OXIA"]⟩,
   ⟨0x1F5F, ["aGREEK CAPITAL LETTER UPSILON WITH DASIA AND PERISPOMENI",
     "gSMALL LETTER OMEGA WITH PSILIzWITH DASIAzWITH PSILI AND VARIA",
     "zWITH DASIA AND VARIAzWITH PSILI AND OXIAzWITH DASIA AND OXIA",
     "zWITH PSILI AND PERISPOMENIzWITH DASIA AND PERISPOMENI",
     "gCAPITAL LETTER OMEGA WITH PSILIzA WITH DASIAzA WITH PSILI AND VARIA",
     "zA WITH DASIA AND VARIAzA WITH PSILI AND OXIAzA WITH DASIA AND OXIA",
     "zA WITH PSILI AND PERISPOMENIzA WITH DASIA AND PERISPOMENI",
     "gSMALL LETTER ALPHA WITH VARIAzWITH OXIAtEPSILON WITH VARIAzN WITH OXIA",
     "uTA WITH VARIAzTH OXIAtIOTA WITH VARIAzITH OXIAtOMICRON WITH VARIA",
     "zN WITH OXIAtUPSILON WITH VARIAzN WITH OXIAtOMEGA WITH VARIAzWITH OXIA"]⟩,
   ⟨0x1F80, ["aGREEK SMALL LETTER ALPHA WITH PSILI AND YPOGEGRAMMENI",
     "zWITH DASIA AND YPOGEGRAMMENIzWITH PSILI AND VARIA AND YPOGEGRAMMENI",
     "zWITH DASIA AND VARIA AND YPOGEGRAMMENI",
     "zWITH PSILI AND OXIA AND YPOGEGRAMMENIzWITH DASIA AND OXIA AND YPOGEGRAMMENI",
     "zWITH PSILI AND PERISPOMENI AND YPOGEGRAMMENI",
     "zWITH DASIA AND PERISPOMENI AND YPOGEGRAMMENI",
     "gCAPITAL LETTER ALPHA WITH PSILI AND PROSGEGRAMMENI",
     "zA WITH DASIA AND PROSGEGRAMMENIzA WITH PSILI AND VARIA AND PROSGEGRAMMENI",
     "zA WITH DASIA AND VARIA AND PROSGEGRAMMENI",
     "zA WITH PSILI AND OXIA AND PROSGEGRAMMENI",
     "zA WITH DASIA AND OXIA AND PROSGEGRAMMENI",
     "zA WITH PSILI AND PERISPOMENI AND PROSGEGRAMMENI",
     "zA WITH DASIA AND PERISPOMENI AND PROSGEGRAMMENI",
     "gSMALL LETTER ETA WITH PSILI AND YPOGEGRAMMENIzTH DASIA AND YPOGEGRAMMENI",
     "zTH PSILI AND VARIA AND YPOGEGRAMMENIzTH DASIA AND VARIA AND YPOGEGRAMMENI",
     "zTH PSILI AND OXIA AND YPOGEGRAMMENIzTH DASIA AND OXIA AND YPOGEGRAMMENI",
     "zTH PSILI AND PERISPOMENI AND YPOGEGRAMMENI",
     "zTH DASIA AND PERISPOMENI AND YPOGEGRAMMENI",
     "gCAPITAL LETTER ETA WITH PSILI AND PROSGEGRAMMENI",
     "zWITH DASIA AND PROSGEGRAMMENIzWITH PSILI AND VARIA AND PROSGEGRAMMENI",
     "zWITH DASIA AND VARIA AND PROSGEGRAMMENI",
     "zWITH PSILI AND OXIA AND PROSGEGRAMMENI",
     "zWITH DASIA AND OXIA AND PROSGEGRAMMENI",
     "zWITH PSILI AND PERISPOMENI AND PROSGEGRAMMENI",
     "zWITH DASIA AND PERISPOMENI AND PROSGEGRAMMENI",
     "gSMALL LETTER OMEGA WITH PSILI AND YPOGEGRAMMENI",
     "zWITH DASIA AND YPOGEGRAMMENIzWITH PSILI AND VARIA AND YPOGEGRAMMENI",
     "zWITH DASIA AND VARIA AND YPOGEGRAMMENI",
     "zWITH PSILI AND OXIA AND YPOGEGRAMMENIzWITH DASIA AND OXIA AND YPOGEGRAMMENI",
     "zWITH PSILI AND PERISPOMENI AND YPOGEGRAMMENI",
     "zWITH DASIA AND PERISPOMENI AND YPOGEGRAMMENI",
     "gCAPITAL LETTER OMEGA WITH PSILI AND PROSGEGRAMMENI",
     "zA WITH DASIA AND PROSGEGRAMMENIzA WITH PSILI AND VARIA AND PROSGEGRAMMENI",
     "zA WITH DASIA AND VARIA AND PROSGEGRAMMENI",
     "zA WITH PSILI AND OXIA AND PROSGEGRAMMENI",
     "zA WITH DASIA AND OXIA AND PROSGEGRAMMENI",
     "zA WITH PSILI AND PERISPOMENI AND PROSGEGRAMMENI",
     "zA WITH DASIA AND PERISPOMENI AND PROSGEGRAMMENI",
     "gSMALL LETTER ALPHA WITH VRACHYzWITH MACRONzWITH VARIA AND YPOGEGRAMMENI",
     "zWITH YPOGEGRAMMENIzWITH OXIA AND YPOGEGRAMMENI"]⟩,
   ⟨0x1FB6, ["aGREEK SMALL LETTER ALPHA WITH PERISPOMENI",
     "zWITH PERISPOMENI AND YPOGEGRAMMENIgCAPITAL LETTER ALPHA WITH VRACHY",
     "zA WITH MACRONzA WITH VARIAzA WITH OXIAzA WITH PROSGEGRAMMENIgKORONIS",
     "gPROSGEGRAMMENIhSILIhERISPOMENIgDIALYTIKA AND PERISPOMENI",
     "gSMALL LETTER ETA WITH VARIA AND YPOGEGRAMMENIzTH YPOGEGRAMMENI",
     "zTH OXIA AND YPOGEGRAMMENI"]⟩,
   ⟨0x1FC6, ["aGREEK SMALL LETTER ETA WITH PERISPOMENIzTH PERISPOMENI AND YPOGEGRAMMENI",
     "gCAPITAL LETTER EPSILON WITH VARIAzLON WITH OXIAwTA WITH VARIAzWITH OXIA",
     "zWITH PROSGEGRAMMENIgPSILI AND VARIAqOXIAqPERISPOMENI",
     "gSMALL LETTER IOTA WITH VRACHYzITH MACRONzITH DIALYTIKA AND VARIA",
     "zITH DIALYTIKA AND OXIA"]⟩,
   ⟨0x1FD6, ["aGREEK SMALL LETTER IOTA WITH PERISPOMENIzITH DIALYTIKA AND PERISPOMENI",
     "gCAPITAL LETTER IOTA WITH VRACHYz WITH MACRONz WITH VARIAz WITH OXIA"]⟩,
   ⟨0x1FDD, ["aGREEK DASIA AND VARIAqOXIAqPERISPOMENIgSMALL LETTER UPSILON WITH VRACHY",
     "zN WITH MACRONzN WITH DIALYTIKA AND VARIAzN WITH DIALYTIKA AND OXIA",
     "tRHO WITH PSILIzTH DASIAtUPSILON WITH PERISPOMENI",
     "zN WITH DIALYTIKA AND PERISPOMENIgCAPITAL LETTER UPSILON WITH VRACHY",
     "zLON WITH MACRONzLON WITH VARIAzLON WITH OXIAvRHO WITH DASIA",
     "gDIALYTIKA AND VARIAuOXIAgVARIA"]⟩,
   ⟨0x1FF2, ["aGREEK SMALL LETTER OMEGA WITH VARIA AND YPOGEGRAMMENIzWITH YPOGEGRAMMENI",
     "zWITH OXIA AND YPOGEGRAMMENI"]⟩,
   ⟨0x1FF6, ["aGREEK SMALL LETTER OMEGA WITH PERISPOMENI",
     "zWITH PERISPOMENI AND YPOGEGRAMMENIgCAPITAL LETTER OMICRON WITH VARIA",
     "zRON WITH OXIAxEGA WITH VARIAzA WITH OXIAzA WITH PROSGEGRAMMENIgOXIAgDASIA"]⟩,
   ⟨0x2000, ["aEN QUADbM QUADbN SPACEbM SPACEaTHREE-PER-EM SPACEaFOUR-PER-EM SPACE",
     "aSIX-PER-EM SPACEaFIGURE SPACEaPUNCTUATION SPACEaTHIN SPACEaHAIR SPACE",
     "aZERO WIDTH SPACElNON-JOINERlJOINERaLEFT-TO-RIGHT MARKaRIGHT-TO-LEFT MARK",
     "aHYPHENaNON-BREAKING HYPHENaFIGURE DASHaEN DASHbM DASHaHORIZONTAL BAR",
     "aDOUBLE VERTICAL LINEhLOW LINEaLEFT SINGLE QUOTATION MARK",
     "aRIGHT SINGLE QUOTATION MARKaSINGLE LOW-9 QUOTATION MARK",
     "hHIGH-REVERSED-9 QUOTATION MARKaLEFT DOUBLE QUOTATION MARK",
     "aRIGHT DOUBLE QUOTATION MARKaDOUBLE LOW-9 QUOTATION MARK",
     "hHIGH-REVERSED-9 QUOTATION MARKbAGGERbOUBLE DAGGERaBULLETaTRIANGULAR BULLET",
     "aONE DOT LEADERaTWO DOT LEADERaHORIZONTAL ELLIPSISbYPHENATION POINT",
     "aLINE SEPARATORaPARAGRAPH SEPARATORaLEFT-TO-RIGHT EMBEDDING",
     "aRIGHT-TO-LEFT EMBEDDINGaPOP DIRECTIONAL FORMATTINGaLEFT-TO-RIGHT OVERRIDE",
     "aRIGHT-TO-LEFT OVERRIDEaNARROW NO-BREAK SPACEaPER MILLE SIGN",
     "eTEN THOUSAND SIGNbRIMEaDOUBLE PRIMEaTRIPLE PRIMEaREVERSED PRIME",
     "jDOUBLE PRIMEjTRIPLE PRIMEaCARETaSINGLE LEFT-POINTING ANGLE QUOTATION MARK",
     "hRIGHT-POINTING ANGLE QUOTATION MARKaREFERENCE MARKaDOUBLE EXCLAMATION MARK",
     "aINTERROBANGaOVERLINEaUNDERTIEaCHARACTER TIEbARET INSERTION POINTaASTERISM",
     "aHYPHEN BULLETaFRACTION SLASHaLEFT SQUARE BRACKET WITH QUILL",
     "aRIGHT SQUARE BRACKET WITH QUILLaDOUBLE QUESTION MARK",
     "aQUESTION EXCLAMATION MARKaEXCLAMATION QUESTION MARKaTIRONIAN SIGN ET",
     "aREVERSED PILCROW SIGNaBLACK LEFTWARDS BULLETgRIGHTWARDS BULLETaLOW ASTERISK",
     "aREVERSED SEMICOLONaCLOSE UPaTWO ASTERISKS ALIGNED VERTICALLY",
     "aCOMMERCIAL MINUS SIGNaSWUNG DASHaINVERTED UNDERTIEaFLOWER PUNCTUATION MARK",
     "aTHREE DOT PUNCTUATIONaQUADRUPLE PRIMEaFOUR DOT PUNCTUATION",
     "bIVE DOT PUNCTUATIONaTWO DOT PUNCTUATIONaFOUR DOT MARKaDOTTED CROSSaTRICOLON",
     "aVERTICAL FOUR DOTSaMEDIUM MATHEMATICAL SPACEaWORD JOINER",
     "aFUNCTION APPLICATIONaINVISIBLE TIMESkSEPARATORkPLUS"]⟩,
   ⟨0x2066, ["aLEFT-TO-RIGHT ISOLATEaRIGHT-TO-LEFT ISOLATEaFIRST STRONG ISOLATE",
     "aPOP DIRECTIONAL ISOLATEaINHIBIT SYMMETRIC SWAPPING",
     "aACTIVATE SYMMETRIC SWAPPINGaINHIBIT ARABIC FORM SHAPING",
     "aACTIVATE ARABIC FORM SHAPINGaNATIONAL DIGIT SHAPESbOMINAL DIGIT SHAPES",
     "aSUPERSCRIPT ZEROmLATIN SMALL LETTER I"]⟩,
   ⟨0x2074, ["aSUPERSCRIPT FOURnIVEmSIXnEVENmEIGHTmNINEmPLUS SIGNmMINUSmEQUALS SIGN",
     "mLEFT PARENTHESISmRIGHT PARENTHESISmLATIN SMALL LETTER NcBSCRIPT ZEROkONE",
     "kTWOlHREEkFOURlIVEkSIXlEVENkEIGHTkNINEkPLUS SIGNkMINUSkEQUALS SIGN",
     "kLEFT PARENTHESISkRIGHT PARENTHESIS"]⟩,
   ⟨0x2090, ["aLATIN SUBSCRIPT SMALL LETTER AzTER EzTER OzTER XzTER SCHWAzTER HzTER K",
     "zTER LzTER MzTER NzTER PzTER SzTER T"]⟩,
   ⟨0x20A0, ["aEURO-CURRENCY SIGNaCOLON SIGNbRUZEIRO SIGNaFRENCH FRANC SIGNaLIRA SIGN",
     "aMILL SIGNaNAIRA SIGNaPESETA SIGNaRUPEE SIGNaWON SIGNaNEW SHEQEL SIGN",
     "aDONG SIGNaEURO SIGNaKIP SIGNaTUGRIK SIGNaDRACHMA SIGNaGERMAN PENNY SIGN",
     "aPESO SIGNaGUARANI SIGNaAUSTRAL SIGNaHRYVNIA SIGNaCEDI SIGN",
     "aLIVRE TOURNOIS SIGNaSPESMILO SIGNaTENGE SIGNaINDIAN RUPEE SIGN",
     "aTURKISH LIRA SIGNaNORDIC MARK SIGNaMANAT SIGNaRUBLE SIGNaLARI SIGN",
     "aBITCOIN SIGNaSOM SIGN"]⟩,
   ⟨0x20D0, ["aCOMBINING LEFT HARPOON ABOVEkRIGHT HARPOON ABOVEkLONG VERTICAL LINE OVERLAY",
     "kSHORT VERTICAL LINE OVERLAYkANTICLOCKWISE ARROW ABOVEkCLOCKWISE ARROW ABOVE",
     "kLEFT ARROW ABOVEkRIGHT ARROW ABOVEmNG OVERLAYkCLOCKWISE RING OVERLAY",
     "kANTICLOCKWISE RING OVERLAYkTHREE DOTS ABOVEkFOUR DOTS ABOVE",
     "kENCLOSING CIRCLEuSQUAREuDIAMONDuCIRCLE BACKSLASHkLEFT RIGHT ARROW ABOVE",
     "kENCLOSING SCREENuKEYCAPuUPWARD POINTING TRIANGLEkREVERSE SOLIDUS OVERLAY",
     "kDOUBLE VERTICAL STROKE OVERLAYkANNUITY SYMBOLkTRIPLE UNDERDOT",
     "kWIDE BRIDGE ABOVEkLEFTWARDS ARROW OVERLAYlONG DOUBLE SOLIDUS OVERLAY",
     "kRIGHTWARDS HARPOON WITH BARB DOWNWARDS",
     "kLEFTWARDS HARPOON WITH BARB DOWNWARDSo ARROW BELOWkRIGHT ARROW BELOW",
     "kASTERISK ABOVE"]⟩,
   ⟨0x2100, ["aACCOUNT OFbDDRESSED TO THE SUBJECTaDOUBLE-STRUCK CAPITAL CbEGREE CELSIUS",
     "aCENTRE LINE SYMBOLbARE OFcDA UNAaEULER CONSTANTaSCRUPLEaDEGREE FAHRENHEIT",
     "aSCRIPT SMALL GhCAPITAL HaBLACK-LETTER CAPITAL HaDOUBLE-STRUCK CAPITAL H",
     "aPLANCK CONSTANTp OVER TWO PIaSCRIPT CAPITAL IaBLACK-LETTER CAPITAL I",
     "aSCRIPT CAPITAL LhSMALL LaL B BAR SYMBOLaDOUBLE-STRUCK CAPITAL NaNUMERO SIGN",
     "aSOUND RECORDING COPYRIGHTbCRIPT CAPITAL PaDOUBLE-STRUCK CAPITAL PwQ",
     "aSCRIPT CAPITAL RaBLACK-LETTER CAPITAL RaDOUBLE-STRUCK CAPITAL R",
     "aPRESCRIPTION TAKEaRESPONSEaSERVICE MARKaTELEPHONE SIGNbRADE MARK SIGN",
     "aVERSICLEaDOUBLE-STRUCK CAPITAL ZaOUNCE SIGNbHM SIGNaINVERTED OHM SIGN",
     "aBLACK-LETTER CAPITAL ZaTURNED GREEK SMALL LETTER IOTAaKELVIN SIGN",
     "aANGSTROM SIGNaSCRIPT CAPITAL BaBLACK-LETTER CAPITAL CaESTIMATED SYMBOL",
     "aSCRIPT SMALL EhCAPITAL EpFaTURNED CAPITAL FaSCRIPT CAPITAL MhSMALL O",
     "aALEF SYMBOLaBET SYMBOLaGIMEL SYMBOLaDALET SYMBOLaINFORMATION SOURCE",
     "aROTATED CAPITAL QaFACSIMILE SIGNaDOUBLE-STRUCK SMALL PIuGAMMAoCAPITAL GAMMA",
     "wPIoN-ARY SUMMATIONaTURNED SANS-SERIF CAPITAL Gz L",
     "aREVERSED SANS-SERIF CAPITAL LaTURNED SANS-SERIF CAPITAL Y",
     "aDOUBLE-STRUCK ITALIC CAPITAL DvSMALL DzL EzL IzL JaPROPERTY LINE",
     "aTURNED AMPERSANDaPER SIGNaAKTIESELSKABaTURNED SMALL F",
     "aSYMBOL FOR SAMARITAN SOURCEaVULGAR FRACTION ONE SEVENTHuNINTHuTENTHvHIRD",
     "qTWO THIRDSqONE FIFTHqTWO FIFTHSrHREE FIFTHSqFOUR FIFTHSqONE SIXTH",
     "qFIVE SIXTHSqONE EIGHTHqTHREE EIGHTHSqFIVE EIGHTHSqSEVEN EIGHTHS",
     "aFRACTION NUMERATOR ONEaROMAN NUMERAL ONEoTWOpHREEoFOURpIVEoSIXpEVENoEIGHT",
     "oNINEoTENoELEVENoTWELVEoFIFTYoONE HUNDREDoFIVE HUNDREDoONE THOUSAND",
     "aSMALL ROMAN NUMERAL ONEuTWOvHREEuFOURvIVEuSIXvEVENuEIGHTuNINEuTENuELEVEN",
     "uTWELVEuFIFTYuONE HUNDREDuFIVE HUNDREDuONE THOUSAND",
     "aROMAN NUMERAL ONE THOUSAND C DoFIVE THOUSANDoTEN THOUSAND",
     "oREVERSED ONE HUNDREDaLATIN SMALL LETTER REVERSED C",
     "aROMAN NUMERAL SIX LATE FORMoFIFTY EARLY FORMuTHOUSANDoONE HUNDRED THOUSAND",
     "aVULGAR FRACTION ZERO THIRDSaTURNED DIGIT TWOoHREE"]⟩,
   ⟨0x2190, ["aLEFTWARDS ARROWaUPWARDS ARROWaRIGHTWARDS ARROWaDOWNWARDS ARROW",
     "aLEFT RIGHT ARROWaUP DOWN ARROWaNORTH WEST ARROWgEAST ARROWaSOUTH EAST ARROW",
     "gWEST ARROWaLEFTWARDS ARROW WITH STROKEaRIGHTWARDS ARROW WITH STROKE",
     "aLEFTWARDS WAVE ARROWaRIGHTWARDS WAVE ARROWaLEFTWARDS TWO HEADED ARROW",
     "aUPWARDS TWO HEADED ARROWaRIGHTWARDS TWO HEADED ARROW",
     "aDOWNWARDS TWO HEADED ARROWaLEFTWARDS ARROW WITH TAIL",
     "aRIGHTWARDS ARROW WITH TAILaLEFTWARDS ARROW FROM BARaUPWARDS ARROW FROM BAR",
     "aRIGHTWARDS ARROW FROM BARaDOWNWARDS ARROW FROM BARaUP DOWN ARROW WITH BASE",
     "aLEFTWARDS ARROW WITH HOOKaRIGHTWARDS ARROW WITH HOOK",
     "aLEFTWARDS ARROW WITH LOOPaRIGHTWARDS ARROW WITH LOOPaLEFT RIGHT WAVE ARROW",
     "lARROW WITH STROKEaDOWNWARDS ZIGZAG ARROWaUPWARDS ARROW WITH TIP LEFTWARDS",
     "xRIGHTWARDSaDOWNWARDS ARROW WITH TIP LEFTWARDSzRIGHTWARDS",
     "aRIGHTWARDS ARROW WITH CORNER DOWNWARDS",
     "aDOWNWARDS ARROW WITH CORNER LEFTWARDSaANTICLOCKWISE TOP SEMICIRCLE ARROW",
     "aCLOCKWISE TOP SEMICIRCLE ARROWaNORTH WEST ARROW TO LONG BAR",
     "aLEFTWARDS ARROW TO BAR OVER RIGHTWARDS ARROW TO BAR",
     "aANTICLOCKWISE OPEN CIRCLE ARROWaCLOCKWISE OPEN CIRCLE ARROW",
     "aLEFTWARDS HARPOON WITH BARB UPWARDSzRB DOWNWARDS",
     "aUPWARDS HARPOON WITH BARB RIGHTWARDSz LEFTWARDS",
     "aRIGHTWARDS HARPOON WITH BARB UPWARDSzARB DOWNWARDS",
     "aDOWNWARDS HARPOON WITH BARB RIGHTWARDSzRB LEFTWARDS",
     "aRIGHTWARDS ARROW OVER LEFTWARDS ARROW",
     "aUPWARDS ARROW LEFTWARDS OF DOWNWARDS ARROW",
     "aLEFTWARDS ARROW OVER RIGHTWARDS ARROWkPAIRED ARROWSaUPWARDS PAIRED ARROWS",
     "aRIGHTWARDS PAIRED ARROWSaDOWNWARDS PAIRED ARROWS",
     "aLEFTWARDS HARPOON OVER RIGHTWARDS HARPOON",
     "aRIGHTWARDS HARPOON OVER LEFTWARDS HARPOON",
     "aLEFTWARDS DOUBLE ARROW WITH STROKEe RIGHT DOUBLE ARROW WITH STROKE",
     "aRIGHTWARDS DOUBLE ARROW WITH STROKEaLEFTWARDS DOUBLE ARROW",
     "aUPWARDS DOUBLE ARROWaRIGHTWARDS DOUBLE ARROWaDOWNWARDS DOUBLE ARROW",
     "aLEFT RIGHT DOUBLE ARROWaUP DOWN DOUBLE ARROWaNORTH WEST DOUBLE ARROW",
     "gEAST DOUBLE ARROWaSOUTH EAST DOUBLE ARROWgWEST DOUBLE ARROW",
     "aLEFTWARDS TRIPLE ARROWaRIGHTWARDS TRIPLE ARROWaLEFTWARDS SQUIGGLE ARROW",
     "aRIGHTWARDS SQUIGGLE ARROWaUPWARDS ARROW WITH DOUBLE STROKE",
     "aDOWNWARDS ARROW WITH DOUBLE STROKEaLEFTWARDS DASHED ARROW",
     "aUPWARDS DASHED ARROWaRIGHTWARDS DASHED ARROWaDOWNWARDS DASHED ARROW",
     "aLEFTWARDS ARROW TO BARaRIGHTWARDS ARROW TO BARaLEFTWARDS WHITE ARROW",
     "aUPWARDS WHITE ARROWaRIGHTWARDS WHITE ARROWaDOWNWARDS WHITE ARROW",
     "aUPWARDS WHITE ARROW FROM BARuON PEDESTALzDESTAL WITH HORIZONTAL BAR",
     "zDESTAL WITH VERTICAL BARoDOUBLE ARROWzW ON PEDESTAL",
     "aRIGHTWARDS WHITE ARROW FROM WALLaNORTH WEST ARROW TO CORNER",
     "aSOUTH EAST ARROW TO CORNERaUP DOWN WHITE ARROW",
     "aRIGHT ARROW WITH SMALL CIRCLEaDOWNWARDS ARROW LEFTWARDS OF UPWARDS ARROW",
     "aTHREE RIGHTWARDS ARROWSaLEFTWARDS ARROW WITH VERTICAL STROKE",
     "aRIGHTWARDS ARROW WITH VERTICAL STROKEaLEFT RIGHT ARROW WITH VERTICAL STROKE",
     "eWARDS ARROW WITH DOUBLE VERTICAL STROKE",
     "aRIGHTWARDS ARROW WITH DOUBLE VERTICAL STROKE",
     "aLEFT RIGHT ARROW WITH DOUBLE VERTICAL STROKEeWARDS OPEN-HEADED ARROW",
     "aRIGHTWARDS OPEN-HEADED ARROWaLEFT RIGHT OPEN-HEADED ARROWaFOR ALL",
     "aCOMPLEMENTaPARTIAL DIFFERENTIALaTHERE EXISTSgDOES NOT EXISTaEMPTY SET",
     "aINCREMENTaNABLAaELEMENT OFaNOT AN ELEMENT OFaSMALL ELEMENT OF",
     "aCONTAINS AS MEMBERaDOES NOT CONTAIN AS MEMBERaSMALL CONTAINS AS MEMBER",
     "aEND OF PROOFaN-ARY PRODUCTgCOPRODUCTgSUMMATIONaMINUS SIGNf-OR-PLUS SIGN",
     "aDOT PLUSbIVISION SLASHaSET MINUSaASTERISK OPERATORaRING OPERATOR",
     "aBULLET OPERATORaSQUARE ROOTaCUBE ROOTaFOURTH ROOTaPROPORTIONAL TOaINFINITY",
     "aRIGHT ANGLEaANGLEaMEASURED ANGLEaSPHERICAL ANGLEaDIVIDESbOES NOT DIVIDE",
     "aPARALLEL TOaNOT PARALLEL TOaLOGICAL ANDiORaINTERSECTIONaUNIONaINTEGRAL",
     "aDOUBLE INTEGRALaTRIPLE INTEGRALaCONTOUR INTEGRALaSURFACE INTEGRAL",
     "aVOLUME INTEGRALaCLOCKWISE INTEGRALkCONTOUR INTEGRAL",
     "aANTICLOCKWISE CONTOUR INTEGRALaTHEREFOREaBECAUSEaRATIOaPROPORTIONaDOT MINUS",
     "aEXCESSaGEOMETRIC PROPORTIONaHOMOTHETICaTILDE OPERATORaREVERSED TILDE",
     "aINVERTED LAZY SaSINE WAVEaWREATH PRODUCTaNOT TILDEaMINUS TILDE",
     "aASYMPTOTICALLY EQUAL TOaNOT ASYMPTOTICALLY EQUAL TOaAPPROXIMATELY EQUAL TO",
     "oBUT NOT ACTUALLY EQUAL TOaNEITHER APPROXIMATELY NOR ACTUALLY EQUAL TO",
     "aALMOST EQUAL TOaNOT ALMOST EQUAL TOaALMOST EQUAL OR EQUAL TOaTRIPLE TILDE",
     "aALL EQUAL TOaEQUIVALENT TOaGEOMETRICALLY EQUIVALENT TOaDIFFERENCE BETWEEN",
     "aAPPROACHES THE LIMITaGEOMETRICALLY EQUAL TO",
     "aAPPROXIMATELY EQUAL TO OR THE IMAGE OFaIMAGE OF OR APPROXIMATELY EQUAL TO",
     "aCOLON EQUALSaEQUALS COLONaRING IN EQUAL TOfEQUAL TOaCORRESPONDS TO",
     "aESTIMATESbQUIANGULAR TOaSTAR EQUALSaDELTA EQUAL TOaEQUAL TO BY DEFINITION",
     "aMEASURED BYaQUESTIONED EQUAL TOaNOT EQUAL TOaIDENTICAL TOaNOT IDENTICAL TO",
     "aSTRICTLY EQUIVALENT TOaLESS-THAN OR EQUAL TOaGREATER-THAN OR EQUAL TO",
     "aLESS-THAN OVER EQUAL TOaGREATER-THAN OVER EQUAL TO",
     "aLESS-THAN BUT NOT EQUAL TOaGREATER-THAN BUT NOT EQUAL TOaMUCH LESS-THAN",
     "fGREATER-THANaBETWEENaNOT EQUIVALENT TOeLESS-THANeGREATER-THAN",
     "bEITHER LESS-THAN NOR EQUAL TOiGREATER-THAN NOR EQUAL TO",
     "aLESS-THAN OR EQUIVALENT TOaGREATER-THAN OR EQUIVALENT TO",
     "aNEITHER LESS-THAN NOR EQUIVALENT TOiGREATER-THAN NOR EQUIVALENT TO",
     "aLESS-THAN OR GREATER-THANaGREATER-THAN OR LESS-THAN",
     "aNEITHER LESS-THAN NOR GREATER-THANiGREATER-THAN NOR LESS-THANaPRECEDES",
     "aSUCCEEDSaPRECEDES OR EQUAL TOaSUCCEEDS OR EQUAL TO",
     "aPRECEDES OR EQUIVALENT TOaSUCCEEDS OR EQUIVALENT TOaDOES NOT PRECEDE",
     "jSUCCEEDaSUBSET OFcPERSET OFaNOT A SUBSET OFiPERSET OFaSUBSET OF OR EQUAL TO",
     "cPERSET OF OR EQUAL TOaNEITHER A SUBSET OF NOR EQUAL TO",
     "mPERSET OF NOR EQUAL TOaSUBSET OF WITH NOT EQUAL TO",
     "cPERSET OF WITH NOT EQUAL TOaMULTISETi MULTIPLICATIONjUNIONaSQUARE IMAGE OF",
     "hORIGINAL OFhIMAGE OF OR EQUAL TOhORIGINAL OF OR EQUAL TOhCAPiUP",
     "aCIRCLED PLUSiMINUSiTIMESiDIVISION SLASHjOT OPERATORiRING OPERATOR",
     "iASTERISK OPERATORiEQUALSiDASHaSQUARED PLUSiMINUSiTIMESiDOT OPERATOR",
     "aRIGHT TACKaLEFT TACKaDOWN TACKaUP TACKaASSERTIONaMODELSaTRUEaFORCES",
     "aTRIPLE VERTICAL BAR RIGHT TURNSTILE",
     "aDOUBLE VERTICAL BAR DOUBLE RIGHT TURNSTILEcES NOT PROVEaNOT TRUE",
     "aDOES NOT FORCEaNEGATED DOUBLE VERTICAL BAR DOUBLE RIGHT TURNSTILE",
     "aPRECEDES UNDER RELATIONaSUCCEEDS UNDER RELATIONaNORMAL SUBGROUP OF",
     "aCONTAINS AS NORMAL SUBGROUPaNORMAL SUBGROUP OF OR EQUAL TO",
     "aCONTAINS AS NORMAL SUBGROUP OR EQUAL TOaORIGINAL OFaIMAGE OFaMULTIMAP",
     "aHERMITIAN CONJUGATE MATRIXaINTERCALATEaXORaNANDbORaRIGHT ANGLE WITH ARC",
     "gTRIANGLEaN-ARY LOGICAL ANDoORgINTERSECTIONgUNIONaDIAMOND OPERATOR",
     "bOT OPERATORaSTAR OPERATORaDIVISION TIMESaBOWTIE",
     "aLEFT NORMAL FACTOR SEMIDIRECT PRODUCT",
     "aRIGHT NORMAL FACTOR SEMIDIRECT PRODUCTaLEFT SEMIDIRECT PRODUCT",
     "aRIGHT SEMIDIRECT PRODUCTbEVERSED TILDE EQUALSaCURLY LOGICAL ORoAND",
     "aDOUBLE SUBSETjPERSEThINTERSECTIONhUNIONaPITCHFORKaEQUAL AND PARALLEL TO",
     "aLESS-THAN WITH DOTaGREATER-THAN WITH DOTaVERY MUCH LESS-THANkGREATER-THAN",
     "aLESS-THAN EQUAL TO OR GREATER-THANaGREATER-THAN EQUAL TO OR LESS-THAN",
     "aEQUAL TO OR LESS-THANmGREATER-THANmPRECEDESmSUCCEEDS",
     "aDOES NOT PRECEDE OR EQUALjSUCCEED OR EQUALaNOT SQUARE IMAGE OF OR EQUAL TO",
     "lORIGINAL OF OR EQUAL TOaSQUARE IMAGE OF OR NOT EQUAL TO",
     "hORIGINAL OF OR NOT EQUAL TOaLESS-THAN BUT NOT EQUIVALENT TO",
     "aGREATER-THAN BUT NOT EQUIVALENT TOaPRECEDES BUT NOT EQUIVALENT TO",
     "aSUCCEEDS BUT NOT EQUIVALENT TOaNOT NORMAL SUBGROUP OF",
     "aDOES NOT CONTAIN AS NORMAL SUBGROUPaNOT NORMAL SUBGROUP OF OR EQUAL TO",
     "aDOES NOT CONTAIN AS NORMAL SUBGROUP OR EQUALaVERTICAL ELLIPSIS",
     "aMIDLINE HORIZONTAL ELLIPSISaUP RIGHT DIAGONAL ELLIPSIS",
     "aDOWN RIGHT DIAGONAL ELLIPSISaELEMENT OF WITH LONG HORIZONTAL STROKE",
     "qVERTICAL BAR AT END OF HORIZONTAL STROKE",
     "aSMALL ELEMENT OF WITH VERTICAL BAR AT END OF HORIZONTAL STROKE",
     "aELEMENT OF WITH DOT ABOVEqOVERBARaSMALL ELEMENT OF WITH OVERBAR",
     "aELEMENT OF WITH UNDERBARqTWO HORIZONTAL STROKES",
     "aCONTAINS WITH LONG HORIZONTAL STROKE",
     "oVERTICAL BAR AT END OF HORIZONTAL STROKE",
     "aSMALL CONTAINS WITH VERTICAL BAR AT END OF HORIZONTAL STROKE",
     "aCONTAINS WITH OVERBARaSMALL CONTAINS WITH OVERBARaZ NOTATION BAG MEMBERSHIP",
     "aDIAMETER SIGNaELECTRIC ARROWaHOUSEaUP ARROWHEADaDOWN ARROWHEADaPROJECTIVE",
     "bERSPECTIVEaWAVY LINEaLEFT CEILINGaRIGHT CEILINGaLEFT FLOORaRIGHT FLOOR",
     "aBOTTOM RIGHT CROPhLEFT CROPaTOP RIGHT CROPeLEFT CROPaREVERSED NOT SIGN",
     "aSQUARE LOZENGEaARCaSEGMENTcCTORaTELEPHONE RECORDERaPOSITION INDICATOR",
     "aVIEWDATA SQUAREaPLACE OF INTEREST SIGNaTURNED NOT SIGNaWATCHaHOURGLASS",
     "aTOP LEFT CORNEReRIGHT CORNERaBOTTOM LEFT CORNERhRIGHT CORNER",
     "aTOP HALF INTEGRALaBOTTOM HALF INTEGRALaFROWNaSMILE",
     "aUP ARROWHEAD BETWEEN TWO HORIZONTAL BARSaOPTION KEYaERASE TO THE RIGHT",
     "aX IN A RECTANGLE BOXaKEYBOARDaLEFT-POINTING ANGLE BRACKET",
     "aRIGHT-POINTING ANGLE BRACKETaERASE TO THE LEFTaBENZENE RINGaCYLINDRICITY",
     "aALL AROUND-PROFILEaSYMMETRYaTOTAL RUNOUTaDIMENSION ORIGINaCONICAL TAPER",
     "aSLOPEaCOUNTERBOREhSINKaAPL FUNCTIONAL SYMBOL I-BEAMwSQUISH QUADwQUAD EQUAL",
     "zD DIVIDEzD DIAMONDzD JOTzD CIRCLEwCIRCLE STILEzCLE JOTwSLASH BAR",
     "wBACKSLASH BARwQUAD SLASHzD BACKSLASHzD LESS-THANzD GREATER-THAN",
     "wLEFTWARDS VANEwRIGHTWARDS VANEwQUAD LEFTWARDS ARROWzD RIGHTWARDS ARROW",
     "wCIRCLE BACKSLASHwDOWN TACK UNDERBARxELTA STILEwQUAD DOWN CARETzD DELTA",
     "wDOWN TACK JOTwUPWARDS VANEwQUAD UPWARDS ARROWwUP TACK OVERBARwDEL STILE",
     "wQUAD UP CARETzD DELwUP TACK JOTwDOWNWARDS VANEwQUAD DOWNWARDS ARROW",
     "yOTE UNDERBARwDELTA UNDERBARxIAMOND UNDERBARwJOT UNDERBARwCIRCLE UNDERBAR",
     "wUP SHOE JOTwQUOTE QUADwCIRCLE STARwQUAD COLONwUP TACK DIAERESIS",
     "wDEL DIAERESISwSTAR DIAERESISwJOT DIAERESISwCIRCLE DIAERESISwDOWN SHOE STILE",
     "wLEFT SHOE STILEwTILDE DIAERESISwGREATER-THAN DIAERESISwCOMMA BARwDEL TILDE",
     "wZILDEwSTILE TILDExEMICOLON UNDERBARwQUAD NOT EQUALzD QUESTION",
     "wDOWN CARET TILDEwUP CARET TILDEwIOTAwRHOwOMEGAwALPHA UNDERBAR",
     "wEPSILON UNDERBARwIOTA UNDERBARwOMEGA UNDERBARwALPHAaNOT CHECK MARK",
     "aRIGHT ANGLE WITH DOWNWARDS ZIGZAG ARROWaSHOULDERED OPEN BOXaBELL SYMBOL",
     "aVERTICAL LINE WITH MIDDLE DOTaINSERTION SYMBOLaCONTINUOUS UNDERLINE SYMBOL",
     "aDISCONTINUOUS UNDERLINE SYMBOLaEMPHASIS SYMBOLaCOMPOSITION SYMBOL",
     "aWHITE SQUARE WITH CENTRE VERTICAL LINEaENTER SYMBOLaALTERNATIVE KEY SYMBOL",
     "aHELM SYMBOLaCIRCLED HORIZONTAL BAR WITH NOTCHiTRIANGLE DOWN",
     "aBROKEN CIRCLE WITH NORTHWEST ARROWaUNDO SYMBOLaMONOSTABLE SYMBOL",
     "aHYSTERESIS SYMBOLaOPEN-CIRCUIT-OUTPUT H-TYPE SYMBOLuL-TYPE SYMBOL",
     "aPASSIVE-PULL-DOWN-OUTPUT SYMBOLnUP-OUTPUT SYMBOL",
     "aDIRECT CURRENT SYMBOL FORM TWOaSOFTWARE-FUNCTION SYMBOL",
     "aAPL FUNCTIONAL SYMBOL QUADaDECIMAL SEPARATOR KEY SYMBOLaPREVIOUS PAGE",
     "aNEXT PAGEaPRINT SCREEN SYMBOLaCLEAR SCREEN SYMBOL",
     "aLEFT PARENTHESIS UPPER HOOKrEXTENSIONrLOWER HOOK",
     "aRIGHT PARENTHESIS UPPER HOOKsEXTENSIONsLOWER HOOK",
     "aLEFT SQUARE BRACKET UPPER CORNERuEXTENSIONuLOWER CORNER",
     "aRIGHT SQUARE BRACKET UPPER CORNERvEXTENSIONvLOWER CORNER",
     "aLEFT CURLY BRACKET UPPER HOOKtMIDDLE PIECEtLOWER HOOK",
     "aCURLY BRACKET EXTENSIONaRIGHT CURLY BRACKET UPPER HOOKuMIDDLE PIECE",
     "uLOWER HOOKaINTEGRAL EXTENSIONaHORIZONTAL LINE EXTENSION",
     "aUPPER LEFT OR LOWER RIGHT CURLY BRACKET SECTION",
     "gRIGHT OR LOWER LEFT CURLY BRACKET SECTIONaSUMMATION TOPkBOTTOM",
     "aTOP SQUARE BRACKETaBOTTOM SQUARE BRACKETv OVER TOP SQUARE BRACKET",
     "aRADICAL SYMBOL BOTTOMaLEFT VERTICAL BOX LINEaRIGHT VERTICAL BOX LINE",
     "aHORIZONTAL SCAN LINE-1v3v7v9aDENTISTRY SYMBOL LIGHT VERTICAL AND TOP RIGHT",
     "zRTICAL AND BOTTOM RIGHTzRTICAL WITH CIRCLExDOWN AND HORIZONTAL WITH CIRCLE",
     "xUP AND HORIZONTAL WITH CIRCLExVERTICAL WITH TRIANGLE",
     "xDOWN AND HORIZONTAL WITH TRIANGLExUP AND HORIZONTAL WITH TRIANGLE",
     "xVERTICAL AND WAVExDOWN AND HORIZONTAL WITH WAVExUP AND HORIZONTAL WITH WAVE",
     "xDOWN AND HORIZONTALxUP AND HORIZONTALxVERTICAL AND TOP LEFT",
     "zRTICAL AND BOTTOM LEFTaSQUARE FOOTaRETURN SYMBOLaEJECT SYMBOL",
     "aVERTICAL LINE EXTENSIONaMETRICAL BREVEjLONG OVER SHORTjSHORT OVER LONG",
     "jLONG OVER TWO SHORTSjTWO SHORTS OVER LONGuJOINEDkRISEMEkETRASEMEjPENTASEME",
     "aEARTH GROUNDaFUSEaTOP PARENTHESISaBOTTOM PARENTHESISaTOP CURLY BRACKET",
     "aBOTTOM CURLY BRACKETaTOP TORTOISE SHELL BRACKET",
     "aBOTTOM TORTOISE SHELL BRACKETaWHITE TRAPEZIUMaBENZENE RING WITH CIRCLE",
     "aSTRAIGHTNESSaFLATNESSaAC CURRENTaELECTRICAL INTERSECTION",
     "aDECIMAL EXPONENT SYMBOLaBLACK RIGHT-POINTING DOUBLE TRIANGLE",
     "gLEFT-POINTING DOUBLE TRIANGLEgUP-POINTING DOUBLE TRIANGLE",
     "gDOWN-POINTING DOUBLE TRIANGLE",
     "gRIGHT-POINTING DOUBLE TRIANGLE WITH VERTICAL BAR",
     "gLEFT-POINTING DOUBLE TRIANGLE WITH VERTICAL BAR",
     "gRIGHT-POINTING TRIANGLE WITH DOUBLE VERTICAL BARaALARM CLOCKaSTOPWATCH",
     "aTIMER CLOCKaHOURGLASS WITH FLOWING SANDaBLACK MEDIUM LEFT-POINTING TRIANGLE",
     "nRIGHT-POINTING TRIANGLEnUP-POINTING TRIANGLEnDOWN-POINTING TRIANGLE",
     "aDOUBLE VERTICAL BARaBLACK SQUARE FOR STOPgCIRCLE FOR RECORDaPOWER SYMBOL",
     "gON-OFF SYMBOLi SYMBOLgSLEEP SYMBOLaOBSERVER EYE SYMBOLaSYMBOL FOR NULL",
     "lSTART OF HEADINGuTEXTlEND OF TEXTtRANSMISSIONnQUIRYlACKNOWLEDGElBELL",
     "mACKSPACElHORIZONTAL TABULATIONlLINE FEEDlVERTICAL TABULATIONlFORM FEED",
     "lCARRIAGE RETURNlSHIFT OUTrINlDATA LINK ESCAPEmEVICE CONTROL ONEz TWOz THREE",
     "z FOURlNEGATIVE ACKNOWLEDGElSYNCHRONOUS IDLElEND OF TRANSMISSION BLOCK",
     "lCANCELlEND OF MEDIUMlSUBSTITUTElESCAPElFILE SEPARATORlGROUP SEPARATOR",
     "lRECORD SEPARATORlUNIT SEPARATORlSPACElDELETEaBLANK SYMBOLaOPEN BOX",
     "aSYMBOL FOR NEWLINElDELETE FORM TWOlSUBSTITUTE FORM TWO"]⟩,
   ⟨0x2440, ["aOCR HOOKeCHAIReFORKeINVERTED FORKeBELT BUCKLEfOW TIE",
     "fRANCH BANK IDENTIFICATIONeAMOUNT OF CHECKeDASHeCUSTOMER ACCOUNT NUMBER",
     "eDOUBLE BACKSLASH"]⟩]

/-- Names of characters from U+2460 to U+4DFF. -/
def namesFrom2460 : List NameRun :=
  [⟨0x2460, ["aCIRCLED DIGIT ONEoTWOpHREEoFOURpIVEoSIXpEVENoEIGHToNINEiNUMBER TENpELEVEN",
     "pTWELVEqHIRTEENpFOURTEENqIFTEENpSIXTEENqEVENTEENpEIGHTEENpNINETEENpTWENTY",
     "aPARENTHESIZED DIGIT ONEuTWOvHREEuFOURvIVEuSIXvEVENuEIGHTuNINEoNUMBER TEN",
     "vELEVENvTWELVEwHIRTEENvFOURTEENwIFTEENvSIXTEENwEVENTEENvEIGHTEENvNINETEEN",
     "vTWENTYaDIGIT ONE FULL STOPgTWO FULL STOPhHREE FULL STOPgFOUR FULL STOP",
     "hIVE FULL STOPgSIX FULL STOPhEVEN FULL STOPgEIGHT FULL STOPgNINE FULL STOP",
     "aNUMBER TEN FULL STOPhELEVEN FULL STOPhTWELVE FULL STOPiHIRTEEN FULL STOP",
     "hFOURTEEN FULL STOPiIFTEEN FULL STOPhSIXTEEN FULL STOPiEVENTEEN FULL STOP",
     "hEIGHTEEN FULL STOPhNINETEEN FULL STOPhTWENTY FULL STOP",
     "aPARENTHESIZED LATIN SMALL LETTER Az LETTER Bz LETTER Cz LETTER Dz LETTER E",
     "z LETTER Fz LETTER Gz LETTER Hz LETTER Iz LETTER Jz LETTER Kz LETTER L",
     "z LETTER Mz LETTER Nz LETTER Oz LETTER Pz LETTER Qz LETTER Rz LETTER S",
     "z LETTER Tz LETTER Uz LETTER Vz LETTER Wz LETTER Xz LETTER Yz LETTER Z",
     "aCIRCLED LATIN CAPITAL LETTER AzTER BzTER CzTER DzTER EzTER FzTER GzTER H",
     "zTER IzTER JzTER KzTER LzTER MzTER NzTER OzTER PzTER QzTER RzTER SzTER T",
     "zTER UzTER VzTER WzTER XzTER YzTER ZoSMALL LETTER AzR BzR CzR DzR EzR FzR G",
     "zR HzR IzR JzR KzR LzR MzR NzR OzR PzR QzR RzR SzR TzR UzR VzR WzR XzR YzR Z",
     "iDIGIT ZEROaNEGATIVE CIRCLED NUMBER ELEVENyTWELVEzHIRTEENyFOURTEENzIFTEEN",
     "ySIXTEENzEVENTEENyEIGHTEENyNINETEENyTWENTYaDOUBLE CIRCLED DIGIT ONEvTWOwHREE",
     "vFOURwIVEvSIXwEVENvEIGHTvNINEpNUMBER TENaNEGATIVE CIRCLED DIGIT ZERO",
     "aBOX DRAWINGS LIGHT HORIZONTALnHEAVY HORIZONTALnLIGHT VERTICAL",
     "nHEAVY VERTICALnLIGHT TRIPLE DASH HORIZONTALnHEAVY TRIPLE DASH HORIZONTAL",
     "nLIGHT TRIPLE DASH VERTICALnHEAVY TRIPLE DASH VERTICAL",
     "nLIGHT QUADRUPLE DASH HORIZONTALnHEAVY QUADRUPLE DASH HORIZONTAL",
     "nLIGHT QUADRUPLE DASH VERTICALnHEAVY QUADRUPLE DASH VERTICAL",
     "nLIGHT DOWN AND RIGHTnDOWN LIGHT AND RIGHT HEAVYsHEAVY AND RIGHT LIGHT",
     "nHEAVY DOWN AND RIGHTnLIGHT DOWN AND LEFTnDOWN LIGHT AND LEFT HEAVY",
     "sHEAVY AND LEFT LIGHTnHEAVY DOWN AND LEFTnLIGHT UP AND RIGHT",
     "nUP LIGHT AND RIGHT HEAVYqHEAVY AND RIGHT LIGHTnHEAVY UP AND RIGHT",
     "nLIGHT UP AND LEFTnUP LIGHT AND LEFT HEAVYqHEAVY AND LEFT LIGHT",
     "nHEAVY UP AND LEFTnLIGHT VERTICAL AND RIGHTnVERTICAL LIGHT AND RIGHT HEAVY",
     "nUP HEAVY AND RIGHT DOWN LIGHTnDOWN HEAVY AND RIGHT UP LIGHT",
     "nVERTICAL HEAVY AND RIGHT LIGHTnDOWN LIGHT AND RIGHT UP HEAVY",
     "nUP LIGHT AND RIGHT DOWN HEAVYnHEAVY VERTICAL AND RIGHT",
     "nLIGHT VERTICAL AND LEFTnVERTICAL LIGHT AND LEFT HEAVY",
     "nUP HEAVY AND LEFT DOWN LIGHTnDOWN HEAVY AND LEFT UP LIGHT",
     "nVERTICAL HEAVY AND LEFT LIGHTnDOWN LIGHT AND LEFT UP HEAVY",
     "nUP LIGHT AND LEFT DOWN HEAVYnHEAVY VERTICAL AND LEFT",
     "nLIGHT DOWN AND HORIZONTALoEFT HEAVY AND RIGHT DOWN LIGHT",
     "nRIGHT HEAVY AND LEFT DOWN LIGHTnDOWN LIGHT AND HORIZONTAL HEAVY",
     "sHEAVY AND HORIZONTAL LIGHTnRIGHT LIGHT AND LEFT DOWN HEAVY",
     "nLEFT LIGHT AND RIGHT DOWN HEAVYnHEAVY DOWN AND HORIZONTAL",
     "nLIGHT UP AND HORIZONTALoEFT HEAVY AND RIGHT UP LIGHT",
     "nRIGHT HEAVY AND LEFT UP LIGHTnUP LIGHT AND HORIZONTAL HEAVY",
     "qHEAVY AND HORIZONTAL LIGHTnRIGHT LIGHT AND LEFT UP HEAVY",
     "nLEFT LIGHT AND RIGHT UP HEAVYnHEAVY UP AND HORIZONTAL",
     "nLIGHT VERTICAL AND HORIZONTALoEFT HEAVY AND RIGHT VERTICAL LIGHT",
     "nRIGHT HEAVY AND LEFT VERTICAL LIGHTnVERTICAL LIGHT AND HORIZONTAL HEAVY",
     "nUP HEAVY AND DOWN HORIZONTAL LIGHTnDOWN HEAVY AND UP HORIZONTAL LIGHT",
     "nVERTICAL HEAVY AND HORIZONTAL LIGHTnLEFT UP HEAVY AND RIGHT DOWN LIGHT",
     "nRIGHT UP HEAVY AND LEFT DOWN LIGHTnLEFT DOWN HEAVY AND RIGHT UP LIGHT",
     "nRIGHT DOWN HEAVY AND LEFT UP LIGHTnDOWN LIGHT AND UP HORIZONTAL HEAVY",
     "nUP LIGHT AND DOWN HORIZONTAL HEAVYnRIGHT LIGHT AND LEFT VERTICAL HEAVY",
     "nLEFT LIGHT AND RIGHT VERTICAL HEAVYnHEAVY VERTICAL AND HORIZONTAL",
     "nLIGHT DOUBLE DASH HORIZONTALnHEAVY DOUBLE DASH HORIZONTAL",
     "nLIGHT DOUBLE DASH VERTICALnHEAVY DOUBLE DASH VERTICALnDOUBLE HORIZONTAL",
     "uVERTICALpWN SINGLE AND RIGHT DOUBLEsDOUBLE AND RIGHT SINGLE",
     "pUBLE DOWN AND RIGHTpWN SINGLE AND LEFT DOUBLEsDOUBLE AND LEFT SINGLE",
     "pUBLE DOWN AND LEFTnUP SINGLE AND RIGHT DOUBLEqDOUBLE AND RIGHT SINGLE",
     "nDOUBLE UP AND RIGHTnUP SINGLE AND LEFT DOUBLEqDOUBLE AND LEFT SINGLE",
     "nDOUBLE UP AND LEFTnVERTICAL SINGLE AND RIGHT DOUBLEwDOUBLE AND RIGHT SINGLE",
     "nDOUBLE VERTICAL AND RIGHTnVERTICAL SINGLE AND LEFT DOUBLE",
     "wDOUBLE AND LEFT SINGLEnDOUBLE VERTICAL AND LEFT",
     "pWN SINGLE AND HORIZONTAL DOUBLEsDOUBLE AND HORIZONTAL SINGLE",
     "pUBLE DOWN AND HORIZONTALnUP SINGLE AND HORIZONTAL DOUBLE",
     "qDOUBLE AND HORIZONTAL SINGLEnDOUBLE UP AND HORIZONTAL",
     "nVERTICAL SINGLE AND HORIZONTAL DOUBLEwDOUBLE AND HORIZONTAL SINGLE",
     "nDOUBLE VERTICAL AND HORIZONTALnLIGHT ARC DOWN AND RIGHTzWN AND LEFT",
     "xUP AND LEFTz AND RIGHTtDIAGONAL UPPER RIGHT TO LOWER LEFT",
     "zAL UPPER LEFT TO LOWER RIGHTzAL CROSStLEFTtUPtRIGHTtDOWNnHEAVY LEFTtUP",
     "tRIGHTtDOWNnLIGHT LEFT AND HEAVY RIGHTtUP AND HEAVY DOWN",
     "nHEAVY LEFT AND LIGHT RIGHTtUP AND LIGHT DOWNaUPPER HALF BLOCK",
     "aLOWER ONE EIGHTH BLOCKkQUARTER BLOCKgTHREE EIGHTHS BLOCKgHALF BLOCK",
     "gFIVE EIGHTHS BLOCKgTHREE QUARTERS BLOCKgSEVEN EIGHTHS BLOCKaFULL BLOCK",
     "aLEFT SEVEN EIGHTHS BLOCKfTHREE QUARTERS BLOCKfFIVE EIGHTHS BLOCKfHALF BLOCK",
     "fTHREE EIGHTHS BLOCKfONE QUARTER BLOCKjEIGHTH BLOCKaRIGHT HALF BLOCK",
     "aLIGHT SHADEaMEDIUM SHADEaDARK SHADEaUPPER ONE EIGHTH BLOCK",
     "aRIGHT ONE EIGHTH BLOCKaQUADRANT LOWER LEFTpRIGHTjUPPER LEFT",
     "t AND LOWER LEFT AND LOWER RIGHTzOWER RIGHTyUPPER RIGHT AND LOWER LEFT",
     "zPPER RIGHT AND LOWER RIGHTpRIGHTu AND LOWER LEFTzLOWER LEFT AND LOWER RIGHT",
     "aBLACK SQUAREaWHITE SQUAREm WITH ROUNDED CORNERS",
     "nCONTAINING BLACK SMALL SQUAREaSQUARE WITH HORIZONTAL FILLmVERTICAL FILL",
     "mORTHOGONAL CROSSHATCH FILLmUPPER LEFT TO LOWER RIGHT FILL",
     "sRIGHT TO LOWER LEFT FILLmDIAGONAL CROSSHATCH FILLaBLACK SMALL SQUARE",
     "aWHITE SMALL SQUAREaBLACK RECTANGLEaWHITE RECTANGLEaBLACK VERTICAL RECTANGLE",
     "aWHITE VERTICAL RECTANGLEaBLACK PARALLELOGRAMaWHITE PARALLELOGRAM",
     "aBLACK UP-POINTING TRIANGLEaWHITE UP-POINTING TRIANGLE",
     "aBLACK UP-POINTING SMALL TRIANGLEaWHITE UP-POINTING SMALL TRIANGLE",
     "aBLACK RIGHT-POINTING TRIANGLEaWHITE RIGHT-POINTING TRIANGLE",
     "aBLACK RIGHT-POINTING SMALL TRIANGLEaWHITE RIGHT-POINTING SMALL TRIANGLE",
     "aBLACK RIGHT-POINTING POINTERaWHITE RIGHT-POINTING POINTER",
     "aBLACK DOWN-POINTING TRIANGLEaWHITE DOWN-POINTING TRIANGLE",
     "aBLACK DOWN-POINTING SMALL TRIANGLEaWHITE DOWN-POINTING SMALL TRIANGLE",
     "aBLACK LEFT-POINTING TRIANGLEaWHITE LEFT-POINTING TRIANGLE",
     "aBLACK LEFT-POINTING SMALL TRIANGLEaWHITE LEFT-POINTING SMALL TRIANGLE",
     "aBLACK LEFT-POINTING POINTERaWHITE LEFT-POINTING POINTERaBLACK DIAMOND",
     "aWHITE DIAMONDn CONTAINING BLACK SMALL DIAMONDaFISHEYEaLOZENGEaWHITE CIRCLE",
     "aDOTTED CIRCLEaCIRCLE WITH VERTICAL FILLaBULLSEYEbLACK CIRCLE",
     "aCIRCLE WITH LEFT HALF BLACKmRIGHT HALF BLACKmLOWER HALF BLACK",
     "mUPPER HALF BLACKsRIGHT QUADRANT BLACKmALL BUT UPPER LEFT QUADRANT BLACK",
     "aLEFT HALF BLACK CIRCLEaRIGHT HALF BLACK CIRCLEaINVERSE BULLETiWHITE CIRCLE",
     "aUPPER HALF INVERSE WHITE CIRCLEaLOWER HALF INVERSE WHITE CIRCLE",
     "aUPPER LEFT QUADRANT CIRCULAR ARCgRIGHT QUADRANT CIRCULAR ARC",
     "aLOWER RIGHT QUADRANT CIRCULAR ARCgLEFT QUADRANT CIRCULAR ARC",
     "aUPPER HALF CIRCLEaLOWER HALF CIRCLEaBLACK LOWER RIGHT TRIANGLE",
     "mLEFT TRIANGLEgUPPER LEFT TRIANGLEmRIGHT TRIANGLEaWHITE BULLET",
     "aSQUARE WITH LEFT HALF BLACKmRIGHT HALF BLACKmUPPER LEFT DIAGONAL HALF BLACK",
     "mLOWER RIGHT DIAGONAL HALF BLACKaWHITE SQUARE WITH VERTICAL BISECTING LINE",
     "gUP-POINTING TRIANGLE WITH DOTaUP-POINTING TRIANGLE WITH LEFT HALF BLACK",
     "z RIGHT HALF BLACKaLARGE CIRCLEaWHITE SQUARE WITH UPPER LEFT QUADRANT",
     "sLOWER LEFT QUADRANTyRIGHT QUADRANTsUPPER RIGHT QUADRANT",
     "gCIRCLE WITH UPPER LEFT QUADRANTsLOWER LEFT QUADRANTyRIGHT QUADRANT",
     "sUPPER RIGHT QUADRANTaUPPER LEFT TRIANGLEgRIGHT TRIANGLEaLOWER LEFT TRIANGLE",
     "aWHITE MEDIUM SQUAREaBLACK MEDIUM SQUAREaWHITE MEDIUM SMALL SQUARE",
     "aBLACK MEDIUM SMALL SQUAREaLOWER RIGHT TRIANGLEaBLACK SUN WITH RAYSaCLOUD",
     "aUMBRELLAaSNOWMANaCOMETaBLACK STARaWHITE STARaLIGHTNINGaTHUNDERSTORMaSUN",
     "aASCENDING NODEaDESCENDING NODEaCONJUNCTIONaOPPOSITIONaBLACK TELEPHONE",
     "aWHITE TELEPHONEaBALLOT BOXk WITH CHECKqXaSALTIREaUMBRELLA WITH RAIN DROPS",
     "aHOT BEVERAGEaWHITE SHOGI PIECEaBLACK SHOGI PIECEaSHAMROCK",
     "aREVERSED ROTATED FLORAL HEART BULLETaBLACK LEFT POINTING INDEX",
     "gRIGHT POINTING INDEXaWHITE LEFT POINTING INDEXgUP POINTING INDEX",
     "gRIGHT POINTING INDEXgDOWN POINTING INDEXaSKULL AND CROSSBONESaCAUTION SIGN",
     "aRADIOACTIVE SIGNaBIOHAZARD SIGNaCADUCEUSaANKHaORTHODOX CROSSaCHI RHO",
     "bROSS OF LORRAINEjJERUSALEMaSTAR AND CRESCENTaFARSI SYMBOLaADI SHAKTI",
     "aHAMMER AND SICKLEaPEACE SYMBOLaYIN YANGaTRIGRAM FOR HEAVENmLAKEmFIRE",
     "mTHUNDERmWINDnATERmMOUNTAINmEARTHaWHEEL OF DHARMAcITE FROWNING FACE",
     "gSMILING FACEaBLACK SMILING FACEaWHITE SUN WITH RAYSaFIRST QUARTER MOON",
     "aLAST QUARTER MOONaMERCURYaFEMALE SIGNaEARTHaMALE SIGNaJUPITERaSATURNaURANUS",
     "aNEPTUNEaPLUTOaARIESaTAURUSaGEMINIaCANCERaLEOaVIRGOaLIBRAaSCORPIUS",
     "bAGITTARIUSaCAPRICORNaAQUARIUSaPISCESaWHITE CHESS KINGmQUEENmROOKmBISHOP",
     "mKNIGHTmPAWNaBLACK CHESS KINGmQUEENmROOKmBISHOPmKNIGHTmPAWNgSPADE SUIT",
     "aWHITE HEART SUITgDIAMOND SUITaBLACK CLUB SUITaWHITE SPADE SUIT",
     "aBLACK HEART SUITgDIAMOND SUITaWHITE CLUB SUITaHOT SPRINGSaQUARTER NOTE",
     "aEIGHTH NOTEaBEAMED EIGHTH NOTEShSIXTEENTH NOTESaMUSIC FLAT SIGN",
     "gNATURAL SIGNgSHARP SIGNaWEST SYRIAC CROSSaEAST SYRIAC CROSS",
     "aUNIVERSAL RECYCLING SYMBOLaRECYCLING SYMBOL FOR TYPE-1 PLASTICSz-2 PLASTICS",
     "z-3 PLASTICSz-4 PLASTICSz-5 PLASTICSz-6 PLASTICSz-7 PLASTICS",
     "vGENERIC MATERIALSaBLACK UNIVERSAL RECYCLING SYMBOLaRECYCLED PAPER SYMBOL",
     "aPARTIALLY-RECYCLED PAPER SYMBOLbERMANENT PAPER SIGNaWHEELCHAIR SYMBOL",
     "aDIE FACE-1j2j3j4j5j6aWHITE CIRCLE WITH DOT RIGHTsTWO DOTS",
     "aBLACK CIRCLE WITH WHITE DOT RIGHTsTWO WHITE DOTSaMONOGRAM FOR YANGoIN",
     "aDIGRAM FOR GREATER YANGlLESSER YINtANGlGREATER YINaWHITE FLAGaBLACK FLAG",
     "aHAMMER AND PICKaANCHORaCROSSED SWORDSaSTAFF OF AESCULAPIUSbCALESaALEMBIC",
     "aFLOWERaGEARaSTAFF OF HERMESaATOM SYMBOLaFLEUR-DE-LISaOUTLINED WHITE STAR",
     "aTHREE LINES CONVERGING RIGHTxLEFTaWARNING SIGNaHIGH VOLTAGE SIGN",
     "aDOUBLED FEMALE SIGNiMALE SIGNaINTERLOCKED FEMALE AND MALE SIGN",
     "aMALE AND FEMALE SIGNfWITH STROKE SIGNrAND MALE AND FEMALE SIGN",
     "aVERTICAL MALE WITH STROKE SIGNaHORIZONTAL MALE WITH STROKE SIGN",
     "aMEDIUM WHITE CIRCLEhBLACK CIRCLEhSMALL WHITE CIRCLEbARRIAGE SYMBOL",
     "aDIVORCE SYMBOLaUNMARRIED PARTNERSHIP SYMBOLaCOFFINaFUNERAL URNaNEUTERaCERES",
     "aPALLASaJUNOaVESTAaCHIRONaBLACK MOON LILITHaSEXTILEcMISEXTILEaQUINCUNX",
     "aSESQUIQUADRATEbOCCER BALLaBASEBALLaSQUARED KEYaWHITE DRAUGHTS MANpKING",
     "aBLACK DRAUGHTS MANpKINGaSNOWMAN WITHOUT SNOWbUN BEHIND CLOUDaRAIN",
     "aBLACK SNOWMANaTHUNDER CLOUD AND RAINbURNED WHITE SHOGI PIECE",
     "hBLACK SHOGI PIECEaWHITE DIAMOND IN SQUAREaCROSSING LANESaDISABLED CAR",
     "aOPHIUCHUSaPICKaCAR SLIDINGaHELMET WITH WHITE CROSSaCIRCLED CROSSING LANES",
     "bHAINSaNO ENTRYaALTERNATE ONE-WAY LEFT WAY TRAFFIC",
     "aBLACK TWO-WAY LEFT WAY TRAFFICaWHITE TWO-WAY LEFT WAY TRAFFIC",
     "aBLACK LEFT LANE MERGEaWHITE LEFT LANE MERGEaDRIVE SLOW SIGN",
     "aHEAVY WHITE DOWN-POINTING TRIANGLEaLEFT CLOSED ENTRYaSQUARED SALTIRE",
     "aFALLING DIAGONAL IN WHITE CIRCLE IN BLACK SQUAREaBLACK TRUCK",
     "aRESTRICTED LEFT ENTRY-1w2aASTRONOMICAL SYMBOL FOR URANUS",
     "aHEAVY CIRCLE WITH STROKE AND TWO DOTS ABOVEaPENTAGRAM",
     "aRIGHT-HANDED INTERLACED PENTAGRAMaLEFT-HANDED INTERLACED PENTAGRAM",
     "aINVERTED PENTAGRAMaBLACK CROSS ON SHIELDaSHINTO SHRINEaCHURCHbASTLE",
     "aHISTORIC SITEaGEAR WITHOUT HUBj HANDLESaMAP SYMBOL FOR LIGHTHOUSEbOUNTAIN",
     "aUMBRELLA ON GROUNDaFOUNTAINbLAG IN HOLEbERRYaSAILBOATbQUARE FOUR CORNERS",
     "bKIERaICE SKATEaPERSON WITH BALLaTENTaJAPANESE BANK SYMBOL",
     "aHEADSTONE GRAVEYARD SYMBOLaFUEL PUMPaCUP ON BLACK SQUARE",
     "aWHITE FLAG WITH HORIZONTAL MIDDLE BLACK STRIPEaBLACK SAFETY SCISSORS",
     "aUPPER BLADE SCISSORSaBLACK SCISSORSaLOWER BLADE SCISSORSaWHITE SCISSORS",
     "gHEAVY CHECK MARKaTELEPHONE LOCATION SIGNbAPE DRIVEaAIRPLANEaENVELOPE",
     "aRAISED FISThHANDaVICTORY HANDaWRITING HANDaLOWER RIGHT PENCILaPENCIL",
     "aUPPER RIGHT PENCILaWHITE NIBaBLACK NIBaCHECK MARKaHEAVY CHECK MARK",
     "aMULTIPLICATION XaHEAVY MULTIPLICATION XaBALLOT XaHEAVY BALLOT X",
     "aOUTLINED GREEK CROSSaHEAVY GREEK CROSSaOPEN CENTRE CROSS",
     "aHEAVY OPEN CENTRE CROSSaLATIN CROSSaSHADOWED WHITE LATIN CROSS",
     "aOUTLINED LATIN CROSSaMALTESE CROSSaSTAR OF DAVID",
     "aFOUR TEARDROP-SPOKED ASTERISKfBALLOON-SPOKED ASTERISK",
     "aHEAVY FOUR BALLOON-SPOKED ASTERISKaFOUR CLUB-SPOKED ASTERISK",
     "aBLACK FOUR POINTED STARaWHITE FOUR POINTED STARaSPARKLES",
     "bTRESS OUTLINED WHITE STARaCIRCLED WHITE STARaOPEN CENTRE BLACK STAR",
     "aBLACK CENTRE WHITE STARaOUTLINED BLACK STARaHEAVY OUTLINED BLACK STAR",
     "aPINWHEEL STARaSHADOWED WHITE STARaHEAVY ASTERISKaOPEN CENTRE ASTERISK",
     "aEIGHT SPOKED ASTERISKgPOINTED BLACK STARoPINWHEEL STAR",
     "aSIX POINTED BLACK STARaEIGHT POINTED RECTILINEAR BLACK STAR",
     "aHEAVY EIGHT POINTED RECTILINEAR BLACK STARaTWELVE POINTED BLACK STAR",
     "aSIXTEEN POINTED ASTERISKaTEARDROP-SPOKED ASTERISK",
     "aOPEN CENTRE TEARDROP-SPOKED ASTERISKaHEAVY TEARDROP-SPOKED ASTERISK",
     "aSIX PETALLED BLACK AND WHITE FLORETTEaBLACK FLORETTEaWHITE FLORETTE",
     "aEIGHT PETALLED OUTLINED BLACK FLORETTE",
     "aCIRCLED OPEN CENTRE EIGHT POINTED STAR",
     "aHEAVY TEARDROP-SPOKED PINWHEEL ASTERISKaSNOWFLAKE",
     "aTIGHT TRIFOLIATE SNOWFLAKEaHEAVY CHEVRON SNOWFLAKEaSPARKLEaHEAVY SPARKLE",
     "aBALLOON-SPOKED ASTERISKaEIGHT TEARDROP-SPOKED PROPELLER ASTERISK",
     "aHEAVY EIGHT TEARDROP-SPOKED PROPELLER ASTERISKaCROSS MARK",
     "aSHADOWED WHITE CIRCLEaNEGATIVE SQUARED CROSS MARK",
     "aLOWER RIGHT DROP-SHADOWED WHITE SQUARE",
     "aUPPER RIGHT DROP-SHADOWED WHITE SQUAREaLOWER RIGHT SHADOWED WHITE SQUARE",
     "aUPPER RIGHT SHADOWED WHITE SQUAREaBLACK QUESTION MARK ORNAMENT",
     "aWHITE QUESTION MARK ORNAMENTgEXCLAMATION MARK ORNAMENT",
     "aBLACK DIAMOND MINUS WHITE XaHEAVY EXCLAMATION MARK SYMBOL",
     "aLIGHT VERTICAL BARaMEDIUM VERTICAL BARaHEAVY VERTICAL BAR",
     "gSINGLE TURNED COMMA QUOTATION MARK ORNAMENTnCOMMA QUOTATION MARK ORNAMENT",
     "gDOUBLE TURNED COMMA QUOTATION MARK ORNAMENTnCOMMA QUOTATION MARK ORNAMENT",
     "gLOW SINGLE COMMA QUOTATION MARK ORNAMENT",
     "kDOUBLE COMMA QUOTATION MARK ORNAMENTaCURVED STEM PARAGRAPH SIGN ORNAMENT",
     "aHEAVY EXCLAMATION MARK ORNAMENTgHEART EXCLAMATION MARK ORNAMENTgBLACK HEART",
     "aROTATED HEAVY BLACK HEART BULLETaFLORAL HEARTaROTATED FLORAL HEART BULLET",
     "aMEDIUM LEFT PARENTHESIS ORNAMENThRIGHT PARENTHESIS ORNAMENT",
     "hFLATTENED LEFT PARENTHESIS ORNAMENTrRIGHT PARENTHESIS ORNAMENT",
     "hLEFT-POINTING ANGLE BRACKET ORNAMENThRIGHT-POINTING ANGLE BRACKET ORNAMENT",
     "aHEAVY LEFT-POINTING ANGLE QUOTATION MARK ORNAMENT",
     "gRIGHT-POINTING ANGLE QUOTATION MARK ORNAMENT",
     "gLEFT-POINTING ANGLE BRACKET ORNAMENTgRIGHT-POINTING ANGLE BRACKET ORNAMENT",
     "aLIGHT LEFT TORTOISE SHELL BRACKET ORNAMENT",
     "gRIGHT TORTOISE SHELL BRACKET ORNAMENTaMEDIUM LEFT CURLY BRACKET ORNAMENT",
     "hRIGHT CURLY BRACKET ORNAMENTaDINGBAT NEGATIVE CIRCLED DIGIT ONEzDIGIT TWO",
     "zDIGIT THREEzDIGIT FOURzDIGIT FIVEzDIGIT SIXzDIGIT SEVENzDIGIT EIGHT",
     "zDIGIT NINEzNUMBER TENiCIRCLED SANS-SERIF DIGIT ONEzF DIGIT TWO",
     "zF DIGIT THREEzF DIGIT FOURzF DIGIT FIVEzF DIGIT SIXzF DIGIT SEVEN",
     "zF DIGIT EIGHTzF DIGIT NINEzF NUMBER TEN",
     "iNEGATIVE CIRCLED SANS-SERIF DIGIT ONEzSANS-SERIF DIGIT TWO",
     "zSANS-SERIF DIGIT THREEzSANS-SERIF DIGIT FOURzSANS-SERIF DIGIT FIVE",
     "zSANS-SERIF DIGIT SIXzSANS-SERIF DIGIT SEVENzSANS-SERIF DIGIT EIGHT",
     "zSANS-SERIF DIGIT NINEzSANS-SERIF NUMBER TEN",
     "aHEAVY WIDE-HEADED RIGHTWARDS ARROWgPLUS SIGNgMINUS SIGNgDIVISION SIGN",
     "gSOUTH EAST ARROWgRIGHTWARDS ARROWgNORTH EAST ARROW",
     "aDRAFTING POINT RIGHTWARDS ARROWaHEAVY ROUND-TIPPED RIGHTWARDS ARROW",
     "aTRIANGLE-HEADED RIGHTWARDS ARROWaHEAVY TRIANGLE-HEADED RIGHTWARDS ARROW",
     "aDASHED TRIANGLE-HEADED RIGHTWARDS ARROW",
     "aHEAVY DASHED TRIANGLE-HEADED RIGHTWARDS ARROWaBLACK RIGHTWARDS ARROW",
     "aTHREE-D TOP-LIGHTED RIGHTWARDS ARROWHEAD",
     "iBOTTOM-LIGHTED RIGHTWARDS ARROWHEADaBLACK RIGHTWARDS ARROWHEAD",
     "aHEAVY BLACK CURVED DOWNWARDS AND RIGHTWARDS ARROW",
     "tUPWARDS AND RIGHTWARDS ARROWaSQUAT BLACK RIGHTWARDS ARROW",
     "aHEAVY CONCAVE-POINTED BLACK RIGHTWARDS ARROW",
     "aRIGHT-SHADED WHITE RIGHTWARDS ARROWaLEFT-SHADED WHITE RIGHTWARDS ARROW",
     "aBACK-TILTED SHADOWED WHITE RIGHTWARDS ARROW",
     "aFRONT-TILTED SHADOWED WHITE RIGHTWARDS ARROW",
     "aHEAVY LOWER RIGHT-SHADOWED WHITE RIGHTWARDS ARROW",
     "gUPPER RIGHT-SHADOWED WHITE RIGHTWARDS ARROW",
     "aNOTCHED LOWER RIGHT-SHADOWED WHITE RIGHTWARDS ARROWaCURLY LOOP",
     "aNOTCHED UPPER RIGHT-SHADOWED WHITE RIGHTWARDS ARROW",
     "aCIRCLED HEAVY WHITE RIGHTWARDS ARROWaWHITE-FEATHERED RIGHTWARDS ARROW",
     "aBLACK-FEATHERED SOUTH EAST ARROWqRIGHTWARDS ARROWqNORTH EAST ARROW",
     "aHEAVY BLACK-FEATHERED SOUTH EAST ARROWwRIGHTWARDS ARROWwNORTH EAST ARROW",
     "aTEARDROP-BARBED RIGHTWARDS ARROWaHEAVY TEARDROP-SHANKED RIGHTWARDS ARROW",
     "aWEDGE-TAILED RIGHTWARDS ARROWaHEAVY WEDGE-TAILED RIGHTWARDS ARROW",
     "aOPEN-OUTLINED RIGHTWARDS ARROWaDOUBLE CURLY LOOPaTHREE DIMENSIONAL ANGLE",
     "aWHITE TRIANGLE CONTAINING SMALL WHITE TRIANGLEaPERPENDICULARaOPEN SUBSET",
     "hPERSETaLEFT S-SHAPED BAG DELIMITERaRIGHT S-SHAPED BAG DELIMITER",
     "aOR WITH DOT INSIDEaREVERSE SOLIDUS PRECEDING SUBSET",
     "aSUPERSET PRECEDING SOLIDUSaVERTICAL BAR WITH HORIZONTAL STROKE",
     "aMATHEMATICAL RISING DIAGONALaLONG DIVISIONaMATHEMATICAL FALLING DIAGONAL",
     "aSQUARED LOGICAL ANDqORaWHITE DIAMOND WITH CENTRED DOTaAND WITH DOT",
     "aELEMENT OF OPENING UPWARDSaLOWER RIGHT CORNER WITH DOT",
     "aUPPER LEFT CORNER WITH DOTaLEFT OUTER JOINaRIGHT OUTER JOINaFULL OUTER JOIN",
     "aLARGE UP TACKgDOWN TACKbEFT AND RIGHT DOUBLE TURNSTILEpTACKfMULTIMAP",
     "bONG RIGHT TACKfLEFT TACKaUP TACK WITH CIRCLE ABOVE",
     "aLOZENGE DIVIDED BY HORIZONTAL RULEaWHITE CONCAVE-SIDED DIAMOND",
     "zND WITH LEFTWARDS TICKzND WITH RIGHTWARDS TICKgSQUARE WITH LEFTWARDS TICK",
     "sRIGHTWARDS TICKaMATHEMATICAL LEFT WHITE SQUARE BRACKET",
     "nRIGHT WHITE SQUARE BRACKETnLEFT ANGLE BRACKETnRIGHT ANGLE BRACKET",
     "nLEFT DOUBLE ANGLE BRACKETnRIGHT DOUBLE ANGLE BRACKET",
     "nLEFT WHITE TORTOISE SHELL BRACKETnRIGHT WHITE TORTOISE SHELL BRACKET",
     "nLEFT FLATTENED PARENTHESISnRIGHT FLATTENED PARENTHESIS",
     "aUPWARDS QUADRUPLE ARROWaDOWNWARDS QUADRUPLE ARROW",
     "aANTICLOCKWISE GAPPED CIRCLE ARROWaCLOCKWISE GAPPED CIRCLE ARROW",
     "aRIGHT ARROW WITH CIRCLED PLUSaLONG LEFTWARDS ARROWfRIGHTWARDS ARROW",
     "fLEFT RIGHT ARROWjWARDS DOUBLE ARROWfRIGHTWARDS DOUBLE ARROW",
     "fLEFT RIGHT DOUBLE ARROWjWARDS ARROW FROM BARfRIGHTWARDS ARROW FROM BAR",
     "fLEFTWARDS DOUBLE ARROW FROM BARfRIGHTWARDS DOUBLE ARROW FROM BAR",
     "qSQUIGGLE ARROWaBRAILLE PATTERN BLANKqDOTS-1v2v12v3v13v23v123v4v14v24v124v34",
     "v134v234v1234v5v15v25v125v35v135v235v1235v45v145v245v1245v345v1345v2345",
     "v12345v6v16v26v126v36v136v236v1236v46v146v246v1246v346v1346v2346v12346v56",
     "v156v256v1256v356v1356v2356v12356v456v1456v2456v12456v3456v13456v23456",
     "v123456v7v17v27v127v37v137v237v1237v47v147v247v1247v347v1347v2347v12347v57",
     "v157v257v1257v357v1357v2357v12357v457v1457v2457v12457v3457v13457v23457",
     "v123457v67v167v267v1267v367v1367v2367v12367v467v1467v2467v12467v3467v13467",
     "v23467v123467v567v1567v2567v12567v3567v13567v23567v123567v4567v14567v24567",
     "v124567v34567v134567v234567v1234567v8v18v28v128v38v138v238v1238v48v148v248",
     "v1248v348v1348v2348v12348v58v158v258v1258v358v1358v2358v12358v458v1458v2458",
     "v12458v3458v13458v23458v123458v68v168v268v1268v368v1368v2368v12368v468v1468",
     "v2468v12468v3468v13468v23468v123468v568v1568v2568v12568v3568v13568v23568",
     "v123568v4568v14568v24568v124568v34568v134568v234568v1234568v78v178v278v1278",
     "v378v1378v2378v12378v478v1478v2478v12478v3478v13478v23478v123478v578v1578",
     "v2578v12578v3578v13578v23578v123578v4578v14578v24578v124578v34578v134578",
     "v234578v1234578v678v1678v2678v12678v3678v13678v23678v123678v4678v14678v24678",
     "v124678v34678v134678v234678v1234678v5678v15678v25678v125678v35678v135678",
     "v235678v1235678v45678v145678v245678v1245678v345678v1345678v2345678v12345678",
     "aRIGHTWARDS TWO-HEADED ARROW WITH VERTICAL STROKE",
     "zOW WITH DOUBLE VERTICAL STROKEaLEFTWARDS DOUBLE ARROW WITH VERTICAL STROKE",
     "aRIGHTWARDS DOUBLE ARROW WITH VERTICAL STROKE",
     "aLEFT RIGHT DOUBLE ARROW WITH VERTICAL STROKE",
     "aRIGHTWARDS TWO-HEADED ARROW FROM BARaLEFTWARDS DOUBLE ARROW FROM BAR",
     "aRIGHTWARDS DOUBLE ARROW FROM BARaDOWNWARDS ARROW WITH HORIZONTAL STROKE",
     "aUPWARDS ARROW WITH HORIZONTAL STROKEiTRIPLE ARROWaDOWNWARDS TRIPLE ARROW",
     "aLEFTWARDS DOUBLE DASH ARROWaRIGHTWARDS DOUBLE DASH ARROW",
     "aLEFTWARDS TRIPLE DASH ARROWaRIGHTWARDS TRIPLE DASH ARROW",
     "mWO-HEADED TRIPLE DASH ARROWlARROW WITH DOTTED STEMaUPWARDS ARROW TO BAR",
     "aDOWNWARDS ARROW TO BARaRIGHTWARDS ARROW WITH TAIL WITH VERTICAL STROKE",
     "zL WITH DOUBLE VERTICAL STROKElTWO-HEADED ARROW WITH TAIL",
     "zOW WITH TAIL WITH VERTICAL STROKEzOW WITH TAIL WITH DOUBLE VERTICAL STROKE",
     "aLEFTWARDS ARROW-TAILaRIGHTWARDS ARROW-TAILaLEFTWARDS DOUBLE ARROW-TAIL",
     "aRIGHTWARDS DOUBLE ARROW-TAILaLEFTWARDS ARROW TO BLACK DIAMOND",
     "aRIGHTWARDS ARROW TO BLACK DIAMONDaLEFTWARDS ARROW FROM BAR TO BLACK DIAMOND",
     "aRIGHTWARDS ARROW FROM BAR TO BLACK DIAMONDaNORTH WEST AND SOUTH EAST ARROW",
     "gEAST AND SOUTH WEST ARROWgWEST ARROW WITH HOOKgEAST ARROW WITH HOOK",
     "aSOUTH EAST ARROW WITH HOOKgWEST ARROW WITH HOOK",
     "aNORTH WEST ARROW AND NORTH EAST ARROWgEAST ARROW AND SOUTH EAST ARROW",
     "aSOUTH EAST ARROW AND SOUTH WEST ARROWgWEST ARROW AND NORTH WEST ARROW",
     "aRISING DIAGONAL CROSSING FALLING DIAGONAL",
     "aFALLING DIAGONAL CROSSING RISING DIAGONAL",
     "aSOUTH EAST ARROW CROSSING NORTH EAST ARROW",
     "aNORTH EAST ARROW CROSSING SOUTH EAST ARROW",
     "aFALLING DIAGONAL CROSSING NORTH EAST ARROW",
     "aRISING DIAGONAL CROSSING SOUTH EAST ARROW",
     "aNORTH EAST ARROW CROSSING NORTH WEST ARROW",
     "gWEST ARROW CROSSING NORTH EAST ARROWaWAVE ARROW POINTING DIRECTLY RIGHT",
     "aARROW POINTING RIGHTWARDS THEN CURVING UPWARDSz THEN CURVING DOWNWARDS",
     "pDOWNWARDS THEN CURVING LEFTWARDSzTHEN CURVING RIGHTWARDS",
     "aRIGHT-SIDE ARC CLOCKWISE ARROWaLEFT-SIDE ARC ANTICLOCKWISE ARROW",
     "aTOP ARC ANTICLOCKWISE ARROWaBOTTOM ARC ANTICLOCKWISE ARROW",
     "aTOP ARC CLOCKWISE ARROW WITH MINUSiANTICLOCKWISE ARROW WITH PLUS",
     "aLOWER RIGHT SEMICIRCULAR CLOCKWISE ARROW",
     "gLEFT SEMICIRCULAR ANTICLOCKWISE ARROWaANTICLOCKWISE CLOSED CIRCLE ARROW",
     "aCLOCKWISE CLOSED CIRCLE ARROWaRIGHTWARDS ARROW ABOVE SHORT LEFTWARDS ARROW",
     "aLEFTWARDS ARROW ABOVE SHORT RIGHTWARDS ARROW",
     "aSHORT RIGHTWARDS ARROW ABOVE LEFTWARDS ARROW",
     "aRIGHTWARDS ARROW WITH PLUS BELOWaLEFTWARDS ARROW WITH PLUS BELOW",
     "aRIGHTWARDS ARROW THROUGH XaLEFT RIGHT ARROW THROUGH SMALL CIRCLE",
     "aUPWARDS TWO-HEADED ARROW FROM SMALL CIRCLE",
     "aLEFT BARB UP RIGHT BARB DOWN HARPOONkDOWN RIGHT BARB UP HARPOON",
     "aUP BARB RIGHT DOWN BARB LEFT HARPOONiLEFT DOWN BARB RIGHT HARPOON",
     "aLEFT BARB UP RIGHT BARB UP HARPOONaUP BARB RIGHT DOWN BARB RIGHT HARPOON",
     "aLEFT BARB DOWN RIGHT BARB DOWN HARPOONaUP BARB LEFT DOWN BARB LEFT HARPOON",
     "aLEFTWARDS HARPOON WITH BARB UP TO BAR",
     "aRIGHTWARDS HARPOON WITH BARB UP TO BAR",
     "aUPWARDS HARPOON WITH BARB RIGHT TO BAR",
     "aDOWNWARDS HARPOON WITH BARB RIGHT TO BAR",
     "aLEFTWARDS HARPOON WITH BARB DOWN TO BAR",
     "aRIGHTWARDS HARPOON WITH BARB DOWN TO BAR",
     "aUPWARDS HARPOON WITH BARB LEFT TO BAR",
     "aDOWNWARDS HARPOON WITH BARB LEFT TO BAR",
     "aLEFTWARDS HARPOON WITH BARB UP FROM BAR",
     "aRIGHTWARDS HARPOON WITH BARB UP FROM BAR",
     "aUPWARDS HARPOON WITH BARB RIGHT FROM BAR",
     "aDOWNWARDS HARPOON WITH BARB RIGHT FROM BAR",
     "aLEFTWARDS HARPOON WITH BARB DOWN FROM BAR",
     "aRIGHTWARDS HARPOON WITH BARB DOWN FROM BAR",
     "aUPWARDS HARPOON WITH BARB LEFT FROM BAR",
     "aDOWNWARDS HARPOON WITH BARB LEFT FROM BAR",
     "aLEFTWARDS HARPOON WITH BARB UP ABOVE LEFTWARDS HARPOON WITH BARB DOWN",
     "aUPWARDS HARPOON WITH BARB LEFT BESIDE UPWARDS HARPOON WITH BARB RIGHT",
     "aRIGHTWARDS HARPOON WITH BARB UP ABOVE RIGHTWARDS HARPOON WITH BARB DOWN",
     "aDOWNWARDS HARPOON WITH BARB LEFT BESIDE DOWNWARDS HARPOON WITH BARB RIGHT",
     "aLEFTWARDS HARPOON WITH BARB UP ABOVE RIGHTWARDS HARPOON WITH BARB UP",
     "zRB DOWN ABOVE RIGHTWARDS HARPOON WITH BARB DOWN",
     "aRIGHTWARDS HARPOON WITH BARB UP ABOVE LEFTWARDS HARPOON WITH BARB UP",
     "zARB DOWN ABOVE LEFTWARDS HARPOON WITH BARB DOWN",
     "aLEFTWARDS HARPOON WITH BARB UP ABOVE LONG DASHzRB DOWN BELOW LONG DASH",
     "aRIGHTWARDS HARPOON WITH BARB UP ABOVE LONG DASHzARB DOWN BELOW LONG DASH",
     "aUPWARDS HARPOON WITH BARB LEFT BESIDE DOWNWARDS HARPOON WITH BARB RIGHT",
     "aDOWNWARDS HARPOON WITH BARB LEFT BESIDE UPWARDS HARPOON WITH BARB RIGHT",
     "aRIGHT DOUBLE ARROW WITH ROUNDED HEADaEQUALS SIGN ABOVE RIGHTWARDS ARROW",
     "aTILDE OPERATOR ABOVE RIGHTWARDS ARROWaLEFTWARDS ARROW ABOVE TILDE OPERATOR",
     "aRIGHTWARDS ARROW ABOVE TILDE OPERATORxALMOST EQUAL TO",
     "aLESS-THAN ABOVE LEFTWARDS ARROWcFTWARDS ARROW THROUGH LESS-THAN",
     "aGREATER-THAN ABOVE RIGHTWARDS ARROWaSUBSET ABOVE RIGHTWARDS ARROW",
     "aLEFTWARDS ARROW THROUGH SUBSETaSUPERSET ABOVE LEFTWARDS ARROW",
     "aLEFT FISH TAILaRIGHT FISH TAILaUP FISH TAILaDOWN FISH TAIL",
     "aTRIPLE VERTICAL BAR DELIMITERaZ NOTATION SPOTlTYPE COLON",
     "aLEFT WHITE CURLY BRACKETaRIGHT WHITE CURLY BRACKETaLEFT WHITE PARENTHESIS",
     "aRIGHT WHITE PARENTHESISaZ NOTATION LEFT IMAGE BRACKETlRIGHT IMAGE BRACKET",
     "lLEFT BINDING BRACKETlRIGHT BINDING BRACKET",
     "aLEFT SQUARE BRACKET WITH UNDERBARaRIGHT SQUARE BRACKET WITH UNDERBAR",
     "aLEFT SQUARE BRACKET WITH TICK IN TOP CORNER",
     "aRIGHT SQUARE BRACKET WITH TICK IN BOTTOM CORNER",
     "aLEFT SQUARE BRACKET WITH TICK IN BOTTOM CORNER",
     "aRIGHT SQUARE BRACKET WITH TICK IN TOP CORNERaLEFT ANGLE BRACKET WITH DOT",
     "aRIGHT ANGLE BRACKET WITH DOTaLEFT ARC LESS-THAN BRACKET",
     "aRIGHT ARC GREATER-THAN BRACKETaDOUBLE LEFT ARC GREATER-THAN BRACKET",
     "hRIGHT ARC LESS-THAN BRACKETaLEFT BLACK TORTOISE SHELL BRACKET",
     "aRIGHT BLACK TORTOISE SHELL BRACKETaDOTTED FENCEaVERTICAL ZIGZAG LINE",
     "aMEASURED ANGLE OPENING LEFTaRIGHT ANGLE VARIANT WITH SQUARE",
     "aMEASURED RIGHT ANGLE WITH DOTaANGLE WITH S INSIDEbCUTE ANGLE",
     "aSPHERICAL ANGLE OPENING LEFTyUPaTURNED ANGLEaREVERSED ANGLE",
     "aANGLE WITH UNDERBARaREVERSED ANGLE WITH UNDERBARaOBLIQUE ANGLE OPENING UP",
     "wDOWNaMEASURED ANGLE WITH OPEN ARM ENDING IN ARROW POINTING UP AND RIGHT",
     "zARM ENDING IN ARROW POINTING UP AND LEFT",
     "zARM ENDING IN ARROW POINTING DOWN AND RIGHT",
     "zARM ENDING IN ARROW POINTING DOWN AND LEFT",
     "zARM ENDING IN ARROW POINTING RIGHT AND UP",
     "zARM ENDING IN ARROW POINTING LEFT AND UP",
     "zARM ENDING IN ARROW POINTING RIGHT AND DOWN",
     "zARM ENDING IN ARROW POINTING LEFT AND DOWNaREVERSED EMPTY SET",
     "aEMPTY SET WITH OVERBARpSMALL CIRCLE ABOVEpRIGHT ARROW ABOVE",
     "pLEFT ARROW ABOVEaCIRCLE WITH HORIZONTAL BARgD VERTICAL BARiPARALLEL",
     "iREVERSE SOLIDUSiPERPENDICULAR",
     "g DIVIDED BY HORIZONTAL BAR AND TOP HALF DIVIDED BY VERTICAL BAR",
     "hWITH SUPERIMPOSED XgD ANTICLOCKWISE-ROTATED DIVISION SIGN",
     "aUP ARROW THROUGH CIRCLEaCIRCLED WHITE BULLETiBULLETiLESS-THANiGREATER-THAN",
     "g WITH SMALL CIRCLE TO THE RIGHTmTWO HORIZONTAL STROKES TO THE RIGHT",
     "aSQUARED RISING DIAGONAL SLASHiFALLING DIAGONAL SLASHiASTERISKiSMALL CIRCLE",
     "jQUAREaTWO JOINED SQUARESbRIANGLE WITH DOT ABOVEoUNDERBARaS IN TRIANGLE",
     "aTRIANGLE WITH SERIFS AT BOTTOMaRIGHT TRIANGLE ABOVE LEFT TRIANGLE",
     "aLEFT TRIANGLE BESIDE VERTICAL BARaVERTICAL BAR BESIDE RIGHT TRIANGLE",
     "aBOWTIE WITH LEFT HALF BLACKmRIGHT HALF BLACKbLACK BOWTIE",
     "aTIMES WITH LEFT HALF BLACKlRIGHT HALF BLACKaWHITE HOURGLASSaBLACK HOURGLASS",
     "aLEFT WIGGLY FENCEaRIGHT WIGGLY FENCEaLEFT DOUBLE WIGGLY FENCE",
     "aRIGHT DOUBLE WIGGLY FENCEaINCOMPLETE INFINITYaTIE OVER INFINITY",
     "aINFINITY NEGATED WITH VERTICAL BARaDOUBLE-ENDED MULTIMAP",
     "aSQUARE WITH CONTOURED OUTLINEaINCREASES ASaSHUFFLE PRODUCT",
     "aEQUALS SIGN AND SLANTED PARALLELzARALLEL WITH TILDE ABOVE",
     "aIDENTICAL TO AND SLANTED PARALLELaGLEICH STARKaTHERMODYNAMIC",
     "aDOWN-POINTING TRIANGLE WITH LEFT HALF BLACKzTH RIGHT HALF BLACK",
     "aBLACK DIAMOND WITH DOWN ARROWgLOZENGEaWHITE CIRCLE WITH DOWN ARROW",
     "aBLACK CIRCLE WITH DOWN ARROWaERROR-BARRED WHITE SQUAREnBLACK SQUARE",
     "nWHITE DIAMONDnBLACK DIAMONDnWHITE CIRCLEnBLACK CIRCLEaRULE-DELAYED",
     "bEVERSE SOLIDUS OPERATORaSOLIDUS WITH OVERBAR",
     "aREVERSE SOLIDUS WITH HORIZONTAL STROKEaBIG SOLIDUSeREVERSE SOLIDUS",
     "aDOUBLE PLUSaTRIPLE PLUSaLEFT-POINTING CURVED ANGLE BRACKET",
     "aRIGHT-POINTING CURVED ANGLE BRACKETaTINYaMINYaN-ARY CIRCLED DOT OPERATOR",
     "oPLUS OPERATORoTIMES OPERATORgUNION OPERATOR WITH DOTz PLUS",
     "gSQUARE INTERSECTION OPERATORnUNION OPERATORaTWO LOGICAL AND OPERATOR",
     "mOR OPERATORaN-ARY TIMES OPERATORaMODULO TWO SUMaSUMMATION WITH INTEGRAL",
     "aQUADRUPLE INTEGRAL OPERATORaFINITE PART INTEGRAL",
     "aINTEGRAL WITH DOUBLE STROKEjAVERAGE WITH SLASHaCIRCULATION FUNCTION",
     "aANTICLOCKWISE INTEGRATION",
     "aLINE INTEGRATION WITH RECTANGULAR PATH AROUND POLE",
     "wSEMICIRCULAR PATH AROUND POLErNOT INCLUDING THE POLE",
     "aINTEGRAL AROUND A POINT OPERATORaQUATERNION INTEGRAL OPERATOR",
     "aINTEGRAL WITH LEFTWARDS ARROW WITH HOOKoTIMES SIGNoINTERSECTIONoUNION",
     "oOVERBARoUNDERBARaJOINaLARGE LEFT TRIANGLE OPERATOR",
     "aZ NOTATION SCHEMA COMPOSITIONsPIPINGtROJECTION",
     "aPLUS SIGN WITH SMALL CIRCLE ABOVEpCIRCUMFLEX ACCENT ABOVEpTILDE ABOVE",
     "pDOT BELOWpTILDE BELOWpSUBSCRIPT TWOpBLACK TRIANGLE",
     "aMINUS SIGN WITH COMMA ABOVEqDOT BELOWqFALLING DOTSqRISING DOTS",
     "aPLUS SIGN IN LEFT HALF CIRCLEnRIGHT HALF CIRCLEaVECTOR OR CROSS PRODUCT",
     "aMULTIPLICATION SIGN WITH DOT ABOVEzUNDERBAR",
     "aSEMIDIRECT PRODUCT WITH BOTTOM CLOSEDbMASH PRODUCT",
     "aMULTIPLICATION SIGN IN LEFT HALF CIRCLExRIGHT HALF CIRCLE",
     "aCIRCLED MULTIPLICATION SIGN WITH CIRCUMFLEX ACCENT",
     "aMULTIPLICATION SIGN IN DOUBLE CIRCLEaCIRCLED DIVISION SIGN",
     "aPLUS SIGN IN TRIANGLEaMINUS SIGN IN TRIANGLEbULTIPLICATION SIGN IN TRIANGLE",
     "aINTERIOR PRODUCTaRIGHTHAND INTERIOR PRODUCT",
     "aZ NOTATION RELATIONAL COMPOSITIONaAMALGAMATION OR COPRODUCT",
     "aINTERSECTION WITH DOTaUNION WITH MINUS SIGNlOVERBAR",
     "aINTERSECTION WITH OVERBARsLOGICAL ANDaUNION WITH LOGICAL OR",
     "gABOVE INTERSECTIONaINTERSECTION ABOVE UNION",
     "aUNION ABOVE BAR ABOVE INTERSECTIONaINTERSECTION ABOVE BAR ABOVE UNION",
     "aUNION BESIDE AND JOINED WITH UNION",
     "aINTERSECTION BESIDE AND JOINED WITH INTERSECTIONaCLOSED UNION WITH SERIFS",
     "hINTERSECTION WITH SERIFSaDOUBLE SQUARE INTERSECTIONoUNION",
     "aCLOSED UNION WITH SERIFS AND SMASH PRODUCTaLOGICAL AND WITH DOT ABOVE",
     "iOR WITH DOT ABOVEaDOUBLE LOGICAL ANDpORaTWO INTERSECTING LOGICAL ANDzOR",
     "aSLOPING LARGE ORoANDaLOGICAL OR OVERLAPPING LOGICAL AND",
     "iAND WITH MIDDLE STEMiOR WITH MIDDLE STEMiAND WITH HORIZONTAL DASH",
     "iOR WITH HORIZONTAL DASHiAND WITH DOUBLE OVERBARrUNDERBARrDOUBLE UNDERBAR",
     "aSMALL VEE WITH UNDERBARaLOGICAL OR WITH DOUBLE OVERBARxUNDERBAR",
     "aZ NOTATION DOMAIN ANTIRESTRICTIONlRANGE ANTIRESTRICTION",
     "aEQUALS SIGN WITH DOT BELOWaIDENTICAL WITH DOT ABOVE",
     "aTRIPLE HORIZONTAL BAR WITH DOUBLE VERTICAL STROKEzH TRIPLE VERTICAL STROKE",
     "bILDE OPERATOR WITH DOT ABOVEuRISING DOTSaSIMILAR MINUS SIMILAR",
     "aCONGRUENT WITH DOT ABOVEaEQUALS WITH ASTERISK",
     "aALMOST EQUAL TO WITH CIRCUMFLEX ACCENTbPPROXIMATELY EQUAL OR EQUAL TO",
     "aEQUALS SIGN ABOVE PLUS SIGNaPLUS SIGN ABOVE EQUALS SIGN",
     "aEQUALS SIGN ABOVE TILDE OPERATORaDOUBLE COLON EQUAL",
     "aTWO CONSECUTIVE EQUALS SIGNSbHREE CONSECUTIVE EQUALS SIGNS",
     "aEQUALS SIGN WITH TWO DOTS ABOVE AND TWO DOTS BELOW",
     "dIVALENT WITH FOUR DOTS ABOVEaLESS-THAN WITH CIRCLE INSIDE",
     "aGREATER-THAN WITH CIRCLE INSIDEaLESS-THAN WITH QUESTION MARK ABOVE",
     "aGREATER-THAN WITH QUESTION MARK ABOVEaLESS-THAN OR SLANTED EQUAL TO",
     "aGREATER-THAN OR SLANTED EQUAL TO",
     "aLESS-THAN OR SLANTED EQUAL TO WITH DOT INSIDE",
     "aGREATER-THAN OR SLANTED EQUAL TO WITH DOT INSIDE",
     "aLESS-THAN OR SLANTED EQUAL TO WITH DOT ABOVE",
     "aGREATER-THAN OR SLANTED EQUAL TO WITH DOT ABOVE",
     "aLESS-THAN OR SLANTED EQUAL TO WITH DOT ABOVE RIGHT",
     "aGREATER-THAN OR SLANTED EQUAL TO WITH DOT ABOVE LEFT",
     "aLESS-THAN OR APPROXIMATEaGREATER-THAN OR APPROXIMATE",
     "aLESS-THAN AND SINGLE-LINE NOT EQUAL TO",
     "aGREATER-THAN AND SINGLE-LINE NOT EQUAL TOaLESS-THAN AND NOT APPROXIMATE",
     "aGREATER-THAN AND NOT APPROXIMATE",
     "aLESS-THAN ABOVE DOUBLE-LINE EQUAL ABOVE GREATER-THAN",
     "aGREATER-THAN ABOVE DOUBLE-LINE EQUAL ABOVE LESS-THAN",
     "aLESS-THAN ABOVE SIMILAR OR EQUALaGREATER-THAN ABOVE SIMILAR OR EQUAL",
     "aLESS-THAN ABOVE SIMILAR ABOVE GREATER-THAN",
     "aGREATER-THAN ABOVE SIMILAR ABOVE LESS-THAN",
     "aLESS-THAN ABOVE GREATER-THAN ABOVE DOUBLE-LINE EQUAL",
     "aGREATER-THAN ABOVE LESS-THAN ABOVE DOUBLE-LINE EQUAL",
     "aLESS-THAN ABOVE SLANTED EQUAL ABOVE GREATER-THAN ABOVE SLANTED EQUAL",
     "aGREATER-THAN ABOVE SLANTED EQUAL ABOVE LESS-THAN ABOVE SLANTED EQUAL",
     "aSLANTED EQUAL TO OR LESS-THANuGREATER-THANuLESS-THAN WITH DOT INSIDE",
     "uGREATER-THAN WITH DOT INSIDEaDOUBLE-LINE EQUAL TO OR LESS-THANyGREATER-THAN",
     "mSLANTED EQUAL TO OR LESS-THANz TO OR GREATER-THANaSIMILAR OR LESS-THAN",
     "lGREATER-THANiABOVE LESS-THAN ABOVE EQUALS SIGN",
     "oGREATER-THAN ABOVE EQUALS SIGNaDOUBLE NESTED LESS-THANoGREATER-THAN",
     "oLESS-THAN WITH UNDERBARaGREATER-THAN OVERLAPPING LESS-THANnBESIDE LESS-THAN",
     "aLESS-THAN CLOSED BY CURVEaGREATER-THAN CLOSED BY CURVE",
     "aLESS-THAN CLOSED BY CURVE ABOVE SLANTED EQUAL",
     "aGREATER-THAN CLOSED BY CURVE ABOVE SLANTED EQUALaSMALLER THANaLARGER THAN",
     "aSMALLER THAN OR EQUAL TOaLARGER THAN OR EQUAL TO",
     "aEQUALS SIGN WITH BUMPY ABOVEaPRECEDES ABOVE SINGLE-LINE EQUALS SIGN",
     "aSUCCEEDS ABOVE SINGLE-LINE EQUALS SIGN",
     "aPRECEDES ABOVE SINGLE-LINE NOT EQUAL TO",
     "aSUCCEEDS ABOVE SINGLE-LINE NOT EQUAL TOaPRECEDES ABOVE EQUALS SIGN",
     "aSUCCEEDS ABOVE EQUALS SIGNaPRECEDES ABOVE NOT EQUAL TO",
     "aSUCCEEDS ABOVE NOT EQUAL TOaPRECEDES ABOVE ALMOST EQUAL TO",
     "aSUCCEEDS ABOVE ALMOST EQUAL TOaPRECEDES ABOVE NOT ALMOST EQUAL TO",
     "aSUCCEEDS ABOVE NOT ALMOST EQUAL TOaDOUBLE PRECEDEShSUCCEEDSaSUBSET WITH DOT",
     "cPERSET WITH DOTcBSET WITH PLUS SIGN BELOWcPERSET WITH PLUS SIGN BELOW",
     "cBSET WITH MULTIPLICATION SIGN BELOWcPERSET WITH MULTIPLICATION SIGN BELOW",
     "cBSET OF OR EQUAL TO WITH DOT ABOVEcPERSET OF OR EQUAL TO WITH DOT ABOVE",
     "cBSET OF ABOVE EQUALS SIGNcPERSET OF ABOVE EQUALS SIGN",
     "cBSET OF ABOVE TILDE OPERATORcPERSET OF ABOVE TILDE OPERATOR",
     "cBSET OF ABOVE ALMOST EQUAL TOcPERSET OF ABOVE ALMOST EQUAL TO",
     "cBSET OF ABOVE NOT EQUAL TOcPERSET OF ABOVE NOT EQUAL TO",
     "bQUARE LEFT OPEN BOX OPERATORhRIGHT OPEN BOX OPERATORaCLOSED SUBSETjPERSET",
     "jBSET OR EQUAL TOjPERSET OR EQUAL TOaSUBSET ABOVE SUPERSET",
     "cPERSET ABOVE SUBSETcBSET ABOVE SUBSETcPERSET ABOVE SUPERSETjBESIDE SUBSET",
     "qAND JOINED BY DASH WITH SUBSETaELEMENT OF OPENING DOWNWARDS",
     "aPITCHFORK WITH TEE TOPaTRANSVERSAL INTERSECTIONaFORKINGaNONFORKING",
     "aSHORT LEFT TACKgDOWN TACKgUP TACKaPERPENDICULAR WITH S",
     "aVERTICAL BAR TRIPLE RIGHT TURNSTILEaDOUBLE VERTICAL BAR LEFT TURNSTILE",
     "aVERTICAL BAR DOUBLE LEFT TURNSTILE",
     "aDOUBLE VERTICAL BAR DOUBLE LEFT TURNSTILE",
     "aLONG DASH FROM LEFT MEMBER OF DOUBLE VERTICALaSHORT DOWN TACK WITH OVERBAR",
     "gUP TACK WITH UNDERBARoABOVE SHORT DOWN TACKaDOUBLE DOWN TACKhUP TACK",
     "hSTROKE NOT SIGNaREVERSED DOUBLE STROKE NOT SIGN",
     "aDOES NOT DIVIDE WITH REVERSED NEGATION SLASH",
     "aVERTICAL LINE WITH CIRCLE ABOVEz BELOWaDOWN TACK WITH CIRCLE BELOW",
     "aPARALLEL WITH HORIZONTAL STROKEoTILDE OPERATOR",
     "aTRIPLE VERTICAL BAR BINARY RELATIONuWITH HORIZONTAL STROKEhCOLON OPERATOR",
     "hNESTED LESS-THANoGREATER-THANaDOUBLE-LINE SLANTED LESS-THAN OR EQUAL TO",
     "uGREATER-THAN OR EQUAL TOaTRIPLE SOLIDUS BINARY RELATION",
     "aLARGE TRIPLE VERTICAL BAR OPERATORaDOUBLE SOLIDUS OPERATOR",
     "aWHITE VERTICAL BARaN-ARY WHITE VERTICAL BARbORTH EAST WHITE ARROW",
     "gWEST WHITE ARROWaSOUTH EAST WHITE ARROWgWEST WHITE ARROW",
     "aLEFT RIGHT WHITE ARROWeWARDS BLACK ARROWaUPWARDS BLACK ARROW",
     "aDOWNWARDS BLACK ARROWaNORTH EAST BLACK ARROWgWEST BLACK ARROW",
     "aSOUTH EAST BLACK ARROWgWEST BLACK ARROWaLEFT RIGHT BLACK ARROW",
     "aUP DOWN BLACK ARROWaRIGHTWARDS ARROW WITH TIP DOWNWARDSz UPWARDS",
     "aLEFTWARDS ARROW WITH TIP DOWNWARDSzUPWARDSaSQUARE WITH TOP HALF BLACK",
     "mBOTTOM HALF BLACKmUPPER RIGHT DIAGONAL HALF BLACK",
     "mLOWER LEFT DIAGONAL HALF BLACKaDIAMOND WITH LEFT HALF BLACK",
     "nRIGHT HALF BLACKnTOP HALF BLACKnBOTTOM HALF BLACKbOTTED SQUARE",
     "aBLACK LARGE SQUAREaWHITE LARGE SQUAREaBLACK VERY SMALL SQUARE",
     "aWHITE VERY SMALL SQUAREaBLACK PENTAGONaWHITE PENTAGONgHEXAGONaBLACK HEXAGON",
     "aHORIZONTAL BLACK HEXAGONaBLACK LARGE CIRCLEgMEDIUM DIAMOND",
     "aWHITE MEDIUM DIAMONDaBLACK MEDIUM LOZENGEaWHITE MEDIUM LOZENGE",
     "aBLACK SMALL DIAMONDmLOZENGEaWHITE SMALL LOZENGEaBLACK HORIZONTAL ELLIPSE",
     "aWHITE HORIZONTAL ELLIPSEaBLACK VERTICAL ELLIPSEaWHITE VERTICAL ELLIPSE",
     "aLEFT ARROW WITH SMALL CIRCLEaTHREE LEFTWARDS ARROWS",
     "aLEFT ARROW WITH CIRCLED PLUSbONG LEFTWARDS SQUIGGLE ARROW",
     "bEFTWARDS TWO-HEADED ARROW WITH VERTICAL STROKE",
     "zW WITH DOUBLE VERTICAL STROKEzW FROM BARvTRIPLE DASH ARROW",
     "kARROW WITH DOTTED STEMvTAIL WITH VERTICAL STROKE",
     "z WITH DOUBLE VERTICAL STROKEkTWO-HEADED ARROW WITH TAIL",
     "zW WITH TAIL WITH VERTICAL STROKEzW WITH TAIL WITH DOUBLE VERTICAL STROKE",
     "kARROW THROUGH XaWAVE ARROW POINTING DIRECTLY LEFT",
     "aEQUALS SIGN ABOVE LEFTWARDS ARROW",
     "aREVERSE TILDE OPERATOR ABOVE LEFTWARDS ARROW",
     "aLEFTWARDS ARROW ABOVE REVERSE ALMOST EQUAL TO",
     "aRIGHTWARDS ARROW THROUGH GREATER-THANzSUPERSETaLEFTWARDS QUADRUPLE ARROW",
     "aRIGHTWARDS QUADRUPLE ARROWbEVERSE TILDE OPERATOR ABOVE RIGHTWARDS ARROW",
     "bIGHTWARDS ARROW ABOVE REVERSE ALMOST EQUAL TO",
     "aTILDE OPERATOR ABOVE LEFTWARDS ARROWaLEFTWARDS ARROW ABOVE ALMOST EQUAL TO",
     "wREVERSE TILDE OPERATORaRIGHTWARDS ARROW ABOVE REVERSE TILDE OPERATOR",
     "aDOWNWARDS TRIANGLE-HEADED ZIGZAG ARROWaSHORT SLANTED NORTH ARROW",
     "gBACKSLANTED SOUTH ARROWaWHITE MEDIUM STARaBLACK SMALL STARaWHITE SMALL STAR",
     "aBLACK RIGHT-POINTING PENTAGONaWHITE RIGHT-POINTING PENTAGON",
     "aHEAVY LARGE CIRCLEgOVAL WITH OVAL INSIDEgCIRCLE WITH CIRCLE INSIDEm",
     "mD SALTIREaSLANTED NORTH ARROW WITH HOOKED HEAD",
     "aBACKSLANTED SOUTH ARROW WITH HOOKED TAIL",
     "aSLANTED NORTH ARROW WITH HORIZONTAL TAIL",
     "aBACKSLANTED SOUTH ARROW WITH HORIZONTAL TAIL",
     "bENT ARROW POINTING DOWNWARDS THEN NORTH EAST",
     "aSHORT BENT ARROW POINTING DOWNWARDS THEN NORTH EAST",
     "aLEFTWARDS TRIANGLE-HEADED ARROWaUPWARDS TRIANGLE-HEADED ARROW",
     "aRIGHTWARDS TRIANGLE-HEADED ARROWaDOWNWARDS TRIANGLE-HEADED ARROW",
     "aLEFT RIGHT TRIANGLE-HEADED ARROWaUP DOWN TRIANGLE-HEADED ARROW",
     "aNORTH WEST TRIANGLE-HEADED ARROWgEAST TRIANGLE-HEADED ARROW",
     "aSOUTH EAST TRIANGLE-HEADED ARROWgWEST TRIANGLE-HEADED ARROW",
     "aLEFTWARDS TRIANGLE-HEADED DASHED ARROWaUPWARDS TRIANGLE-HEADED DASHED ARROW",
     "aRIGHTWARDS TRIANGLE-HEADED DASHED ARROW",
     "aDOWNWARDS TRIANGLE-HEADED DASHED ARROW",
     "aCLOCKWISE TRIANGLE-HEADED OPEN CIRCLE ARROW",
     "aANTICLOCKWISE TRIANGLE-HEADED OPEN CIRCLE ARROW",
     "aLEFTWARDS TRIANGLE-HEADED ARROW TO BARaUPWARDS TRIANGLE-HEADED ARROW TO BAR",
     "aRIGHTWARDS TRIANGLE-HEADED ARROW TO BAR",
     "aDOWNWARDS TRIANGLE-HEADED ARROW TO BAR"]⟩,
   ⟨0x2B76, ["aNORTH WEST TRIANGLE-HEADED ARROW TO BARgEAST TRIANGLE-HEADED ARROW TO BAR",
     "aSOUTH EAST TRIANGLE-HEADED ARROW TO BARgWEST TRIANGLE-HEADED ARROW TO BAR",
     "aLEFTWARDS TRIANGLE-HEADED ARROW WITH DOUBLE HORIZONTAL STROKE",
     "aUPWARDS TRIANGLE-HEADED ARROW WITH DOUBLE HORIZONTAL STROKE",
     "aRIGHTWARDS TRIANGLE-HEADED ARROW WITH DOUBLE HORIZONTAL STROKE",
     "aDOWNWARDS TRIANGLE-HEADED ARROW WITH DOUBLE HORIZONTAL STROKE",
     "aHORIZONTAL TAB KEYaVERTICAL TAB KEY",
     "aLEFTWARDS TRIANGLE-HEADED ARROW OVER RIGHTWARDS TRIANGLE-HEADED ARROW",
     "aUPWARDS TRIANGLE-HEADED ARROW LEFTWARDS OF DOWNWARDS TRIANGLE-HEADED ARROW",
     "aRIGHTWARDS TRIANGLE-HEADED ARROW OVER LEFTWARDS TRIANGLE-HEADED ARROW",
     "aDOWNWARDS TRIANGLE-HEADED ARROW LEFTWARDS OF UPWARDS TRIANGLE-HEADED ARROW",
     "aLEFTWARDS TRIANGLE-HEADED PAIRED ARROWS",
     "aUPWARDS TRIANGLE-HEADED PAIRED ARROWS",
     "aRIGHTWARDS TRIANGLE-HEADED PAIRED ARROWS",
     "aDOWNWARDS TRIANGLE-HEADED PAIRED ARROWSaLEFTWARDS BLACK CIRCLED WHITE ARROW",
     "aUPWARDS BLACK CIRCLED WHITE ARROWaRIGHTWARDS BLACK CIRCLED WHITE ARROW",
     "aDOWNWARDS BLACK CIRCLED WHITE ARROW",
     "aANTICLOCKWISE TRIANGLE-HEADED RIGHT U-SHAPED ARROW",
     "zADED BOTTOM U-SHAPED ARROWzADED LEFT U-SHAPED ARROWzADED TOP U-SHAPED ARROW",
     "aRETURN LEFThRIGHTaNEWLINE LEFTiRIGHT",
     "aFOUR CORNER ARROWS CIRCLING ANTICLOCKWISEaRIGHTWARDS BLACK ARROW"]⟩,
   ⟨0x2B97, ["aSYMBOL FOR TYPE A ELECTRONICS",
     "aTHREE-D TOP-LIGHTED LEFTWARDS EQUILATERAL ARROWHEAD",
     "iRIGHT-LIGHTED UPWARDS EQUILATERAL ARROWHEAD",
     "iTOP-LIGHTED RIGHTWARDS EQUILATERAL ARROWHEAD",
     "iLEFT-LIGHTED DOWNWARDS EQUILATERAL ARROWHEAD",
     "aBLACK LEFTWARDS EQUILATERAL ARROWHEADgUPWARDS EQUILATERAL ARROWHEAD",
     "gRIGHTWARDS EQUILATERAL ARROWHEADgDOWNWARDS EQUILATERAL ARROWHEAD",
     "aDOWNWARDS TRIANGLE-HEADED ARROW WITH LONG TIP LEFTWARDS",
     "z ARROW WITH LONG TIP RIGHTWARDS",
     "aUPWARDS TRIANGLE-HEADED ARROW WITH LONG TIP LEFTWARDS",
     "zRROW WITH LONG TIP RIGHTWARDS",
     "aLEFTWARDS TRIANGLE-HEADED ARROW WITH LONG TIP UPWARDS",
     "aRIGHTWARDS TRIANGLE-HEADED ARROW WITH LONG TIP UPWARDS",
     "aLEFTWARDS TRIANGLE-HEADED ARROW WITH LONG TIP DOWNWARDS",
     "aRIGHTWARDS TRIANGLE-HEADED ARROW WITH LONG TIP DOWNWARDS",
     "aBLACK CURVED DOWNWARDS AND LEFTWARDS ARROWzD RIGHTWARDS ARROW",
     "nUPWARDS AND LEFTWARDS ARROWzRIGHTWARDS ARROWnLEFTWARDS AND UPWARDS ARROW",
     "nRIGHTWARDS AND UPWARDS ARROWnLEFTWARDS AND DOWNWARDS ARROW",
     "nRIGHTWARDS AND DOWNWARDS ARROWaRIBBON ARROW DOWN LEFTsRIGHTnUP LEFTqRIGHT",
     "nLEFT UPnRIGHT UPnLEFT DOWNnRIGHT DOWN",
     "aUPWARDS WHITE ARROW FROM BAR WITH HORIZONTAL BAR",
     "c ARROWHEAD IN A RECTANGLE BOXaOVERLAPPING WHITE SQUARESsAND BLACK SQUARES",
     "mBLACK SQUARESaBALLOT BOX WITH LIGHT XaCIRCLED XiBOLD XaBLACK SQUARE CENTRED",
     "gDIAMOND CENTREDaTURNED BLACK PENTAGONaHORIZONTAL BLACK OCTAGON",
     "aBLACK OCTAGONgMEDIUM UP-POINTING TRIANGLE CENTRED",
     "nDOWN-POINTING TRIANGLE CENTREDnLEFT-POINTING TRIANGLE CENTRED",
     "nRIGHT-POINTING TRIANGLE CENTREDaNEPTUNE FORM TWOaTOP HALF BLACK CIRCLE",
     "aBOTTOM HALF BLACK CIRCLEaLIGHT FOUR POINTED BLACK CUSP",
     "aROTATED LIGHT FOUR POINTED BLACK CUSPaWHITE FOUR POINTED CUSP",
     "aROTATED WHITE FOUR POINTED CUSPaSQUARE POSITION INDICATORaUNCERTAINTY SIGN",
     "aGROUP MARKaPLUTO FORM TWOmHREElFOURmIVEaTRANSPLUTOaPROSERPINAaASTRAEA",
     "aHYGIEAaPHOLUSaNESSUSaWHITE MOON SELENAaBLACK DIAMOND ON CROSS",
     "aTRUE LIGHT MOON ARTAaCUPIDOaHADESaZEUSaKRONOSaAPOLLONbDMETOSaVULCANUS",
     "aPOSEIDONaLEFT HALF BLACK STARaRIGHT HALF BLACK STAR",
     "aSTAR WITH LEFT HALF BLACKkRIGHT HALF BLACK",
     "aLEFTWARDS TWO-HEADED ARROW WITH TRIANGLE ARROWHEADS",
     "aUPWARDS TWO-HEADED ARROW WITH TRIANGLE ARROWHEADS",
     "aRIGHTWARDS TWO-HEADED ARROW WITH TRIANGLE ARROWHEADS",
     "aDOWNWARDS TWO-HEADED ARROW WITH TRIANGLE ARROWHEADSaERIS FORM ONEkTWOaSEDNA",
     "aRUSSIAN ASTROLOGICAL SYMBOL VIGINTILEzOL NOVILEzOL QUINTILEzOL BINOVILE",
     "zOL SENTAGONzOL TREDECILEaEQUALS SIGN WITH INFINITY BELOWaUNITED SYMBOL",
     "aSEPARATED SYMBOLaDOUBLED SYMBOLaPASSED SYMBOLaREVERSED RIGHT ANGLE",
     "aHELLSCHREIBER PAUSE SYMBOLaGLAGOLITIC CAPITAL LETTER AZUz BUKYz VEDE",
     "z GLAGOLIz DOBROz YESTUz ZHIVETEz DZELOz ZEMLJAz IZHEz INITIAL IZHEz I",
     "z DJERVIz KAKOz LJUDIJEz MYSLITEz NASHIz ONUz POKOJIz RITSIz SLOVOz TVRIDO",
     "z UKUz FRITUz HERUz OTUz PEz SHTAz TSIz CHRIVIz SHAz YERUz YERIz YATI",
     "z SPIDERY HAz YUz SMALL YUSz SMALL YUS WITH TAILz YOz IOTATED SMALL YUS",
     "z BIG YUSz IOTATED BIG YUSz FITAz IZHITSAz SHTAPICz TROKUTASTI A",
     "z LATINATE MYSLITEz CAUDATE CHRIVIlSMALL LETTER AZUyBUKYyVEDEyGLAGOLIyDOBRO",
     "yYESTUyZHIVETEyDZELOyZEMLJAyIZHEzNITIAL IZHEzyDJERVIyKAKOyLJUDIJEyMYSLITE",
     "yNASHIyONUyPOKOJIyRITSIySLOVOyTVRIDOyUKUyFRITUyHERUyOTUyPEySHTAyTSIyCHRIVI",
     "ySHAyYERUzERIzATIySPIDERY HAyYUySMALL YUSzMALL YUS WITH TAILyYO",
     "yIOTATED SMALL YUSyBIG YUSyIOTATED BIG YUSyFITAyIZHITSAySHTAPICyTROKUTASTI A",
     "yLATINATE MYSLITEyCAUDATE CHRIVIaLATIN CAPITAL LETTER L WITH DOUBLE BAR",
     "gSMALL LETTER L WITH DOUBLE BARgCAPITAL LETTER L WITH MIDDLE TILDE",
     "vP WITH STROKEvR WITH TAILgSMALL LETTER A WITH STROKEtT WITH DIAGONAL STROKE",
     "gCAPITAL LETTER H WITH DESCENDERgSMALL LETTER H WITH DESCENDER",
     "gCAPITAL LETTER K WITH DESCENDERgSMALL LETTER K WITH DESCENDER",
     "gCAPITAL LETTER Z WITH DESCENDERgSMALL LETTER Z WITH DESCENDER",
     "gCAPITAL LETTER ALPHAvM WITH HOOKvTURNED AzED ALPHA",
     "gSMALL LETTER V WITH RIGHT HOOKgCAPITAL LETTER W WITH HOOK",
     "gSMALL LETTER W WITH HOOKtV WITH CURLgCAPITAL LETTER HALF H",
     "gSMALL LETTER HALF HtTAILLESS PHItE WITH NOTCHtTURNED R WITH TAIL",
     "tO WITH LOW RING INSIDEgLETTER SMALL CAPITAL TURNED E",
     "gSUBSCRIPT SMALL LETTER JaMODIFIER LETTER CAPITAL V",
     "aLATIN CAPITAL LETTER S WITH SWASH TAILvZ WITH SWASH TAIL",
     "aCOPTIC CAPITAL LETTER ALFAhSMALL LETTER ALFAhCAPITAL LETTER VIDA",
     "hSMALL LETTER VIDAhCAPITAL LETTER GAMMAhSMALL LETTER GAMMA",
     "hCAPITAL LETTER DALDAhSMALL LETTER DALDAhCAPITAL LETTER EIEhSMALL LETTER EIE",
     "hCAPITAL LETTER SOUhSMALL LETTER SOUhCAPITAL LETTER ZATAhSMALL LETTER ZATA",
     "hCAPITAL LETTER HATEhSMALL LETTER HATEhCAPITAL LETTER THETHE",
     "hSMALL LETTER THETHEhCAPITAL LETTER IAUDAhSMALL LETTER IAUDA",
     "hCAPITAL LETTER KAPAhSMALL LETTER KAPAhCAPITAL LETTER LAULA",
     "hSMALL LETTER LAULAhCAPITAL LETTER MIhSMALL LETTER MIhCAPITAL LETTER NI",
     "hSMALL LETTER NIhCAPITAL LETTER KSIhSMALL LETTER KSIhCAPITAL LETTER O",
     "hSMALL LETTER OhCAPITAL LETTER PIhSMALL LETTER PIhCAPITAL LETTER RO",
     "hSMALL LETTER ROhCAPITAL LETTER SIMAhSMALL LETTER SIMAhCAPITAL LETTER TAU",
     "hSMALL LETTER TAUhCAPITAL LETTER UAhSMALL LETTER UAhCAPITAL LETTER FI",
     "hSMALL LETTER FIhCAPITAL LETTER KHIhSMALL LETTER KHIhCAPITAL LETTER PSI",
     "hSMALL LETTER PSIhCAPITAL LETTER OOUhSMALL LETTER OOU",
     "hCAPITAL LETTER DIALECT-P ALEFhSMALL LETTER DIALECT-P ALEF",
     "hCAPITAL LETTER OLD COPTIC AINhSMALL LETTER OLD COPTIC AIN",
     "hCAPITAL LETTER CRYPTOGRAMMIC EIEhSMALL LETTER CRYPTOGRAMMIC EIE",
     "hCAPITAL LETTER DIALECT-P KAPAhSMALL LETTER DIALECT-P KAPA",
     "hCAPITAL LETTER DIALECT-P NIhSMALL LETTER DIALECT-P NI",
     "hCAPITAL LETTER CRYPTOGRAMMIC NIhSMALL LETTER CRYPTOGRAMMIC NI",
     "hCAPITAL LETTER OLD COPTIC OOUhSMALL LETTER OLD COPTIC OOU",
     "hCAPITAL LETTER SAMPIhSMALL LETTER SAMPIhCAPITAL LETTER CROSSED SHEI",
     "hSMALL LETTER CROSSED SHEIhCAPITAL LETTER OLD COPTIC SHEI",
     "hSMALL LETTER OLD COPTIC SHEIhCAPITAL LETTER OLD COPTIC ESH",
     "hSMALL LETTER OLD COPTIC ESHhCAPITAL LETTER AKHMIMIC KHEI",
     "hSMALL LETTER AKHMIMIC KHEIhCAPITAL LETTER DIALECT-P HORI",
     "hSMALL LETTER DIALECT-P HORIhCAPITAL LETTER OLD COPTIC HORI",
     "hSMALL LETTER OLD COPTIC HORIhCAPITAL LETTER OLD COPTIC HA",
     "hSMALL LETTER OLD COPTIC HAhCAPITAL LETTER L-SHAPED HA",
     "hSMALL LETTER L-SHAPED HAhCAPITAL LETTER OLD COPTIC HEI",
     "hSMALL LETTER OLD COPTIC HEIhCAPITAL LETTER OLD COPTIC HAT",
     "hSMALL LETTER OLD COPTIC HAThCAPITAL LETTER OLD COPTIC GANGIA",
     "hSMALL LETTER OLD COPTIC GANGIAhCAPITAL LETTER OLD COPTIC DJA",
     "hSMALL LETTER OLD COPTIC DJAhCAPITAL LETTER OLD COPTIC SHIMA",
     "hSMALL LETTER OLD COPTIC SHIMAhCAPITAL LETTER OLD NUBIAN SHIMA",
     "hSMALL LETTER OLD NUBIAN SHIMAhCAPITAL LETTER OLD NUBIAN NGI",
     "hSMALL LETTER OLD NUBIAN NGIhCAPITAL LETTER OLD NUBIAN NYI",
     "hSMALL LETTER OLD NUBIAN NYIhCAPITAL LETTER OLD NUBIAN WAU",
     "hSMALL LETTER OLD NUBIAN WAUiYMBOL KAIoMI ROoPI ROoSTAUROSoTAU ROoKHI RO",
     "oSHIMA SIMAhCAPITAL LETTER CRYPTOGRAMMIC SHEI",
     "hSMALL LETTER CRYPTOGRAMMIC SHEIhCAPITAL LETTER CRYPTOGRAMMIC GANGIA",
     "hSMALL LETTER CRYPTOGRAMMIC GANGIAhCOMBINING NI ABOVErSPIRITUS ASPERz LENIS",
     "iAPITAL LETTER BOHAIRIC KHEIhSMALL LETTER BOHAIRIC KHEI"]⟩,
   ⟨0x2CF9, ["aCOPTIC OLD NUBIAN FULL STOPsDIRECT QUESTION MARKsINDIRECT QUESTION MARK",
     "sVERSE DIVIDERhFRACTION ONE HALFiULL STOPhMORPHOLOGICAL DIVIDER",
     "aGEORGIAN SMALL LETTER ANwBANwGANwDONwENwVINwZENwTANwINwKANwLASwMANwNARwON",
     "wPARwZHARwRAEwSANwTARwUNwPHARwKHARwGHANwQARwSHINwCHINxANwJILwCILxHARwXAN",
     "wJHANwHAExExIEwWEwHARxOE"]⟩,
   ⟨0x2D27, ["aGEORGIAN SMALL LETTER YN"]⟩,
   ⟨0x2D2D, ["aGEORGIAN SMALL LETTER AEN"]⟩,
   ⟨0x2D30, ["aTIFINAGH LETTER YAsBtHsGtHHqBERBER ACADEMY YAJqYAJsDtHtDuHrEYrAFsK",
     "qTUAREG YAKqYAKHHsHqBERBER ACADEMY YAHqTUAREG YAHqYAHHsAsKHqTUAREG YAKHqYAQ",
     "qTUAREG YAQqYIrAZHqAHAGGAR YAZHqTUAREG YAZHqYALsMsNqTUAREG YAGNzNGqYAPrUrAR",
     "tRsGHqTUAREG YAGHqAYER YAGHqYAStStHsTtHsCHsTTsVsWsYsZqTAWELLEMET YAZqYAZZrE",
     "rO"]⟩,
   ⟨0x2D6F, ["aTIFINAGH MODIFIER LETTER LABIALIZATION MARKjSEPARATOR MARK"]⟩,
   ⟨0x2D7F, ["aTIFINAGH CONSONANT JOINERaETHIOPIC SYLLABLE LOAsMOAsROAsSOAtHOAsBOAsTOAsCOA",
     "sNOAtYOAsGLOTTAL OAsZOAsDOAtDOAsJOAsTHOAsCHOAsPHOAtOAsGGWAvIvEEw"]⟩,
   ⟨0x2DA0, ["aETHIOPIC SYLLABLE SSAuUuIuAAuEEvuO"]⟩,
   ⟨0x2DA8, ["aETHIOPIC SYLLABLE CCAuUuIuAAuEEvuO"]⟩,
   ⟨0x2DB0, ["aETHIOPIC SYLLABLE ZZAuUuIuAAuEEvuO"]⟩,
   ⟨0x2DB8, ["aETHIOPIC SYLLABLE CCHAvUvIvAAvEEwvO"]⟩,
   ⟨0x2DC0, ["aETHIOPIC SYLLABLE QYAuUuIuAAuEEvuO"]⟩,
   ⟨0x2DC8, ["aETHIOPIC SYLLABLE KYAuUuIuAAuEEvuO"]⟩,
   ⟨0x2DD0, ["aETHIOPIC SYLLABLE XYAuUuIuAAuEEvuO"]⟩,
   ⟨0x2DD8, ["aETHIOPIC SYLLABLE GYAuUuIuAAuEEvuO"]⟩,
   ⟨0x2DE0, ["aCOMBINING CYRILLIC LETTER BEz VEz GHEz DEz ZHEz ZEz KAz ELz EMz ENz Oz PE",
     "z ERz ESz TEz HAz TSEz CHEz SHAz SHCHAz FITAz ES-TEz Az IEz DJERV",
     "z MONOGRAPH UKz YATz YUz IOTIFIED Az LITTLE YUSz BIG YUSz IOTIFIED BIG YUS",
     "aRIGHT ANGLE SUBSTITUTION MARKERmDOTTED SUBSTITUTION MARKER",
     "aLEFT SUBSTITUTION BRACKETaRIGHT SUBSTITUTION BRACKET",
     "aLEFT DOTTED SUBSTITUTION BRACKETaRIGHT DOTTED SUBSTITUTION BRACKET",
     "bAISED INTERPOLATION MARKERhDOTTED INTERPOLATION MARKER",
     "aDOTTED TRANSPOSITION MARKERaLEFT TRANSPOSITION BRACKET",
     "aRIGHT TRANSPOSITION BRACKETbAISED SQUAREaLEFT RAISED OMISSION BRACKET",
     "aRIGHT RAISED OMISSION BRACKETaEDITORIAL CORONISaPARAGRAPHOS",
     "aFORKED PARAGRAPHOSaREVERSED FORKED PARAGRAPHOSaHYPODIASTOLEaDOTTED OBELOS",
     "cWNWARDS ANCORAaUPWARDS ANCORAaDOTTED RIGHT-POINTING ANGLE",
     "cUBLE OBLIQUE HYPHENaINVERTED INTERROBANGaPALM BRANCHaHYPHEN WITH DIAERESIS",
     "aTILDE WITH RING ABOVEaLEFT LOW PARAPHRASE BRACKET",
     "aRIGHT LOW PARAPHRASE BRACKETaTILDE WITH DOT ABOVEpBELOW",
     "aLEFT VERTICAL BAR WITH QUILLaRIGHT VERTICAL BAR WITH QUILL",
     "aTOP LEFT HALF BRACKETeRIGHT HALF BRACKETaBOTTOM LEFT HALF BRACKET",
     "hRIGHT HALF BRACKETaLEFT SIDEWAYS U BRACKETaRIGHT SIDEWAYS U BRACKET",
     "aLEFT DOUBLE PARENTHESISaRIGHT DOUBLE PARENTHESIS",
     "aTWO DOTS OVER ONE DOT PUNCTUATIONaONE DOT OVER TWO DOTS PUNCTUATION",
     "aSQUARED FOUR DOT PUNCTUATIONaFIVE DOT MARKaREVERSED QUESTION MARK",
     "aVERTICAL TILDEaRING POINTaWORD SEPARATOR MIDDLE DOTaTURNED COMMAaRAISED DOT",
     "hCOMMAaTURNED SEMICOLONaDAGGER WITH LEFT GUARDmRIGHT GUARDaTURNED DAGGER",
     "bOP HALF SECTION SIGNbWO-EM DASHbHREE-EM DASHaSTENOGRAPHIC FULL STOP",
     "aVERTICAL SIX DOTSaWIGGLY VERTICAL LINEaCAPITULUMaDOUBLE HYPHEN",
     "aREVERSED COMMAaDOUBLE LOW-REVERSED-9 QUOTATION MARKbASH WITH LEFT UPTURN",
     "bOUBLE SUSPENSION MARKaINVERTED LOW KAVYKAt WITH KAVYKA ABOVEaLOW KAVYKA",
     "k WITH DOTaDOUBLE STACKED COMMAcTTED SOLIDUSaTRIPLE DAGGERaMEDIEVAL COMMA",
     "aPARAGRAPHUS MARKbUNCTUS ELEVATUS MARKaCORNISH VERSE DIVIDER",
     "bROSS PATTY WITH RIGHT CROSSBARrLEFT CROSSBARaTIRONIAN SIGN CAPITAL ET",
     "aMEDIEVAL EXCLAMATION MARKjQUESTION MARKaLEFT SQUARE BRACKET WITH STROKE",
     "aRIGHT SQUARE BRACKET WITH STROKEaLEFT SQUARE BRACKET WITH DOUBLE STROKE",
     "aRIGHT SQUARE BRACKET WITH DOUBLE STROKEaTOP HALF LEFT PARENTHESIS",
     "jRIGHT PARENTHESISaBOTTOM HALF LEFT PARENTHESISmRIGHT PARENTHESIS",
     "aOBLIQUE HYPHEN"]⟩,
   ⟨0x2E80, ["aCJK RADICAL REPEATmCLIFFmSECOND ONEtTWOuHREEmPERSONmBOXmTABLEmKNIFE ONEsTWO",
     "mDIVINATIONmSEALnMALL ONEsTWOmLAME ONErTWOsHREErFOURmSNAKEmTHREADmSNOUT ONE",
     "sTWOmHEART ONEsTWOnANDmRAP"]⟩,
   ⟨0x2E9B, ["aCJK RADICAL CHOKEmSUNmMOONmDEATHmMOTHERmCIVILIANmWATER ONEsTWOmFIREmPAW ONE",
     "qTWOmSIMPLIFIED HALF TREE TRUNKmCOWmDOGmJADEmBOLT OF CLOTHmEYEmSPIRIT ONE",
     "tTWOmBAMBOOmSILKmC-SIMPLIFIED SILKmNET ONEqTWOrHREEqFOURmMESHmSHEEPmRAMmEWE",
     "mOLDmBRUSH ONEsTWOmMEATnORTARmGRASS ONEsTWOtHREEmTIGERmCLOTHESmWEST ONErTWO",
     "mC-SIMPLIFIED SEEmSIMPLIFIED HORNmHORNmC-SIMPLIFIED SPEECHzSHELLmFOOT",
     "mC-SIMPLIFIED CARTmSIMPLIFIED WALKmWALK ONErTWOmCITYn-SIMPLIFIED GOLD",
     "mLONG ONErTWOmC-SIMPLIFIED LONGzGATEmMOUND ONEsTWOmRAINmBLUE",
     "mC-SIMPLIFIED TANNED LEATHERzLEAFzWINDzFLYmEAT ONEqTWOrHREEmC-SIMPLIFIED EAT",
     "mHEADmC-SIMPLIFIED HORSEmBONEmGHOSTmC-SIMPLIFIED FISHzBIRDzSALT",
     "mSIMPLIFIED WHEATxYELLOWmC-SIMPLIFIED FROGmJ-SIMPLIFIED EVEN",
     "mC-SIMPLIFIED EVENmJ-SIMPLIFIED TOOTHmC-SIMPLIFIED TOOTHmJ-SIMPLIFIED DRAGON",
     "mC-SIMPLIFIED DRAGONmTURTLEmJ-SIMPLIFIED TURTLEmC-SIMPLIFIED TURTLE"]⟩,
   ⟨0x2F00, ["aKANGXI RADICAL ONEpLINEpDOTpSLASHqECONDpHOOKpTWOpLIDpMANpLEGSpENTERqIGHT",
     "pDOWN BOXpCOVERpICEpTABLEpOPEN BOXpKNIFEpPOWERpWRAPpSPOONpRIGHT OPEN BOX",
     "pHIDING ENCLOSUREpTENpDIVINATIONpSEALpCLIFFpPRIVATEpAGAINpMOUTHpENCLOSURE",
     "qARTHpSCHOLARpGOr SLOWLYpEVENINGpBIGpWOMANpCHILDpROOFpINCHpSMALLpLAMEpCORPSE",
     "pSPROUTpMOUNTAINpRIVERpWORKpONESELFpTURBANpDRYpSHORT THREADpDOTTED CLIFF",
     "pLONG STRIDEpTWO HANDSpSHOOTpBOWpSNOUTpBRISTLEpSTEPpHEARTqALBERDpDOORpHAND",
     "pBRANCHpRAPpSCRIPTpDIPPERpAXEpSQUAREpNOTpSUNqAYpMOONpTREEpLACKpSTOPpDEATH",
     "pWEAPONpDO NOTpCOMPAREpFURpCLANpSTEAMpWATERpFIREpCLAWpFATHERpDOUBLE X",
     "pHALF TREE TRUNKpSLICEpFANGpCOWpDOGpPROFOUNDpJADEpMELONpTILEpSWEETpLIFEpUSE",
     "pFIELDpBOLT OF CLOTHpSICKNESSpDOTTED TENTpWHITEpSKINpDISHpEYEpSPEARpARROW",
     "pSTONEqPIRITpTRACKpGRAINpCAVEpSTANDpBAMBOOpRICEpSILKpJARpNETpSHEEPpFEATHER",
     "pOLDpANDpPLOWpEARpBRUSHpMEATqINISTERpSELFpARRIVEpMORTARpTONGUEpOPPOSEpBOAT",
     "pSTOPPINGpCOLORpGRASSpTIGERpINSECTpBLOODpWALK ENCLOSUREpCLOTHESpWESTpSEE",
     "pHORNpSPEECHpVALLEYpBEANpPIGpBADGERpSHELLpREDqUNpFOOTpBODYpCARTpBITTER",
     "pMORNINGpWALKpCITYpWINEpDISTINGUISHpVILLAGEpGOLDpLONGpGATEpMOUNDpSLAVE",
     "qHORT TAILED BIRDpRAINpBLUEpWRONGpFACEpLEATHERpTANNED LEATHERpLEEKpSOUND",
     "pLEAFpWINDpFLYpEATpHEADpFRAGRANTpHORSEpBONEpTALLpHAIRpFIGHTpSACRIFICIAL WINE",
     "pCAULDRONpGHOSTpFISHpBIRDpSALTpDEERpWHEATpHEMPpYELLOWpMILLETpBLACK",
     "pEMBROIDERYpFROGpTRIPODpDRUMpRATpNOSEpEVENpTOOTHpDRAGONpTURTLEpFLUTE"]⟩,
   ⟨0x2FF0, ["aIDEOGRAPHIC DESCRIPTION CHARACTER LEFT TO RIGHTzHARACTER ABOVE TO BELOW",
     "zHARACTER LEFT TO MIDDLE AND RIGHTzHARACTER ABOVE TO MIDDLE AND BELOW",
     "zHARACTER FULL SURROUNDzHARACTER SURROUND FROM ABOVE",
     "zHARACTER SURROUND FROM BELOWzHARACTER SURROUND FROM LEFT",
     "zHARACTER SURROUND FROM UPPER LEFTzHARACTER SURROUND FROM UPPER RIGHT",
     "zHARACTER SURROUND FROM LOWER LEFTzHARACTER OVERLAID"]⟩,
   ⟨0x3000, ["aIDEOGRAPHIC SPACEmCOMMAmFULL STOPaDITTO MARK",
     "aJAPANESE INDUSTRIAL STANDARD SYMBOLaIDEOGRAPHIC ITERATION MARKmCLOSING MARK",
     "mNUMBER ZEROaLEFT ANGLE BRACKETaRIGHT ANGLE BRACKET",
     "aLEFT DOUBLE ANGLE BRACKETaRIGHT DOUBLE ANGLE BRACKETaLEFT CORNER BRACKET",
     "aRIGHT CORNER BRACKETaLEFT WHITE CORNER BRACKETaRIGHT WHITE CORNER BRACKET",
     "aLEFT BLACK LENTICULAR BRACKETaRIGHT BLACK LENTICULAR BRACKETaPOSTAL MARK",
     "aGETA MARKaLEFT TORTOISE SHELL BRACKETaRIGHT TORTOISE SHELL BRACKET",
     "aLEFT WHITE LENTICULAR BRACKETaRIGHT WHITE LENTICULAR BRACKET",
     "aLEFT WHITE TORTOISE SHELL BRACKETaRIGHT WHITE TORTOISE SHELL BRACKET",
     "aLEFT WHITE SQUARE BRACKETaRIGHT WHITE SQUARE BRACKETaWAVE DASH",
     "aREVERSED DOUBLE PRIME QUOTATION MARKaDOUBLE PRIME QUOTATION MARK",
     "aLOW DOUBLE PRIME QUOTATION MARKaPOSTAL MARK FACEaHANGZHOU NUMERAL ONErTWO",
     "sHREErFOURsIVErSIXsEVENrEIGHTrNINEaIDEOGRAPHIC LEVEL TONE MARK",
     "mRISING TONE MARKmDEPARTING TONE MARKmENTERING TONE MARK",
     "aHANGUL SINGLE DOT TONE MARKhDOUBLE DOT TONE MARKaWAVY DASH",
     "aVERTICAL KANA REPEAT MARKvWITH VOICED SOUND MARKvMARK UPPER HALF",
     "vWITH VOICED SOUND MARK UPPER HALFvMARK LOWER HALFaCIRCLED POSTAL MARK",
     "aIDEOGRAPHIC TELEGRAPH LINE FEED SEPARATOR SYMBOLaHANGZHOU NUMERAL TENsWENTY",
     "sHIRTYaVERTICAL IDEOGRAPHIC ITERATION MARKaMASU MARKaPART ALTERNATION MARK",
     "aIDEOGRAPHIC VARIATION INDICATORmHALF FILL SPACE"]⟩,
   ⟨0x3041, ["aHIRAGANA LETTER SMALL AqAqSMALL IqIqSMALL UqUqSMALL EqEqSMALL OqOqKAqGAqKI",
     "qGIqKUqGUqKEqGEqKOqGOqSAqZAqSIqZIqSUqZUqSEqZEqSOqZOqTAqDAqTIqDIqSMALL TUqTU",
     "qDUqTEqDEqTOqDOqNArIrUrErOqHAqBAqPAqHIqBIqPIqHUqBUqPUqHEqBEqPEqHOqBOqPOqMArI",
     "rUrErOqSMALL YAqYAqSMALL YUqYUqSMALL YOqYOqRArIrUrErOqSMALL WAqWArIrErOqNqVU",
     "qSMALL KAxE"]⟩,
   ⟨0x3099, ["aCOMBINING KATAKANA-HIRAGANA VOICED SOUND MARKzNA SEMI-VOICED SOUND MARK",
     "aKATAKANA-HIRAGANA VOICED SOUND MARKsSEMI-VOICED SOUND MARK",
     "aHIRAGANA ITERATION MARKjVOICED ITERATION MARKjDIGRAPH YORI",
     "aKATAKANA-HIRAGANA DOUBLE HYPHENi LETTER SMALL AqAqSMALL IqIqSMALL UqU",
     "qSMALL EqEqSMALL OqOqKAqGAqKIqGIqKUqGUqKEqGEqKOqGOqSAqZAqSIqZIqSUqZUqSEqZE",
     "qSOqZOqTAqDAqTIqDIqSMALL TUqTUqDUqTEqDEqTOqDOqNArIrUrErOqHAqBAqPAqHIqBIqPI",
     "qHUqBUqPUqHEqBEqPEqHOqBOqPOqMArIrUrErOqSMALL YAqYAqSMALL YUqYUqSMALL YOqYO",
     "qRArIrUrErOqSMALL WAqWArIrErOqNqVUqSMALL KAxEqVArIrErOjMIDDLE DOT",
     "i-HIRAGANA PROLONGED SOUND MARKi ITERATION MARKjVOICED ITERATION MARK",
     "jDIGRAPH KOTO"]⟩,
   ⟨0x3105, ["aBOPOMOFO LETTER BqPqMqFqDqTqNqLqGqKqHqJqQqXqZHqCHqSHqRqZqCqSqAqOqErHqAIqEI",
     "qAUqOUqANqENqANGqENGrRqIqUqIUqVqNGqGNqIHqO WITH DOT ABOVEqNN"]⟩,
   ⟨0x3131, ["aHANGUL LETTER KIYEOKoSSANGKIYEOKoKIYEOK-SIOSoNIEUNt-CIEUCuHIEUHoTIKEUT",
     "oSSANGTIKEUToRIEULt-KIYEOKuMIEUMuPIEUPuSIOSuTHIEUTHuPHIEUPHuHIEUHoMIEUM",
     "oPIEUPoSSANGPIEUPoPIEUP-SIOSoSIOSpSANGSIOSoIEUNGoCIEUCoSSANGCIEUCoCHIEUCH",
     "oKHIEUKHoTHIEUTHoPHIEUPHoHIEUHoApEoYAqEoEOpoYEOqoOoWAqEoOEoYOoUoWEOqpIoYUoEU",
     "oYIoIhFILLERhLETTER SSANGNIEUNoNIEUN-TIKEUTuSIOSuPANSIOSoRIEUL-KIYEOK-SIOS",
     "uTIKEUTuPIEUP-SIOSvANSIOSuYEORINHIEUHoMIEUM-PIEUPuSIOSuPANSIOSoKAPYEOUNMIEUM",
     "oPIEUP-KIYEOKuTIKEUTuSIOS-KIYEOKzTIKEUTuCIEUCuTHIEUTHoKAPYEOUNPIEUP",
     "wSSANGPIEUPoSIOS-KIYEOKtNIEUNtTIKEUTtPIEUPtCIEUCoPANSIOSoSSANGIEUNGoYESIEUNG",
     "w-SIOSxPANSIOSoKAPYEOUNPHIEUPHoSSANGHIEUHoYEORINHIEUHpO-YAtErIpU-YEOtrI",
     "oARAEAtE"]⟩,
   ⟨0x3190, ["aIDEOGRAPHIC ANNOTATION LINKING MARKxREVERSE MARKxONE MARKxTWO MARK",
     "yHREE MARKxFOUR MARKxTOP MARKxMIDDLE MARKxBOTTOM MARKxFIRST MARKxSECOND MARK",
     "xTHIRD MARKxFOURTH MARKxHEAVEN MARKxEARTH MARKxMAN MARKaBOPOMOFO LETTER BU",
     "qZIqJIqGUqEErNNqOOrNNqIRqANNqINNqUNNqIMqNGGqAINNrUNNrMqOMrNGqINNN",
     "jFINAL LETTER PwTwKwHjLETTER GHqLHqZYjFINAL LETTER GjLETTER GWqKWqOEqAH",
     "aCJK STROKE TlWGlXGlBXGlSWlHZZnGmPmZWGlSZWGlHZTnZPmPWGmZWnZZlNlHlSlPlSPlDlHZ",
     "mGlSZmWZmTmGlPDmZlTNlSZZmWGlHXWGmZZZGlPGlQ"]⟩,
   ⟨0x31F0, ["aKATAKANA LETTER SMALL KUwSIxUwTOwNUwHAxIxUxExOwMUwRAxIxUxExO",
     "aPARENTHESIZED HANGUL KIYEOKvNIEUNvTIKEUTvRIEULvMIEUMvPIEUPvSIOSvIEUNGvCIEUC",
     "wHIEUCHvKHIEUKHvTHIEUTHvPHIEUPHvHIEUHvKIYEOK AvNIEUN AvTIKEUT AvRIEUL A",
     "vMIEUM AvPIEUP AvSIOS AvIEUNG AvCIEUC AwHIEUCH AvKHIEUKH AvTHIEUTH A",
     "vPHIEUPH AvHIEUH AvCIEUC UoKOREAN CHARACTER OJEONzACTER O HU"]⟩,
   ⟨0x3220, ["aPARENTHESIZED IDEOGRAPH ONEyTWOzHREEyFOURzIVEySIXzEVENyEIGHTyNINEyTENyMOON",
     "yFIREyWATERzOODyMETALyEARTHySUNzTOCKyHAVEySOCIETYyNAMEySPECIALyFINANCIAL",
     "yCONGRATULATIONyLABORyREPRESENTyCALLySTUDYzUPERVISEyENTERPRISEyRESOURCE",
     "yALLIANCEyFESTIVALyRESTySELFyREACHaCIRCLED IDEOGRAPH QUESTIONsKINDERGARTEN",
     "sSCHOOLsKOTOiNUMBER TEN ON BLACK SQUAREqWENTY ON BLACK SQUARE",
     "qHIRTY ON BLACK SQUAREpFORTY ON BLACK SQUAREqIFTY ON BLACK SQUARE",
     "pSIXTY ON BLACK SQUAREqEVENTY ON BLACK SQUAREpEIGHTY ON BLACK SQUARE",
     "aPARTNERSHIP SIGNaCIRCLED NUMBER TWENTY ONEwTWOxHREEwFOURxIVEwSIXxEVENwEIGHT",
     "wNINEqHIRTYv ONEwTWOxHREEwFOURxIVEiHANGUL KIYEOKpNIEUNpTIKEUTpRIEULpMIEUM",
     "pPIEUPpSIOSpIEUNGpCIEUCqHIEUCHpKHIEUKHpTHIEUTHpPHIEUPHpHIEUHpKIYEOK A",
     "pNIEUN ApTIKEUT ApRIEUL ApMIEUM ApPIEUP ApSIOS ApIEUNG ApCIEUC AqHIEUCH A",
     "pKHIEUKH ApTHIEUTH ApPHIEUPH ApHIEUH AiKOREAN CHARACTER CHAMKOzJUEUI",
     "iHANGUL IEUNG UaKOREAN STANDARD SYMBOLaCIRCLED IDEOGRAPH ONEsTWOtHREEsFOUR",
     "tIVEsSIXtEVENsEIGHTsNINEsTENsMOONsFIREsWATERtOODsMETALsEARTHsSUNtTOCKsHAVE",
     "sSOCIETYsNAMEsSPECIALsFINANCIALsCONGRATULATIONsLABORsSECRETsMALEsFEMALE",
     "sSUITABLEsEXCELLENTsPRINTsATTENTIONsITEMsRESTsCOPYuRRECTsHIGHsCENTREsLOWtEFT",
     "sRIGHTsMEDICINEsRELIGIONsSTUDYtUPERVISEsENTERPRISEsRESOURCEsALLIANCEsNIGHT",
     "iNUMBER THIRTY SIXxEVENwEIGHTwNINEpFORTYu ONEvTWOwHREEvFOURwIVEvSIXwEVEN",
     "vEIGHTvNINEqIFTYaIDEOGRAPHIC TELEGRAPH SYMBOL FOR JANUARYzBOL FOR FEBRUARY",
     "zBOL FOR MARCHzBOL FOR APRILzBOL FOR MAYzBOL FOR JUNEzBOL FOR JULY",
     "zBOL FOR AUGUSTzBOL FOR SEPTEMBERzBOL FOR OCTOBERzBOL FOR NOVEMBER",
     "zBOL FOR DECEMBERaSQUARE HGhERGiVaLIMITED LIABILITY SIGNaCIRCLED KATAKANA A",
     "rIrUrErOrKAsIsUsEsOrSAsIsUsEsOrTAsIsUsEsOrNAsIsUsEsOrHAsIsUsEsOrMAsIsUsEsO",
     "rYAsUsOrRAsIsUsEsOrWAsIsEsOaSQUARE ERA NAME REIWAhAPAATOiRUHUAiNPEAiARU",
     "hININGUjTIhUONhESUKUUDOiEKAAhONSUiOMUhKAIRIjRATTOkORIIhGARONjNMAiIGAjNII",
     "hKYURIIhGIRUDAAhKIROlGURAMUlMEETORUlWATTOhGURAMUnTONhKURUZEIROkOONEiEESU",
     "iORUNAjOPOhSAIKURUjNTIIMUiIRINGUiENTIlOhDAASUiESIiORUhTONhNANOiOTTOhHAITU",
     "hPAASENTOkTUhBAARERUhPIASUTORUjKURUkOhBIRUhHUARADDOjIITOhBUSSYERUhHURAN",
     "iEKUTAARUhPESOjNIHIhHERUTUhPENSUjEZIhBEETAhPOINTOhBORUTOhHONhPONDOhHOORUkN",
     "hMAIKUROkRUjHHAjRUKUjNSYONiIKURONjRIlBAARUiEGAlTONjETORUhYAADOkRUiUAN",
     "hRITTORUjRAiUPIIjUBURUiEMUjNTOGENhWATTO",
     "aIDEOGRAPHIC TELEGRAPH SYMBOL FOR HOUR ZEROzBOL FOR HOUR ONE",
     "zBOL FOR HOUR TWOzBOL FOR HOUR THREEzBOL FOR HOUR FOURzBOL FOR HOUR FIVE",
     "zBOL FOR HOUR SIXzBOL FOR HOUR SEVENzBOL FOR HOUR EIGHTzBOL FOR HOUR NINE",
     "zBOL FOR HOUR TENzBOL FOR HOUR ELEVENzBOL FOR HOUR TWELVE",
     "zBOL FOR HOUR THIRTEENzBOL FOR HOUR FOURTEENzBOL FOR HOUR FIFTEEN",
     "zBOL FOR HOUR SIXTEENzBOL FOR HOUR SEVENTEENzBOL FOR HOUR EIGHTEEN",
     "zBOL FOR HOUR NINETEENzBOL FOR HOUR TWENTYzBOL FOR HOUR TWENTY-ONE",
     "zBOL FOR HOUR TWENTY-TWOzBOL FOR HOUR TWENTY-THREEzBOL FOR HOUR TWENTY-FOUR",
     "aSQUARE HPAhDAhAUhBARhOVhPChDMj SQUAREDkCUBEDhIUhERA NAME HEISEIqSYOUWA",
     "qTAISYOUqMEIZIhCORPORATIONhPA AMPShNAhMU AiAhKAiBhMBhGBhCALhKCALhPFhNFhMU F",
     "kGiGhKGhHZhKHZhMHZhGHZhTHZhMU LiLhDLhKLhFMhNMhMU MiMhCMhKMhMM SQUARED",
     "hCM SQUAREDhM SQUAREDhKM SQUAREDhMM CUBEDhCM CUBEDhM CUBEDhKM CUBEDhM OVER S",
     "p SQUAREDhPAhKPAhMPAhGPAhRADk OVER Sr SQUAREDhPShNShMU SiShPVhNVhMU ViVhKV",
     "hMV MEGAhPWhNWhMU WiWhKWhMW MEGAhK OHMhM OHMhAMhBQhCCiDi OVER KGiOhDBhGYhHA",
     "iPhINhKKiM CAPITALiThLMiNiOGiXhMB SMALLiILiOLhPHiMiPMiRhSRiVhWBhV OVER M",
     "hA OVER MaIDEOGRAPHIC TELEGRAPH SYMBOL FOR DAY ONEzBOL FOR DAY TWO",
     "zBOL FOR DAY THREEzBOL FOR DAY FOURzBOL FOR DAY FIVEzBOL FOR DAY SIX",
     "zBOL FOR DAY SEVENzBOL FOR DAY EIGHTzBOL FOR DAY NINEzBOL FOR DAY TEN",
     "zBOL FOR DAY ELEVENzBOL FOR DAY TWELVEzBOL FOR DAY THIRTEEN",
     "zBOL FOR DAY FOURTEENzBOL FOR DAY FIFTEENzBOL FOR DAY SIXTEEN",
     "zBOL FOR DAY SEVENTEENzBOL FOR DAY EIGHTEENzBOL FOR DAY NINETEEN",
     "zBOL FOR DAY TWENTYzBOL FOR DAY TWENTY-ONEzBOL FOR DAY TWENTY-TWO",
     "zBOL FOR DAY TWENTY-THREEzBOL FOR DAY TWENTY-FOURzBOL FOR DAY TWENTY-FIVE",
     "zBOL FOR DAY TWENTY-SIXzBOL FOR DAY TWENTY-SEVENzBOL FOR DAY TWENTY-EIGHT",
     "zBOL FOR DAY TWENTY-NINEzBOL FOR DAY THIRTYzBOL FOR DAY THIRTY-ONE",
     "aSQUARE GAL"]⟩,
   ⟨0x4DC0, ["aHEXAGRAM FOR THE CREATIVE HEAVENrRECEPTIVE EARTH",
     "nDIFFICULTY AT THE BEGINNINGnYOUTHFUL FOLLYnWAITINGnCONFLICTnTHE ARMY",
     "nHOLDING TOGETHERnSMALL TAMINGnTREADINGnPEACEnSTANDSTILLnFELLOWSHIP",
     "nGREAT POSSESSIONnMODESTYnENTHUSIASMnFOLLOWINGnWORK ON THE DECAYEDnAPPROACH",
     "nCONTEMPLATIONnBITING THROUGHnGRACEnSPLITTING APARTnRETURNnINNOCENCE",
     "nGREAT TAMINGnMOUTH CORNERSnGREAT PREPONDERANCEnTHE ABYSMAL WATER",
     "rCLINGING FIREnINFLUENCEnDURATIONnRETREATnGREAT POWERnPROGRESS",
     "nDARKENING OF THE LIGHTnTHE FAMILYnOPPOSITIONoBSTRUCTIONnDELIVERANCEpCREASE",
     "nINCREASEnBREAKTHROUGHnCOMING TO MEETnGATHERING TOGETHERnPUSHING UPWARD",
     "nOPPRESSIONnTHE WELLnREVOLUTIONnTHE CAULDRONrAROUSING THUNDER",
     "rKEEPING STILL MOUNTAINnDEVELOPMENTnTHE MARRYING MAIDENnABUNDANCE",
     "nTHE WANDERERrGENTLE WINDrJOYOUS LAKEnDISPERSIONnLIMITATIONnINNER TRUTH",
     "nSMALL PREPONDERANCEnAFTER COMPLETIONnBEFORE COMPLETION"]⟩]

/-- Names of characters from U+A000 to U+FFFD. -/
def namesFromA000 : List NameRun :=
  [⟨0xA000, ["aYI SYLLABLE ITnXnnPnEToXooPmATnXnnPmUOXooPmOTnXnnPmEXnmWUmBIToXooPoETpXppP",
     "nAToXooPnUOXppPnOToXooPnEXooPnUToXooPoRXpnYToXooPoRXpmPIToXooPoEXppPnAToXooP",
     "nUOXppPnOToXooPnUToXooPoRXpnYToXooPoRXpmBBITpXppPpETqXqqPoATpXppPoUOXqqPoOT",
     "pXppPoEXppPoUTpXppPpRXqoYTpXppPmNBITpXppPpEXqqPoATpXppPoOTpXppPoUTpXppPpRXq",
     "oYTpXppPpRXqmHMITpXppPpEXqqPoATpXppPoUOXqqPoOTpXppPoUTpXppPpRXqoYXppPpRXq",
     "mMIToXooPoEXppPnAToXooPnUOTpXppPnOToXooPnEXonUToXooPoRXpnYToXooPmFIToXooPnAT",
     "oXooPnOXooPnUToXooPoRXpnYToXooPmVIToXooPoETpXppPnAToXooPnOToXooPnEXoPnUToXo",
     "oPoRXpnYToXooPoRXpmDIToXooPoEXppPnAToXooPnUOXpnOToXooPnEXooPnUToXooPoRXpmTIT",
     "oXooPoEXppPnAToXooPnUOTpXppPnOToXooPnEXooPnUToXooPoRXpmDDITpXppPpEXqqPoATpXp",
     "pPoUOXqqPoOTpXppPoEXppPoUTpXppPpRXqmNDITpXppPpEXqoATpXppPoOTpXppPoEXppPoUTpX",
     "ppPpRXqmHNITpXppPpETqXqqPoATpXppPoUOXqoOTpXpPoEXppPoUTmNIToXooPoEXppPnAXooP",
     "nUOXppPnOToXooPnEXooPnUToXooPoRXpmHLITpXppPpEXqqPoATpXppPoUOXqqPoOXppPoEXppP",
     "oUTpXppPpRXqoYTpXppPpRXqmLIToXooPoETpXppPnAToXooPnUOTpXppPnOToXooPnEXooPnUT",
     "oXooPoRXpnYToXooPoRXpmGIToXooPoETpXppPnAToXooPnUOTpXppPnOToXooPnEToXooPnUToX",
     "ooPoRXpmKIToXooPoEXppPnAToXooPnUOXppPnOToXooPnEToXooPnUToXooPoRXpmGGITpXppEX",
     "qqPoATpXppPoUOTqXqqPoOTpXppPoETpXppPoUTpXppPpRXqmMGIEXqoATpXppPoUOXqqPoOTpXp",
     "pPoEXppPoUTpXppPpRXqmHXITpXppPpETqXqqPoATpXppPoUOTqXqqPoOTpXppPoEXppPmNGIEXq",
     "qPoATpXppPoUOTqXqoOTpXppPoEXppPmHIToEXpnAToXooPnUOTpXppPnOToXooPnEXooPmWAToX",
     "ooPnUOXppPnOXooPnEXooPmZIToXooPoEXppPnAToXooPnUOXppPnOToXooPnEXooPnUToXooP",
     "oRXpnYToXooPoRXpmCIToXooPoETpXppPnAToXooPnUOXppPnOToXooPnEXooPnUToXooPoRXp",
     "nYToXooPoRXpmZZITpXppPpETqXqqPoATpXppPoOXppPoEXppPoUXppPpRXqoYTpXppPpRXq",
     "mNZITpXppPpEXqqPoATpXppPoUOXqoOXpPoEXpoUXppPpRXqoYTpXppPpRXqmSIToXooPoEXppP",
     "nAToXooPnUOXppPnOToXooPnEXooPnUToXooPoRXpnYToXooPoRXpnSITpXppPpEXqqPoATpXppP",
     "oOTpXppPoEXppPoUTpXppPoYTpXppPpRXqmZHATpXppPoUOXqqPoOTpXppPoETpXppPoUTpXppP",
     "pRXqoYTpXppPpRXqmCHATpXppPoUOTqXqqPoOTpXppPoETpXppPoUXppPpRXqoYTpXppPpRXq",
     "mRRAXpoUOXqoOTpXppPoETpXppPoUTpXppPpRXqoYTpXppPpRXqmNRATpXppPoOXppPoETpXppP",
     "oUTpXppPpRXqoYTpXppPpRXqmSHATpXppPoUOXqqPoOTpXppPoETpXppPoUTpXppPpRXqoYTpXp",
     "pPpRXqmRAToXooPnUOXppPnOToXooPnEXooPnUToXooPoRXpnYToXooPoRXpmJIToXooPoETpXp",
     "pPnUOTpXppPnOToXooPnUToXooPoRXpnYToXooPoRXpmQIToXooPoETpXppPnUOTpXppPnOToXo",
     "oPnUToXooPoRXpnYToXooPoRXpmJJITpXppPpETqXqqPoUOXqqPoOTpXppPoUTpXppPpRXqoYTpX",
     "ppPmNJITpXppPpETqXqqPoUOXqoOTpXppPoUXppPpRXqoYTpXppPpRXqnYITpXppPpETqXqqP",
     "oUOXqqPoOTpXppPoUTpXppPmXIToXooPoETpXppPnUOXpnOToXooPnYToXooPoRXpmYIToXooP",
     "oETpXppPnUOTpXppPnOToXooPnUToXooPoRXpnYToXooPoRXp"]⟩,
   ⟨0xA490, ["aYI RADICAL QOTlLIlKITlNYIPlCYPlSSIlGGOPmEPlMIlHXITlLYRlBBUTlMOPlYOlPUTlHXUO",
     "lTATlGAlZUPlCYTlDDURlBURlGGUOlNYOPlTUlOPlJJUTlZOTlPYTlHMOlYITlVURlSHYlVEPlZA",
     "lJOlNZUPlJJYlGOTlJJIElWOlDUlSHURlLIElCYmUOPmIPlHXOPlSHATlZURlSHOPlCHElZZIET",
     "lNBIElKE"]⟩,
   ⟨0xA4D0, ["aLISU LETTER BAmPAnHAmDAmTAnHAmGAmKAnHAmJAmCAnHAmDZAmTSAoHAmMAmNAmLAmSAmZHA",
     "nAmNGAmHAmXAmHHAmFAmWAmSHAmYAmGHAmAnEmEnUmImOmUnEnHmOEmTONE MYA TIrNA PO",
     "rMYA CYAvBOvNAvJEUfPUNCTUATION COMMArFULL STOPaVAI SYLLABLE EEpNnHEEnWEEqN",
     "nPEEnBHEEoEEnMBEEnKPEEnMGBEEnGBEEnFEEnVEEnTEEoHEEnDHEEpHEEnLEEnREEnDEEnNDEE",
     "nSEEoHEEnZEEoHEEnCEEnJEEnNJEEnYEEnKEEnNGGEEnGEEnMEEnNEEoYEEnIoNnHIpNnWIpNnPI",
     "nBHIoInMBInKPInMGBInGBInFInVInTIoHInDHIpHInLInRInDInNDInSIoHInZIoHInCInJI",
     "nNJInYInKInNGGInGInMInNIoYInAoNnNGANnHApNnWApNnPAnBHAoAnMBAnKPAqNnMGBAnGBA",
     "nFAnVAnTAoHAnDHApHAnLAnRAnDAnNDAnSAoHAnZAoHAnCAnJAnNJAnYAnKApNnNGGAnGAnMAnNA",
     "oYAnOOpNnHOOnWOOqNnPOOnBHOOoOOnMBOOnKPOOnMGBOOnGBOOnFOOnVOOnTOOoHOOnDHOOpHOO",
     "nLOOnROOnDOOnNDOOnSOOoHOOnZOOoHOOnCOOnJOOnNJOOnYOOnKOOnNGGOOnGOOnMOOnNOOoYOO",
     "nUoNnHUpNnWUpNnPUnBHUoUnMBUnKPUnMGBUnGBUnFUnVUnTUoHUnDHUpHUnLUnRUnDUnNDUnSU",
     "oHUnZUoHUnCUnJUnNJUnYUnKUnNGGUnGUnMUnNUoYUnOoNnNGONnHOpNnWOpNnPOnBHOoOnMBO",
     "nKPOnMGBOnGBOqNnFOnVOnTOoHOnDHOpHOnLOnROnDOnNDOnSOoHOnZOoHOnCOnJOnNJOnYOnKO",
     "nNGGOnGOnMOnNOoYOnEoNnNGENnHEpNnWEpNnPEnBHEoEnMBEnKPEqNnMGBEnGBEqNnFEnVEnTE",
     "oHEnDHEpHEnLEnREnDEnNDEnSEoHEnZEoHEnCEnJEnNJEnYEnKEnNGGErNnGEpNnMEnNEoYEoG",
     "nLENGTHENEReCOMMAeFULL STOPeQUESTION MARKeSYLLABLE NDOLE FAtKAtSOO",
     "gMBOL FEENGlKEENGlTINGlNIIlBANGlFAAlTAAlDANGmOONGlKUNGlTONGlDO-OlJONG",
     "eDIGIT ZEROkONEkTWOlHREEkFOURlIVEkSIXlEVENkEIGHTkNINEeSYLLABLE NDOLE MAtDO"]⟩,
   ⟨0xA640, ["aCYRILLIC CAPITAL LETTER ZEMLYAjSMALL LETTER ZEMLYAjCAPITAL LETTER DZELO",
     "jSMALL LETTER DZELOjCAPITAL LETTER REVERSED DZEjSMALL LETTER REVERSED DZE",
     "jCAPITAL LETTER IOTAjSMALL LETTER IOTAjCAPITAL LETTER DJERV",
     "jSMALL LETTER DJERVjCAPITAL LETTER MONOGRAPH UKjSMALL LETTER MONOGRAPH UK",
     "jCAPITAL LETTER BROAD OMEGAjSMALL LETTER BROAD OMEGA",
     "jCAPITAL LETTER NEUTRAL YERjSMALL LETTER NEUTRAL YER",
     "jCAPITAL LETTER YERU WITH BACK YERjSMALL LETTER YERU WITH BACK YER",
     "jCAPITAL LETTER IOTIFIED YATjSMALL LETTER IOTIFIED YAT",
     "jCAPITAL LETTER REVERSED YUjSMALL LETTER REVERSED YU",
     "jCAPITAL LETTER IOTIFIED AjSMALL LETTER IOTIFIED A",
     "jCAPITAL LETTER CLOSED LITTLE YUSjSMALL LETTER CLOSED LITTLE YUS",
     "jCAPITAL LETTER BLENDED YUSjSMALL LETTER BLENDED YUS",
     "jCAPITAL LETTER IOTIFIED CLOSED LITTLE YUS",
     "jSMALL LETTER IOTIFIED CLOSED LITTLE YUSjCAPITAL LETTER YNjSMALL LETTER YN",
     "jCAPITAL LETTER REVERSED TSEjSMALL LETTER REVERSED TSE",
     "jCAPITAL LETTER SOFT DEjSMALL LETTER SOFT DEjCAPITAL LETTER SOFT EL",
     "jSMALL LETTER SOFT ELjCAPITAL LETTER SOFT EMjSMALL LETTER SOFT EM",
     "jCAPITAL LETTER MONOCULAR OjSMALL LETTER MONOCULAR O",
     "jCAPITAL LETTER BINOCULAR OjSMALL LETTER BINOCULAR O",
     "jCAPITAL LETTER DOUBLE MONOCULAR OjSMALL LETTER DOUBLE MONOCULAR O",
     "jLETTER MULTIOCULAR ObOMBINING CYRILLIC VZMETtTEN MILLIONS SIGN",
     "tHUNDRED MILLIONS SIGNtTHOUSAND MILLIONS SIGNaSLAVONIC ASTERISK",
     "aCOMBINING CYRILLIC LETTER UKRAINIAN IEz Iz YIz Uz HARD SIGNz YERU",
     "z SOFT SIGNz OMEGAtKAVYKAtPAYEROKbYRILLIC KAVYKAjPAYEROKjCAPITAL LETTER DWE",
     "jSMALL LETTER DWEjCAPITAL LETTER DZWEjSMALL LETTER DZWEjCAPITAL LETTER ZHWE",
     "jSMALL LETTER ZHWEjCAPITAL LETTER CCHEjSMALL LETTER CCHEjCAPITAL LETTER DZZE",
     "jSMALL LETTER DZZEjCAPITAL LETTER TE WITH MIDDLE HOOK",
     "jSMALL LETTER TE WITH MIDDLE HOOKjCAPITAL LETTER TWEjSMALL LETTER TWE",
     "jCAPITAL LETTER TSWEjSMALL LETTER TSWEjCAPITAL LETTER TSSEjSMALL LETTER TSSE",
     "jCAPITAL LETTER TCHEjSMALL LETTER TCHEjCAPITAL LETTER HWEjSMALL LETTER HWE",
     "jCAPITAL LETTER SHWEjSMALL LETTER SHWEjCAPITAL LETTER DOUBLE O",
     "jSMALL LETTER DOUBLE OjCAPITAL LETTER CROSSED OjSMALL LETTER CROSSED O",
     "aMODIFIER LETTER CYRILLIC HARD SIGNzSOFT SIGNaCOMBINING CYRILLIC LETTER EF",
     "z IOTIFIED EaBAMUM LETTER AnKAnUnKUnEEnREEnTAEnOnNYInInLAnPAnRIIpEEnLEEEE",
     "nMEEEEnTAAnNDAAoJAEMnMnSUUnMUnSHIIoIoHEUXoEUXnKYEEoETnNUAEpoJUAEnYOQnSHUnYUQ",
     "oAnNSHAnKEUXnPEUXnNJEEoTEEnPUEnWUEnPEEnFEEnRUnLUnMInNInREUXoAEnKENnNGKWAEN",
     "pGApAnSHOnPUAEnFUoOMnWAnNAnLInPInLOQnKOnMBENnRENnMENoAnTInKInMOoBAAnTETnKPA",
     "nTENnNTUUnSAMBAnFAAMAEnKOVUUpGHOMgCOMBINING MARK KOQNDONvTUKWENTISgNJAEMLI",
     "gFULL STOPgCOLONiMMAgSEMICOLONgQUESTION MARK"]⟩,
   ⟨0xA700, ["aMODIFIER LETTER CHINESE TONE YIN PINGzONE YANG PINGzONE YIN SHANG",
     "zONE YANG SHANGzONE YIN QUzONE YANG QUzONE YIN RUzONE YANG RU",
     "qEXTRA-HIGH DOTTED TONE BARqHIGH DOTTED TONE BARqMID DOTTED TONE BAR",
     "qLOW DOTTED TONE BARqEXTRA-LOW DOTTED TONE BAR",
     "wHIGH DOTTED LEFT-STEM TONE BARqHIGH DOTTED LEFT-STEM TONE BAR",
     "qMID DOTTED LEFT-STEM TONE BARqLOW DOTTED LEFT-STEM TONE BAR",
     "qEXTRA-LOW DOTTED LEFT-STEM TONE BARwHIGH LEFT-STEM TONE BAR",
     "qHIGH LEFT-STEM TONE BARqMID LEFT-STEM TONE BARqLOW LEFT-STEM TONE BAR",
     "qEXTRA-LOW LEFT-STEM TONE BARqDOT VERTICAL BARuSLASHuHORIZONTAL BAR",
     "qLOWER RIGHT CORNER ANGLEqRAISED UP ARROWxDOWN ARROWxEXCLAMATION MARK",
     "xINVERTED EXCLAMATION MARKqLOW INVERTED EXCLAMATION MARK",
     "qSTRESS AND HIGH TONEzD LOW TONEaLATIN CAPITAL LETTER EGYPTOLOGICAL ALEF",
     "gSMALL LETTER EGYPTOLOGICAL ALEFgCAPITAL LETTER EGYPTOLOGICAL AIN",
     "gSMALL LETTER EGYPTOLOGICAL AINgCAPITAL LETTER HENGgSMALL LETTER HENG",
     "gCAPITAL LETTER TZgSMALL LETTER TZgCAPITAL LETTER TRESILLO",
     "gSMALL LETTER TRESILLOgCAPITAL LETTER CUATRILLOgSMALL LETTER CUATRILLO",
     "gCAPITAL LETTER CUATRILLO WITH COMMAgSMALL LETTER CUATRILLO WITH COMMA",
     "gLETTER SMALL CAPITAL FzL SgCAPITAL LETTER AAgSMALL LETTER AA",
     "gCAPITAL LETTER AOgSMALL LETTER AOgCAPITAL LETTER AUgSMALL LETTER AU",
     "gCAPITAL LETTER AVgSMALL LETTER AVgCAPITAL LETTER AV WITH HORIZONTAL BAR",
     "gSMALL LETTER AV WITH HORIZONTAL BARgCAPITAL LETTER AYgSMALL LETTER AY",
     "gCAPITAL LETTER REVERSED C WITH DOTgSMALL LETTER REVERSED C WITH DOT",
     "gCAPITAL LETTER K WITH STROKEgSMALL LETTER K WITH STROKE",
     "gCAPITAL LETTER K WITH DIAGONAL STROKEgSMALL LETTER K WITH DIAGONAL STROKE",
     "gCAPITAL LETTER K WITH STROKE AND DIAGONAL STROKE",
     "gSMALL LETTER K WITH STROKE AND DIAGONAL STROKEgCAPITAL LETTER BROKEN L",
     "gSMALL LETTER BROKEN LgCAPITAL LETTER L WITH HIGH STROKE",
     "gSMALL LETTER L WITH HIGH STROKEgCAPITAL LETTER O WITH LONG STROKE OVERLAY",
     "gSMALL LETTER O WITH LONG STROKE OVERLAYgCAPITAL LETTER O WITH LOOP",
     "gSMALL LETTER O WITH LOOPgCAPITAL LETTER OOgSMALL LETTER OO",
     "gCAPITAL LETTER P WITH STROKE THROUGH DESCENDER",
     "gSMALL LETTER P WITH STROKE THROUGH DESCENDERgCAPITAL LETTER P WITH FLOURISH",
     "gSMALL LETTER P WITH FLOURISHgCAPITAL LETTER P WITH SQUIRREL TAIL",
     "gSMALL LETTER P WITH SQUIRREL TAIL",
     "gCAPITAL LETTER Q WITH STROKE THROUGH DESCENDER",
     "gSMALL LETTER Q WITH STROKE THROUGH DESCENDER",
     "gCAPITAL LETTER Q WITH DIAGONAL STROKEgSMALL LETTER Q WITH DIAGONAL STROKE",
     "gCAPITAL LETTER R ROTUNDAgSMALL LETTER R ROTUNDAgCAPITAL LETTER RUM ROTUNDA",
     "gSMALL LETTER RUM ROTUNDAgCAPITAL LETTER V WITH DIAGONAL STROKE",
     "gSMALL LETTER V WITH DIAGONAL STROKEgCAPITAL LETTER VYgSMALL LETTER VY",
     "gCAPITAL LETTER VISIGOTHIC ZgSMALL LETTER VISIGOTHIC Z",
     "gCAPITAL LETTER THORN WITH STROKEgSMALL LETTER THORN WITH STROKE",
     "gCAPITAL LETTER THORN WITH STROKE THROUGH DESCENDER",
     "gSMALL LETTER THORN WITH STROKE THROUGH DESCENDERgCAPITAL LETTER VEND",
     "gSMALL LETTER VENDgCAPITAL LETTER ETgSMALL LETTER ETgCAPITAL LETTER IS",
     "gSMALL LETTER ISgCAPITAL LETTER CONgSMALL LETTER CONaMODIFIER LETTER US",
     "aLATIN SMALL LETTER DUMtLUMtMUMtNUMtRUMgLETTER SMALL CAPITAL RUM",
     "gSMALL LETTER TUMtUMgCAPITAL LETTER INSULAR DgSMALL LETTER INSULAR D",
     "gCAPITAL LETTER INSULAR FgSMALL LETTER INSULAR FgCAPITAL LETTER INSULAR G",
     "vTURNED INSULAR GgSMALL LETTER TURNED INSULAR GgCAPITAL LETTER TURNED L",
     "gSMALL LETTER TURNED LgCAPITAL LETTER INSULAR RgSMALL LETTER INSULAR R",
     "gCAPITAL LETTER INSULAR SgSMALL LETTER INSULAR SgCAPITAL LETTER INSULAR T",
     "gSMALL LETTER INSULAR TaMODIFIER LETTER LOW CIRCUMFLEX ACCENTqCOLON",
     "qSHORT EQUALS SIGNaLATIN CAPITAL LETTER SALTILLOgSMALL LETTER SALTILLO",
     "gCAPITAL LETTER TURNED HgSMALL LETTER L WITH RETROFLEX HOOK AND BELT",
     "gLETTER SINOLOGICAL DOTgCAPITAL LETTER N WITH DESCENDER",
     "gSMALL LETTER N WITH DESCENDERgCAPITAL LETTER C WITH BAR",
     "gSMALL LETTER C WITH BARz PALATAL HOOKtH WITH PALATAL HOOK",
     "gCAPITAL LETTER B WITH FLOURISHgSMALL LETTER B WITH FLOURISH",
     "gCAPITAL LETTER F WITH STROKEgSMALL LETTER F WITH STROKE",
     "gCAPITAL LETTER VOLAPUK AEgSMALL LETTER VOLAPUK AEgCAPITAL LETTER VOLAPUK OE",
     "gSMALL LETTER VOLAPUK OEgCAPITAL LETTER VOLAPUK UEgSMALL LETTER VOLAPUK UE",
     "gCAPITAL LETTER G WITH OBLIQUE STROKEgSMALL LETTER G WITH OBLIQUE STROKE",
     "gCAPITAL LETTER K WITH OBLIQUE STROKEgSMALL LETTER K WITH OBLIQUE STROKE",
     "gCAPITAL LETTER N WITH OBLIQUE STROKEgSMALL LETTER N WITH OBLIQUE STROKE",
     "gCAPITAL LETTER R WITH OBLIQUE STROKEgSMALL LETTER R WITH OBLIQUE STROKE",
     "gCAPITAL LETTER S WITH OBLIQUE STROKEgSMALL LETTER S WITH OBLIQUE STROKE",
     "gCAPITAL LETTER H WITH HOOKvREVERSED OPEN EvSCRIPT GvL WITH BELT",
     "vSMALL CAPITAL IgLETTER SMALL CAPITAL QgCAPITAL LETTER TURNED KzED T",
     "vJ WITH CROSSED-TAILvCHIvBETAgSMALL LETTER BETAgCAPITAL LETTER OMEGA",
     "gSMALL LETTER OMEGAgCAPITAL LETTER U WITH STROKEgSMALL LETTER U WITH STROKE",
     "gCAPITAL LETTER GLOTTAL AgSMALL LETTER GLOTTAL AgCAPITAL LETTER GLOTTAL I",
     "gSMALL LETTER GLOTTAL IgCAPITAL LETTER GLOTTAL UgSMALL LETTER GLOTTAL U",
     "gCAPITAL LETTER OLD POLISH OgSMALL LETTER OLD POLISH O",
     "gCAPITAL LETTER ANGLICANA WgSMALL LETTER ANGLICANA W",
     "gCAPITAL LETTER C WITH PALATAL HOOKvS WITH HOOKvZ WITH PALATAL HOOK",
     "vD WITH SHORT STROKE OVERLAYgSMALL LETTER D WITH SHORT STROKE OVERLAY",
     "gCAPITAL LETTER S WITH SHORT STROKE OVERLAY",
     "gSMALL LETTER S WITH SHORT STROKE OVERLAY"]⟩,
   ⟨0xA7D0, ["aLATIN CAPITAL LETTER CLOSED INSULAR GgSMALL LETTER CLOSED INSULAR G"]⟩,
   ⟨0xA7D3, ["aLATIN SMALL LETTER DOUBLE THORN"]⟩,
   ⟨0xA7D5, ["aLATIN SMALL LETTER DOUBLE WYNNgCAPITAL LETTER MIDDLE SCOTS S",
     "gSMALL LETTER MIDDLE SCOTS SgCAPITAL LETTER SIGMOID SgSMALL LETTER SIGMOID S"]⟩,
   ⟨0xA7F2, ["aMODIFIER LETTER CAPITAL CyFyQaLATIN CAPITAL LETTER REVERSED HALF H",
     "gSMALL LETTER REVERSED HALF HgEPIGRAPHIC LETTER SIDEWAYS I",
     "aMODIFIER LETTER CAPITAL H WITH STROKEqSMALL LIGATURE OE",
     "aLATIN LETTER SMALL CAPITAL TURNED MgEPIGRAPHIC LETTER REVERSED FzEVERSED P",
     "yINVERTED Mz LONGAyARCHAIC MaSYLOTI NAGRI LETTER AuInSIGN DVISVARAnLETTER U",
     "uEuOnSIGN HASANTAnLETTER KOvHOuGOvHOnSIGN ANUSVARAnLETTER COvHOuJOvHOuTTOwHO",
     "uDDOwHOuTOvHOuDOvHOuNOuPOvHOuBOvHOuMOuROuLOuRROuSOuHOnVOWEL SIGN AyIyUyEyOO",
     "nPOETRY MARK-1z2z3z4nSIGN ALTERNATE HASANTA"]⟩,
   ⟨0xA830, ["aNORTH INDIC FRACTION ONE QUARTERzHALFvTHREE QUARTERSvONE SIXTEENTHzEIGHTH",
     "vTHREE SIXTEENTHSmQUARTER MARKmPLACEHOLDER MARKmRUPEE MARKmQUANTITY MARK"]⟩,
   ⟨0xA840, ["aPHAGS-PA LETTER KArHAqGAqNGAqCArHAqJAqNYAqTArHAqDAqNAqPArHAqBAqMAqTSAsHA",
     "qDZAqWAqZHArAqSMALL AqYAqRAqLAqSHArAqHAqAqIqUqEqOqQAqXAqFAqGGAqEE",
     "jSUBJOINED LETTER WAz YAjLETTER TTAsHAqDDAqNNAqALTERNATE YAqVOICELESS SHA",
     "vD HAqASPIRATED FAjSUBJOINED LETTER RAlPERFIXED LETTER RAjLETTER CANDRABINDU",
     "jSINGLE HEAD MARKjDOUBLE HEAD MARKjMARK SHADoDOUBLE SHAD"]⟩,
   ⟨0xA880, ["aSAURASHTRA SIGN ANUSVARAqVISARGAlLETTER AtAsItIsUtUsVOCALIC Rz RRz Lz LLsE",
     "tEsAIsOtOsAUsKAtHAsGAtHAsNGAsCAtHAsJAtHAsNYAsTTAuHAsDDAuHAsNNAsTAtHAsDAtHA",
     "sNAsPAtHAsBAtHAsMAsYAsRAsLAsVAsSHAtSAtAsHAsLLAlCONSONANT SIGN HAARU",
     "lVOWEL SIGN AAwIxIwUxUwVOCALIC RzALIC RRzALIC LzALIC LLwExEwAIwOxOwAU",
     "lSIGN VIRAMAqCANDRABINDU"]⟩,
   ⟨0xA8CE, ["aSAURASHTRA DANDAmOUBLE DANDAmIGIT ZEROrONErTWOsHREErFOURsIVErSIXsEVENrEIGHT",
     "rNINE"]⟩,
   ⟨0xA8E0, ["aCOMBINING DEVANAGARI DIGIT ZEROzT ONEzT TWOzT THREEzT FOURzT FIVEzT SIX",
     "zT SEVENzT EIGHTzT NINEvLETTER AzER UzER KAzER NAzER PAzER RAzER VI",
     "vSIGN AVAGRAHAaDEVANAGARI SIGN SPACING CANDRABINDUqCANDRABINDU VIRAMA",
     "qDOUBLE CANDRABINDU VIRAMAqCANDRABINDU TWOzDU THREEzDU AVAGRAHAqPUSHPIKA",
     "lGAP FILLERlCARETlHEADSTROKElSIGN SIDDHAMlJAIN OMlLETTER AYlVOWEL SIGN AY",
     "aKAYAH LI DIGIT ZEROpONEpTWOqHREEpFOURqIVEpSIXqEVENpEIGHTpNINEjLETTER KArHA",
     "qGAqNGAqSArHAqZAqNYAqTAqHTAqNAqPArHAqMAqDAqBAqRAqYAqLAqWAqTHAqHAqVAqCAqAqOE",
     "qIqOOjVOWEL UEpEpUpEEpOjTONE PLOPHUoCALYAt PLOPHUjSIGN CWIoSHYA",
     "aREJANG LETTER KAoGAoNGAoTAoDAoNAoPAoBAoMAoCAoJAoNYAoSAoRAoLAoYAoWAoHAoMBA",
     "oNGGApDApYJAoAhVOWEL SIGN IsUsEsAIsOsAUsEUtAhCONSONANT SIGN NGxwRwHhVIRAMA"]⟩,
   ⟨0xA95F, ["aREJANG SECTION MARKaHANGUL CHOSEONG TIKEUT-MIEUMxPIEUPxSIOSxCIEUC",
     "qRIEUL-KIYEOKwSSANGKIYEOKwTIKEUTwSSANGTIKEUTwMIEUMwPIEUPwSSANGPIEUP",
     "wKAPYEOUNPIEUPwSIOSwCIEUCwKHIEUKHqMIEUM-KIYEOKwTIKEUTwSIOS",
     "qPIEUP-SIOS-THIEUTHwKHIEUKHwHIEUHqSSANGSIOS-PIEUPqIEUNG-RIEULwHIEUH",
     "qSSANGCIEUC-HIEUHvTHIEUTHqPHIEUPH-HIEUHqHIEUH-SIOSqSSANGYEORINHIEUH"]⟩,
   ⟨0xA980, ["aJAVANESE SIGN PANYANGGAoCECAKoLAYARoWIGNYANjLETTER AqI KAWIrrIqUqPA CEREK",
     "qNGA LELETz RASWADIqEqAIqOqKAs SASAKtMURDAqGAs MURDAqNGAqCAs MURDAqJA",
     "qNYA MURDAqJA MAHAPRANAqNYAqTTAt MAHAPRANAqDDAt MAHAPRANAqNA MURDAqTAs MURDA",
     "qDAs MAHAPRANAqNAqPAs MURDAqBAs MURDAqMAqYAqRAs AGUNGqLAqWAqSA MURDA",
     "uAHAPRANAsqHAjSIGN CECAK TELUjVOWEL SIGN TARUNGvOLONGuWULUy MELIKuSUKU",
     "y MENDUTuTALINGuDIRGA MUREuPEPETjCONSONANT SIGN KERETyPENGKALyCAKRAjPANGKON",
     "jLEFT RERENGGANjRIGHT RERENGGANjPADA ANDAPoMADYAoLUHURoWINDUoPANGKAToLINGSA",
     "pUNGSIoADEGs ADEGoPISELEHjTURNED PADA PISELEH"]⟩,
   ⟨0xA9CF, ["aJAVANESE PANGRANGKEPjDIGIT ZEROpONEpTWOqHREEpFOURqIVEpSIXqEVENpEIGHTpNINE"]⟩,
   ⟨0xA9DE, ["aJAVANESE PADA TIRTA TUMETESoISEN-ISENaMYANMAR LETTER SHAN GHAuCHAuJHAuNNA",
     "uBHAiSIGN SHAN SAWiMODIFIER LETTER SHAN REDUPLICATIONiLETTER TAI LAING NYA",
     "zFAzGAzGHAzJAzJHAzDDAzDDHAzNNAiTAI LAING DIGIT ZEROyONEyTWOzHREEyFOURzIVE",
     "ySIXzEVENyEIGHTyNINEiLETTER TAI LAING LLAzDAzDHAzBAzBHA"]⟩,
   ⟨0xAA00, ["aCHAM LETTER AmImUmEmAImOmKAnHAmGAnHAmNGUEoAmCHAoHAmJAnHAmNHUEoAoJAmTAnHAmDA",
     "nHAmNUEnAmDDAmPAnPAnHAmBAnHAmMUEnAmBBAmYAmRAmLAmVAmSSAnAmHAfVOWEL SIGN AAqI",
     "rIqEIqUqOErqAIrUqUEfCONSONANT SIGN YAuRAuLAuWA"]⟩,
   ⟨0xAA40, ["aCHAM LETTER FINAL KsGsNGfCONSONANT SIGN FINAL NGfLETTER FINAL CHsTsNsPsYsR",
     "sLsSSfCONSONANT SIGN FINAL Mz H"]⟩,
   ⟨0xAA50, ["aCHAM DIGIT ZEROlONElTWOmHREElFOURmIVElSIXmEVENlEIGHTlNINE"]⟩,
   ⟨0xAA5C, ["aCHAM PUNCTUATION SPIRALrDANDAsOUBLE DANDArTRIPLE DANDA",
     "aMYANMAR LETTER KHAMTI GAwCAxHAwJAxHAwNYAwTTAyHAwDDAyHAxHAwNAwSAwHAxHAwFA",
     "iMODIFIER LETTER KHAMTI REDUPLICATIONiLETTER KHAMTI XAwZAwRA",
     "jOGOGRAM KHAMTI OAYyQNyHMiSYMBOL AITON EXCLAMATIONvONEvTWOiLETTER AITON RA",
     "iSIGN PAO KAREN TONEnTAI LAING TONE-2zNE-5iLETTER SHWE PALAUNG CHAzNG SHA",
     "aTAI VIET LETTER LOW KOqHIGH KOqLOW KHOqHIGH KHOqLOW KHHOqHIGH KHHOqLOW GO",
     "qHIGH GOqLOW NGOqHIGH NGOqLOW COqHIGH COqLOW CHOqHIGH CHOqLOW SOqHIGH SO",
     "qLOW NYOqHIGH NYOqLOW DOqHIGH DOqLOW TOqHIGH TOqLOW THOqHIGH THOqLOW NO",
     "qHIGH NOqLOW BOqHIGH BOqLOW POqHIGH POqLOW PHOqHIGH PHOqLOW FOqHIGH FO",
     "qLOW MOqHIGH MOqLOW YOqHIGH YOqLOW ROqHIGH ROqLOW LOqHIGH LOqLOW VOqHIGH VO",
     "qLOW HOqHIGH HOqLOW OqHIGH OjMAI KANGjVOWEL AApIpUEqpEpOjMAI KHITjVOWEL IA",
     "pUEAqApAUEqYqNqMjTONE MAI EKsNUENGsTHOsSONG"]⟩,
   ⟨0xAADB, ["aTAI VIET SYMBOL KONqNUENGqSAMqHO HOIqKOI KOIaMEETEI MAYEK LETTER EuOuCHA",
     "uNYAuTTAwHAuDDAwHAuNNAuSHAvSAnVOWEL SIGN IIyUUyAAIzUzAUnCHEIKHAN",
     "nAHANG KHUDAMoNJInSYLLABLE REPETITION MARKnWORD REPETITION MARK",
     "nVOWEL SIGN VISARGAoIRAMA"]⟩,
   ⟨0xAB01, ["aETHIOPIC SYLLABLE TTHUvIvAAvEEwvO"]⟩,
   ⟨0xAB09, ["aETHIOPIC SYLLABLE DDHUvIvAAvEEwvO"]⟩,
   ⟨0xAB11, ["aETHIOPIC SYLLABLE DZUuIuAAuEEvuO"]⟩,
   ⟨0xAB20, ["aETHIOPIC SYLLABLE CCHHAwUwIwAAwEExwO"]⟩,
   ⟨0xAB28, ["aETHIOPIC SYLLABLE BBAuUuIuAAuEEvuO"]⟩,
   ⟨0xAB30, ["aLATIN SMALL LETTER BARRED ALPHAtA REVERSED-SCHWAtBLACKLETTER EuARRED E",
     "tE WITH FLOURISHtLENIS FtSCRIPT G WITH CROSSED-TAILtL WITH INVERTED LAZY S",
     "z DOUBLE MIDDLE TILDEz MIDDLE RINGtM WITH CROSSED-TAILtN WITH CROSSED-TAIL",
     "tENG WITH CROSSED-TAILtBLACKLETTER OzETTER O WITH STROKEtOPEN O WITH STROKE",
     "tINVERTED OEtTURNED OE WITH STROKEz OE WITH HORIZONTAL STROKEz O OPEN-O",
     "z O OPEN-O WITH STROKEtSTIRRUP RgLETTER SMALL CAPITAL R WITH RIGHT LEG",
     "gSMALL LETTER R WITHOUT HANDLEtDOUBLE RtR WITH CROSSED-TAIL",
     "tDOUBLE R WITH CROSSED-TAILtSCRIPT Rz R WITH RINGtBASELINE ESH",
     "tU WITH SHORT RIGHT LEGvBAR WITH SHORT RIGHT LEGuItTURNED UI",
     "tU WITH LEFT HOOKtCHIw WITH LOW RIGHT RINGzTH LOW LEFT SERIF",
     "tX WITH LOW RIGHT RINGz LONG LEFT LEGz LONG LEFT LEG AND LOW RIGHT RING",
     "z LONG LEFT LEG WITH SERIFtY WITH SHORT RIGHT LEG",
     "aMODIFIER BREVE WITH INVERTED BREVEjLETTER SMALL HENGwL WITH INVERTED LAZY S",
     "zITH MIDDLE TILDEwU WITH LEFT HOOKaLATIN SMALL LETTER SAKHA YATtIOTIFIED E",
     "tOPEN OEtUOtINVERTED ALPHAaGREEK LETTER SMALL CAPITAL OMEGA",
     "aLATIN SMALL LETTER DZ DIGRAPH WITH RETROFLEX HOOK",
     "tTS DIGRAPH WITH RETROFLEX HOOKuURNED R WITH MIDDLE TILDE",
     "aMODIFIER LETTER SMALL TURNED WqLEFT TACKqRIGHT TACK"]⟩,
   ⟨0xAB70, ["aCHEROKEE SMALL LETTER AwEwIwOwUwVwGAwKAwGExIxOxUxVwHAxExIxOxUxVwLAxExIxOxU",
     "xVwMAxExIxOxUwNAwHNAwNAHxExIxOxUxVwQUAyEyIyOyUyVwSAxxExIxOxUxVwDAwTAwDEwTE",
     "wDIwTIwDOxUxVxLAwTLAyEyIyOyUyVxSAyEyIyOyUyVwWAxExIxOxUxVwYA",
     "aMEETEI MAYEK LETTER KOKuSAMuLAIuMITuPAuNAuCHILuTILuKHOUuNGOUuTHOUuWAIuYANG",
     "uHUKuUNuIuPHAMuATIYAuGOKuJHAMuRAIuBAuJILuDILuGHOUuDHOUuBHAMuKOK LONSUM",
     "uLAI LONSUMuMIT LONSUMuPA LONSUMuNA LONSUMuTIL LONSUMuNGOU LONSUMuI LONSUM",
     "nVOWEL SIGN ONAPyINAPyANAPyYENAPySOUNAPyUNAPyCHEINAPyNUNGnCHEIKHEInLUM IYEK",
     "nAPUN IYEK"]⟩,
   ⟨0xABF0, ["aMEETEI MAYEK DIGIT ZEROtONEtTWOuHREEtFOURuIVEtSIXuEVENtEIGHTtNINE"]⟩,
   ⟨0xD7B0, ["aHANGUL JUNGSEONG O-YEOtO-IrYO-AvEuEOrU-YEOtI-IrYU-AEuOrEU-AuEOvuOrI-YA-OvE",
     "uEOvtO-ItYOuUtIrARAEA-AxE"]⟩,
   ⟨0xD7CB, ["aHANGUL JONGSEONG NIEUN-RIEULxCHIEUCHrSSANGTIKEUTzEUT-PIEUPrTIKEUT-PIEUP",
     "ySIOSzIOS-KIYEOKyCIEUCzHIEUCHyTHIEUTHrRIEUL-SSANGKIYEOKxKIYEOK-HIEUH",
     "rSSANGRIEUL-KHIEUKHrRIEUL-MIEUM-HIEUHxPIEUP-TIKEUTzEUP-PHIEUPHxYESIEUNG",
     "zORINHIEUH-HIEUHrKAPYEOUNRIEULrMIEUM-NIEUNxSSANGNIEUNrSSANGMIEUM",
     "rMIEUM-PIEUP-SIOSxCIEUCrPIEUP-TIKEUTxRIEUL-PHIEUPHxMIEUMrSSANGPIEUP",
     "rPIEUP-SIOS-TIKEUTxCIEUCyHIEUCHrSIOS-MIEUMwKAPYEOUNPIEUPsSANGSIOS-KIYEOK",
     "zS-TIKEUTsIOS-PANSIOSwCIEUCxHIEUCHwTHIEUTHwHIEUHrPANSIOS-PIEUPzKAPYEOUNPIEUP",
     "rYESIEUNG-MIEUMz-HIEUHrCIEUC-PIEUPxSSANGPIEUPrSSANGCIEUCrPHIEUPH-SIOS",
     "zTHIEUTH"]⟩,
   ⟨0xFB00, ["aLATIN SMALL LIGATURE FFwIwLwFIxLvLONG S TvST"]⟩,
   ⟨0xFB13, ["aARMENIAN SMALL LIGATURE MEN NOWzEN ECHzEN INIyVEW NOWyMEN XEH"]⟩,
   ⟨0xFB1D, ["aHEBREW LETTER YOD WITH HIRIQhPOINT JUDEO-SPANISH VARIKA",
     "hLIGATURE YIDDISH YOD YOD PATAHiETTER ALTERNATIVE AYINoWIDE ALEFtDALETtHE",
     "tKAFtLAMEDtFINAL MEMtRESHtTAVoALTERNATIVE PLUS SIGNoSHIN WITH SHIN DOT",
     "zIN DOTyDAGESH AND SHIN DOTzAGESH AND SIN DOToALEF WITH PATAHyQAMATSyMAPIQ",
     "oBET WITH DAGESHoGIMEL WITH DAGESHoDALET WITH DAGESHoHE WITH MAPIQ",
     "oVAV WITH DAGESHoZAYIN WITH DAGESH"]⟩,
   ⟨0xFB38, ["aHEBREW LETTER TET WITH DAGESHoYOD WITH DAGESHoFINAL KAF WITH DAGESH",
     "oKAF WITH DAGESHoLAMED WITH DAGESH"]⟩,
   ⟨0xFB3E, ["aHEBREW LETTER MEM WITH DAGESH"]⟩,
   ⟨0xFB40, ["aHEBREW LETTER NUN WITH DAGESHoSAMEKH WITH DAGESH"]⟩,
   ⟨0xFB43, ["aHEBREW LETTER FINAL PE WITH DAGESHoPE WITH DAGESH"]⟩,
   ⟨0xFB46, ["aHEBREW LETTER TSADI WITH DAGESHoQOF WITH DAGESHoRESH WITH DAGESH",
     "oSHIN WITH DAGESHoTAV WITH DAGESHoVAV WITH HOLAMoBET WITH RAFEoKAF WITH RAFE",
     "oPE WITH RAFEiIGATURE ALEF LAMEDaARABIC LETTER ALEF WASLA ISOLATED FORM",
     "zFINAL FORMoBEEH ISOLATED FORMtFINAL FORMtINITIAL FORMtMEDIAL FORM",
     "oPEH ISOLATED FORMsFINAL FORMsINITIAL FORMsMEDIAL FORMoBEHEH ISOLATED FORM",
     "uFINAL FORMuINITIAL FORMuMEDIAL FORMoTTEHEH ISOLATED FORMvFINAL FORM",
     "vINITIAL FORMvMEDIAL FORMpEHEH ISOLATED FORMuFINAL FORMuINITIAL FORM",
     "uMEDIAL FORMpTEH ISOLATED FORMtFINAL FORMtINITIAL FORMtMEDIAL FORM",
     "oVEH ISOLATED FORMsFINAL FORMsINITIAL FORMsMEDIAL FORMoPEHEH ISOLATED FORM",
     "uFINAL FORMuINITIAL FORMuMEDIAL FORMoDYEH ISOLATED FORMtFINAL FORM",
     "tINITIAL FORMtMEDIAL FORMoNYEH ISOLATED FORMtFINAL FORMtINITIAL FORM",
     "tMEDIAL FORMoTCHEH ISOLATED FORMuFINAL FORMuINITIAL FORMuMEDIAL FORM",
     "tEH ISOLATED FORMwFINAL FORMwINITIAL FORMwMEDIAL FORMoDDAHAL ISOLATED FORM",
     "vFINAL FORMpAHAL ISOLATED FORMuFINAL FORMpUL ISOLATED FORMsFINAL FORM",
     "pDAL ISOLATED FORMtFINAL FORMoJEH ISOLATED FORMsFINAL FORM",
     "oRREH ISOLATED FORMtFINAL FORMoKEHEH ISOLATED FORMuFINAL FORMuINITIAL FORM",
     "uMEDIAL FORMoGAF ISOLATED FORMsFINAL FORMsINITIAL FORMsMEDIAL FORM",
     "pUEH ISOLATED FORMtFINAL FORMtINITIAL FORMtMEDIAL FORMoNGOEH ISOLATED FORM",
     "uFINAL FORMuINITIAL FORMuMEDIAL FORMpOON GHUNNA ISOLATED FORMz FINAL FORM",
     "oRNOON ISOLATED FORMuFINAL FORMuINITIAL FORMuMEDIAL FORM",
     "oHEH WITH YEH ABOVE ISOLATED FORMzH ABOVE FINAL FORMsGOAL ISOLATED FORM",
     "xFINAL FORMxINITIAL FORMxMEDIAL FORMsDOACHASHMEE ISOLATED FORM",
     "zHMEE FINAL FORMzHMEE INITIAL FORMzHMEE MEDIAL FORMoYEH BARREE ISOLATED FORM",
     "zFINAL FORMzWITH HAMZA ABOVE ISOLATED FORMzWITH HAMZA ABOVE FINAL FORM",
     "hSYMBOL DOT ABOVEsBELOWoTWO DOTS ABOVExBELOWpHREE DOTS ABOVEzBELOW",
     "zPOINTING DOWNWARDS ABOVEzPOINTING DOWNWARDS BELOWoFOUR DOTS ABOVEyBELOW",
     "oDOUBLE VERTICAL BAR BELOWoTWO DOTS VERTICALLY ABOVEzRTICALLY BELOWoRING",
     "oSMALL TAH ABOVEyBELOWoWASLA ABOVE"]⟩,
   ⟨0xFBD3, ["aARABIC LETTER NG ISOLATED FORMrFINAL FORMrINITIAL FORMrMEDIAL FORM",
     "oU ISOLATED FORMqFINAL FORMoOE ISOLATED FORMrFINAL FORMoYU ISOLATED FORM",
     "rFINAL FORMoU WITH HAMZA ABOVE ISOLATED FORMoVE ISOLATED FORMrFINAL FORM",
     "oKIRGHIZ OE ISOLATED FORMzFINAL FORMwYU ISOLATED FORMzFINAL FORM",
     "oE ISOLATED FORMqFINAL FORMqINITIAL FORMqMEDIAL FORM",
     "oUIGHUR KAZAKH KIRGHIZ ALEF MAKSURA INITIAL FORM",
     "zKH KIRGHIZ ALEF MAKSURA MEDIAL FORM",
     "iIGATURE YEH WITH HAMZA ABOVE WITH ALEF ISOLATED FORM",
     "zHAMZA ABOVE WITH ALEF FINAL FORMzHAMZA ABOVE WITH AE ISOLATED FORM",
     "zHAMZA ABOVE WITH AE FINAL FORMzHAMZA ABOVE WITH WAW ISOLATED FORM",
     "zHAMZA ABOVE WITH WAW FINAL FORMzHAMZA ABOVE WITH U ISOLATED FORM",
     "zHAMZA ABOVE WITH U FINAL FORMzHAMZA ABOVE WITH OE ISOLATED FORM",
     "zHAMZA ABOVE WITH OE FINAL FORMzHAMZA ABOVE WITH YU ISOLATED FORM",
     "zHAMZA ABOVE WITH YU FINAL FORMzHAMZA ABOVE WITH E ISOLATED FORM",
     "zHAMZA ABOVE WITH E FINAL FORMzHAMZA ABOVE WITH E INITIAL FORM",
     "qUIGHUR KIRGHIZ YEH WITH HAMZA ABOVE WITH ALEF MAKSURA ISOLATED FORM",
     "zRGHIZ YEH WITH HAMZA ABOVE WITH ALEF MAKSURA FINAL FORM",
     "zRGHIZ YEH WITH HAMZA ABOVE WITH ALEF MAKSURA INITIAL FORM",
     "iETTER FARSI YEH ISOLATED FORMyFINAL FORMyINITIAL FORMyMEDIAL FORM",
     "iIGATURE YEH WITH HAMZA ABOVE WITH JEEM ISOLATED FORM",
     "zHAMZA ABOVE WITH HAH ISOLATED FORMzHAMZA ABOVE WITH MEEM ISOLATED FORM",
     "zHAMZA ABOVE WITH ALEF MAKSURA ISOLATED FORM",
     "zHAMZA ABOVE WITH YEH ISOLATED FORMqBEH WITH JEEM ISOLATED FORM",
     "zHAH ISOLATED FORMzKHAH ISOLATED FORMzMEEM ISOLATED FORM",
     "zALEF MAKSURA ISOLATED FORMzYEH ISOLATED FORMqTEH WITH JEEM ISOLATED FORM",
     "zHAH ISOLATED FORMzKHAH ISOLATED FORMzMEEM ISOLATED FORM",
     "zALEF MAKSURA ISOLATED FORMzYEH ISOLATED FORMrHEH WITH JEEM ISOLATED FORM",
     "z MEEM ISOLATED FORMz ALEF MAKSURA ISOLATED FORMz YEH ISOLATED FORM",
     "qJEEM WITH HAH ISOLATED FORMz MEEM ISOLATED FORMqHAH WITH JEEM ISOLATED FORM",
     "zMEEM ISOLATED FORMqKHAH WITH JEEM ISOLATED FORMz HAH ISOLATED FORM",
     "z MEEM ISOLATED FORMqSEEN WITH JEEM ISOLATED FORMz HAH ISOLATED FORM",
     "z KHAH ISOLATED FORMz MEEM ISOLATED FORMrAD WITH HAH ISOLATED FORM",
     "zMEEM ISOLATED FORMqDAD WITH JEEM ISOLATED FORMzHAH ISOLATED FORM",
     "zKHAH ISOLATED FORMzMEEM ISOLATED FORMqTAH WITH HAH ISOLATED FORM",
     "zMEEM ISOLATED FORMqZAH WITH MEEM ISOLATED FORMqAIN WITH JEEM ISOLATED FORM",
     "zMEEM ISOLATED FORMqGHAIN WITH JEEM ISOLATED FORMzH MEEM ISOLATED FORM",
     "qFEH WITH JEEM ISOLATED FORMzHAH ISOLATED FORMzKHAH ISOLATED FORM",
     "zMEEM ISOLATED FORMzALEF MAKSURA ISOLATED FORMzYEH ISOLATED FORM",
     "qQAF WITH HAH ISOLATED FORMzMEEM ISOLATED FORMzALEF MAKSURA ISOLATED FORM",
     "zYEH ISOLATED FORMqKAF WITH ALEF ISOLATED FORMzJEEM ISOLATED FORM",
     "zHAH ISOLATED FORMzKHAH ISOLATED FORMzLAM ISOLATED FORMzMEEM ISOLATED FORM",
     "zALEF MAKSURA ISOLATED FORMzYEH ISOLATED FORMqLAM WITH JEEM ISOLATED FORM",
     "zHAH ISOLATED FORMzKHAH ISOLATED FORMzMEEM ISOLATED FORM",
     "zALEF MAKSURA ISOLATED FORMzYEH ISOLATED FORMqMEEM WITH JEEM ISOLATED FORM",
     "z HAH ISOLATED FORMz KHAH ISOLATED FORMz MEEM ISOLATED FORM",
     "z ALEF MAKSURA ISOLATED FORMz YEH ISOLATED FORMqNOON WITH JEEM ISOLATED FORM",
     "z HAH ISOLATED FORMz KHAH ISOLATED FORMz MEEM ISOLATED FORM",
     "z ALEF MAKSURA ISOLATED FORMz YEH ISOLATED FORMqHEH WITH JEEM ISOLATED FORM",
     "zMEEM ISOLATED FORMzALEF MAKSURA ISOLATED FORMzYEH ISOLATED FORM",
     "qYEH WITH JEEM ISOLATED FORMzHAH ISOLATED FORMzKHAH ISOLATED FORM",
     "zMEEM ISOLATED FORMzALEF MAKSURA ISOLATED FORMzYEH ISOLATED FORM",
     "qTHAL WITH SUPERSCRIPT ALEF ISOLATED FORM",
     "qREH WITH SUPERSCRIPT ALEF ISOLATED FORM",
     "qALEF MAKSURA WITH SUPERSCRIPT ALEF ISOLATED FORM",
     "qSHADDA WITH DAMMATAN ISOLATED FORMzTH KASRATAN ISOLATED FORM",
     "zTH FATHA ISOLATED FORMzTH DAMMA ISOLATED FORMzTH KASRA ISOLATED FORM",
     "zTH SUPERSCRIPT ALEF ISOLATED FORMqYEH WITH HAMZA ABOVE WITH REH FINAL FORM",
     "zHAMZA ABOVE WITH ZAIN FINAL FORMzHAMZA ABOVE WITH MEEM FINAL FORM",
     "zHAMZA ABOVE WITH NOON FINAL FORMzHAMZA ABOVE WITH ALEF MAKSURA FINAL FORM",
     "zHAMZA ABOVE WITH YEH FINAL FORMqBEH WITH REH FINAL FORMzZAIN FINAL FORM",
     "zMEEM FINAL FORMzNOON FINAL FORMzALEF MAKSURA FINAL FORMzYEH FINAL FORM",
     "qTEH WITH REH FINAL FORMzZAIN FINAL FORMzMEEM FINAL FORMzNOON FINAL FORM",
     "zALEF MAKSURA FINAL FORMzYEH FINAL FORMrHEH WITH REH FINAL FORM",
     "z ZAIN FINAL FORMz MEEM FINAL FORMz NOON FINAL FORMz ALEF MAKSURA FINAL FORM",
     "z YEH FINAL FORMqFEH WITH ALEF MAKSURA FINAL FORMzYEH FINAL FORM",
     "qQAF WITH ALEF MAKSURA FINAL FORMzYEH FINAL FORMqKAF WITH ALEF FINAL FORM",
     "zLAM FINAL FORMzMEEM FINAL FORMzALEF MAKSURA FINAL FORMzYEH FINAL FORM",
     "qLAM WITH MEEM FINAL FORMzALEF MAKSURA FINAL FORMzYEH FINAL FORM",
     "qMEEM WITH ALEF FINAL FORMz MEEM FINAL FORMqNOON WITH REH FINAL FORM",
     "z ZAIN FINAL FORMz MEEM FINAL FORMz NOON FINAL FORMz ALEF MAKSURA FINAL FORM",
     "z YEH FINAL FORMqALEF MAKSURA WITH SUPERSCRIPT ALEF FINAL FORM",
     "qYEH WITH REH FINAL FORMzZAIN FINAL FORMzMEEM FINAL FORMzNOON FINAL FORM",
     "zALEF MAKSURA FINAL FORMzYEH FINAL FORMzHAMZA ABOVE WITH JEEM INITIAL FORM",
     "zHAMZA ABOVE WITH HAH INITIAL FORMzHAMZA ABOVE WITH KHAH INITIAL FORM",
     "zHAMZA ABOVE WITH MEEM INITIAL FORMzHAMZA ABOVE WITH HEH INITIAL FORM",
     "qBEH WITH JEEM INITIAL FORMzHAH INITIAL FORMzKHAH INITIAL FORM",
     "zMEEM INITIAL FORMzHEH INITIAL FORMqTEH WITH JEEM INITIAL FORM",
     "zHAH INITIAL FORMzKHAH INITIAL FORMzMEEM INITIAL FORMzHEH INITIAL FORM",
     "rHEH WITH MEEM INITIAL FORMqJEEM WITH HAH INITIAL FORMz MEEM INITIAL FORM",
     "qHAH WITH JEEM INITIAL FORMzMEEM INITIAL FORMqKHAH WITH JEEM INITIAL FORM",
     "z MEEM INITIAL FORMqSEEN WITH JEEM INITIAL FORMz HAH INITIAL FORM",
     "z KHAH INITIAL FORMz MEEM INITIAL FORMrAD WITH HAH INITIAL FORM",
     "zKHAH INITIAL FORMzMEEM INITIAL FORMqDAD WITH JEEM INITIAL FORM",
     "zHAH INITIAL FORMzKHAH INITIAL FORMzMEEM INITIAL FORM",
     "qTAH WITH HAH INITIAL FORMqZAH WITH MEEM INITIAL FORM",
     "qAIN WITH JEEM INITIAL FORMzMEEM INITIAL FORMqGHAIN WITH JEEM INITIAL FORM",
     "zH MEEM INITIAL FORMqFEH WITH JEEM INITIAL FORMzHAH INITIAL FORM",
     "zKHAH INITIAL FORMzMEEM INITIAL FORMqQAF WITH HAH INITIAL FORM",
     "zMEEM INITIAL FORMqKAF WITH JEEM INITIAL FORMzHAH INITIAL FORM",
     "zKHAH INITIAL FORMzLAM INITIAL FORMzMEEM INITIAL FORM",
     "qLAM WITH JEEM INITIAL FORMzHAH INITIAL FORMzKHAH INITIAL FORM",
     "zMEEM INITIAL FORMzHEH INITIAL FORMqMEEM WITH JEEM INITIAL FORM",
     "z HAH INITIAL FORMz KHAH INITIAL FORMz MEEM INITIAL FORM",
     "qNOON WITH JEEM INITIAL FORMz HAH INITIAL FORMz KHAH INITIAL FORM",
     "z MEEM INITIAL FORMz HEH INITIAL FORMqHEH WITH JEEM INITIAL FORM",
     "zMEEM INITIAL FORMzSUPERSCRIPT ALEF INITIAL FORMqYEH WITH JEEM INITIAL FORM",
     "zHAH INITIAL FORMzKHAH INITIAL FORMzMEEM INITIAL FORMzHEH INITIAL FORM",
     "zHAMZA ABOVE WITH MEEM MEDIAL FORMzHAMZA ABOVE WITH HEH MEDIAL FORM",
     "qBEH WITH MEEM MEDIAL FORMzHEH MEDIAL FORMqTEH WITH MEEM MEDIAL FORM",
     "zHEH MEDIAL FORMrHEH WITH MEEM MEDIAL FORMz HEH MEDIAL FORM",
     "qSEEN WITH MEEM MEDIAL FORMz HEH MEDIAL FORMrHEEN WITH MEEM MEDIAL FORM",
     "zH HEH MEDIAL FORMqKAF WITH LAM MEDIAL FORMzMEEM MEDIAL FORM",
     "qLAM WITH MEEM MEDIAL FORMqNOON WITH MEEM MEDIAL FORMz HEH MEDIAL FORM",
     "qYEH WITH MEEM MEDIAL FORMzHEH MEDIAL FORMqSHADDA WITH FATHA MEDIAL FORM",
     "zTH DAMMA MEDIAL FORMzTH KASRA MEDIAL FORM",
     "qTAH WITH ALEF MAKSURA ISOLATED FORMzYEH ISOLATED FORM",
     "qAIN WITH ALEF MAKSURA ISOLATED FORMzYEH ISOLATED FORM",
     "qGHAIN WITH ALEF MAKSURA ISOLATED FORMzH YEH ISOLATED FORM",
     "qSEEN WITH ALEF MAKSURA ISOLATED FORMz YEH ISOLATED FORM",
     "rHEEN WITH ALEF MAKSURA ISOLATED FORMzH YEH ISOLATED FORM",
     "qHAH WITH ALEF MAKSURA ISOLATED FORMzYEH ISOLATED FORM",
     "qJEEM WITH ALEF MAKSURA ISOLATED FORMz YEH ISOLATED FORM",
     "qKHAH WITH ALEF MAKSURA ISOLATED FORMz YEH ISOLATED FORM",
     "qSAD WITH ALEF MAKSURA ISOLATED FORMzYEH ISOLATED FORM",
     "qDAD WITH ALEF MAKSURA ISOLATED FORMzYEH ISOLATED FORM",
     "qSHEEN WITH JEEM ISOLATED FORMzH HAH ISOLATED FORMzH KHAH ISOLATED FORM",
     "zH MEEM ISOLATED FORMzH REH ISOLATED FORMrEEN WITH REH ISOLATED FORM",
     "rAD WITH REH ISOLATED FORMqDAD WITH REH ISOLATED FORM",
     "qTAH WITH ALEF MAKSURA FINAL FORMzYEH FINAL FORM",
     "qAIN WITH ALEF MAKSURA FINAL FORMzYEH FINAL FORM",
     "qGHAIN WITH ALEF MAKSURA FINAL FORMzH YEH FINAL FORM",
     "qSEEN WITH ALEF MAKSURA FINAL FORMz YEH FINAL FORM",
     "rHEEN WITH ALEF MAKSURA FINAL FORMzH YEH FINAL FORM",
     "qHAH WITH ALEF MAKSURA FINAL FORMzYEH FINAL FORM",
     "qJEEM WITH ALEF MAKSURA FINAL FORMz YEH FINAL FORM",
     "qKHAH WITH ALEF MAKSURA FINAL FORMz YEH FINAL FORM",
     "qSAD WITH ALEF MAKSURA FINAL FORMzYEH FINAL FORM",
     "qDAD WITH ALEF MAKSURA FINAL FORMzYEH FINAL FORMqSHEEN WITH JEEM FINAL FORM",
     "zH HAH FINAL FORMzH KHAH FINAL FORMzH MEEM FINAL FORMzH REH FINAL FORM",
     "rEEN WITH REH FINAL FORMrAD WITH REH FINAL FORMqDAD WITH REH FINAL FORM",
     "qSHEEN WITH JEEM INITIAL FORMzH HAH INITIAL FORMzH KHAH INITIAL FORM",
     "zH MEEM INITIAL FORMrEEN WITH HEH INITIAL FORMrHEEN WITH HEH INITIAL FORM",
     "qTAH WITH MEEM INITIAL FORMqSEEN WITH JEEM MEDIAL FORMz HAH MEDIAL FORM",
     "z KHAH MEDIAL FORMrHEEN WITH JEEM MEDIAL FORMzH HAH MEDIAL FORM",
     "zH KHAH MEDIAL FORMqTAH WITH MEEM MEDIAL FORMqZAH WITH MEEM MEDIAL FORM",
     "qALEF WITH FATHATAN FINAL FORMz FATHATAN ISOLATED FORM",
     "aORNATE LEFT PARENTHESIShRIGHT PARENTHESISaARABIC LIGATURE RAHIMAHU ALLAAH",
     "sDI ALLAAHU ANHzAHU ANHAAzAHU ANHUMzAHU ANHUMAAzAHU ANHUNNA",
     "qSALLALLAAHU ALAYHI WA-AALIHqALAYHI AS-SALAAMwM AS-SALAAMxAA AS-SALAAM",
     "w AS-SALAATU WAS-SALAAMqQUDDISA SIRRAHqSALLALLAHU ALAYHI WAAALIHEE WA-SALLAM",
     "qALAYHAA AS-SALAAMqTABAARAKA WA-TAAALAAqRAHIMAHUM ALLAAH",
     "qTEH WITH JEEM WITH MEEM INITIAL FORMzHAH WITH JEEM FINAL FORM",
     "zHAH WITH JEEM INITIAL FORMzHAH WITH MEEM INITIAL FORM",
     "zKHAH WITH MEEM INITIAL FORMzMEEM WITH JEEM INITIAL FORM",
     "zMEEM WITH HAH INITIAL FORMzMEEM WITH KHAH INITIAL FORM",
     "qJEEM WITH MEEM WITH HAH FINAL FORMz MEEM WITH HAH INITIAL FORM",
     "qHAH WITH MEEM WITH YEH FINAL FORMzMEEM WITH ALEF MAKSURA FINAL FORM",
     "qSEEN WITH HAH WITH JEEM INITIAL FORMz JEEM WITH HAH INITIAL FORM",
     "z JEEM WITH ALEF MAKSURA FINAL FORMz MEEM WITH HAH FINAL FORM",
     "z MEEM WITH HAH INITIAL FORMz MEEM WITH JEEM INITIAL FORM",
     "z MEEM WITH MEEM FINAL FORMz MEEM WITH MEEM INITIAL FORM",
     "rAD WITH HAH WITH HAH FINAL FORMzHAH WITH HAH INITIAL FORM",
     "zMEEM WITH MEEM FINAL FORMrHEEN WITH HAH WITH MEEM FINAL FORM",
     "zH HAH WITH MEEM INITIAL FORMzH JEEM WITH YEH FINAL FORM",
     "zH MEEM WITH KHAH FINAL FORMzH MEEM WITH KHAH INITIAL FORM",
     "zH MEEM WITH MEEM FINAL FORMzH MEEM WITH MEEM INITIAL FORM",
     "qDAD WITH HAH WITH ALEF MAKSURA FINAL FORMzKHAH WITH MEEM FINAL FORM",
     "zKHAH WITH MEEM INITIAL FORMqTAH WITH MEEM WITH HAH FINAL FORM",
     "zMEEM WITH HAH INITIAL FORMzMEEM WITH MEEM INITIAL FORM",
     "zMEEM WITH YEH FINAL FORMqAIN WITH JEEM WITH MEEM FINAL FORM",
     "zMEEM WITH MEEM FINAL FORMzMEEM WITH MEEM INITIAL FORM",
     "zMEEM WITH ALEF MAKSURA FINAL FORMqGHAIN WITH MEEM WITH MEEM FINAL FORM",
     "zH MEEM WITH YEH FINAL FORMzH MEEM WITH ALEF MAKSURA FINAL FORM",
     "qFEH WITH KHAH WITH MEEM FINAL FORMzKHAH WITH MEEM INITIAL FORM",
     "qQAF WITH MEEM WITH HAH FINAL FORMzMEEM WITH MEEM FINAL FORM",
     "qLAM WITH HAH WITH MEEM FINAL FORMzHAH WITH YEH FINAL FORM",
     "zHAH WITH ALEF MAKSURA FINAL FORMzJEEM WITH JEEM INITIAL FORM",
     "zJEEM WITH JEEM FINAL FORMzKHAH WITH MEEM FINAL FORM",
     "zKHAH WITH MEEM INITIAL FORMzMEEM WITH HAH FINAL FORM",
     "zMEEM WITH HAH INITIAL FORMqMEEM WITH HAH WITH JEEM INITIAL FORM",
     "z HAH WITH MEEM INITIAL FORMz HAH WITH YEH FINAL FORM",
     "z JEEM WITH HAH INITIAL FORMz JEEM WITH MEEM INITIAL FORM",
     "z KHAH WITH JEEM INITIAL FORMz KHAH WITH MEEM INITIAL FORM"]⟩,
   ⟨0xFD92, ["aARABIC LIGATURE MEEM WITH JEEM WITH KHAH INITIAL FORM",
     "qHEH WITH MEEM WITH JEEM INITIAL FORMzMEEM WITH MEEM INITIAL FORM",
     "qNOON WITH HAH WITH MEEM INITIAL FORMz HAH WITH ALEF MAKSURA FINAL FORM",
     "z JEEM WITH MEEM FINAL FORMz JEEM WITH MEEM INITIAL FORM",
     "z JEEM WITH ALEF MAKSURA FINAL FORMz MEEM WITH YEH FINAL FORM",
     "z MEEM WITH ALEF MAKSURA FINAL FORMqYEH WITH MEEM WITH MEEM FINAL FORM",
     "zMEEM WITH MEEM INITIAL FORMqBEH WITH KHAH WITH YEH FINAL FORM",
     "qTEH WITH JEEM WITH YEH FINAL FORMzJEEM WITH ALEF MAKSURA FINAL FORM",
     "zKHAH WITH YEH FINAL FORMzKHAH WITH ALEF MAKSURA FINAL FORM",
     "zMEEM WITH YEH FINAL FORMzMEEM WITH ALEF MAKSURA FINAL FORM",
     "qJEEM WITH MEEM WITH YEH FINAL FORMz HAH WITH ALEF MAKSURA FINAL FORM",
     "z MEEM WITH ALEF MAKSURA FINAL FORM",
     "qSEEN WITH KHAH WITH ALEF MAKSURA FINAL FORMrAD WITH HAH WITH YEH FINAL FORM",
     "rHEEN WITH HAH WITH YEH FINAL FORMqDAD WITH HAH WITH YEH FINAL FORM",
     "qLAM WITH JEEM WITH YEH FINAL FORMzMEEM WITH YEH FINAL FORM",
     "qYEH WITH HAH WITH YEH FINAL FORMzJEEM WITH YEH FINAL FORM",
     "zMEEM WITH YEH FINAL FORMqMEEM WITH MEEM WITH YEH FINAL FORM",
     "qQAF WITH MEEM WITH YEH FINAL FORMqNOON WITH HAH WITH YEH FINAL FORM",
     "qQAF WITH MEEM WITH HAH INITIAL FORMqLAM WITH HAH WITH MEEM INITIAL FORM",
     "qAIN WITH MEEM WITH YEH FINAL FORMqKAF WITH MEEM WITH YEH FINAL FORM",
     "qNOON WITH JEEM WITH HAH INITIAL FORMqMEEM WITH KHAH WITH YEH FINAL FORM",
     "qLAM WITH JEEM WITH MEEM INITIAL FORMqKAF WITH MEEM WITH MEEM FINAL FORM",
     "qLAM WITH JEEM WITH MEEM FINAL FORMqNOON WITH JEEM WITH HAH FINAL FORM",
     "qJEEM WITH HAH WITH YEH FINAL FORMqHAH WITH JEEM WITH YEH FINAL FORM",
     "qMEEM WITH JEEM WITH YEH FINAL FORMqFEH WITH MEEM WITH YEH FINAL FORM",
     "qBEH WITH HAH WITH YEH FINAL FORMqKAF WITH MEEM WITH MEEM INITIAL FORM",
     "qAIN WITH JEEM WITH MEEM INITIAL FORMqSAD WITH MEEM WITH MEEM INITIAL FORM",
     "rEEN WITH KHAH WITH YEH FINAL FORMqNOON WITH JEEM WITH YEH FINAL FORM"]⟩,
   ⟨0xFDCF, ["aARABIC LIGATURE SALAAMUHU ALAYNAA"]⟩,
   ⟨0xFDF0, ["aARABIC LIGATURE SALLA USED AS KORANIC STOP SIGN ISOLATED FORM",
     "qQALA USED AS KORANIC STOP SIGN ISOLATED FORMqALLAH ISOLATED FORM",
     "rKBAR ISOLATED FORMqMOHAMMAD ISOLATED FORMqSALAM ISOLATED FORM",
     "qRASOUL ISOLATED FORMqALAYHE ISOLATED FORMqWASALLAM ISOLATED FORM",
     "qSALLA ISOLATED FORMvLLAHOU ALAYHE WASALLAMqJALLAJALALOUHOUaRIAL SIGN",
     "aARABIC LIGATURE BISMILLAH AR-RAHMAN AR-RAHEEMqSUBHAANAHU WA TAAALAA",
     "qAZZA WA JALLaVARIATION SELECTOR-1t2t3t4t5t6t7t8t9t10u1u2u3u4u5u6",
     "aPRESENTATION FORM FOR VERTICAL COMMAzTICAL IDEOGRAPHIC COMMA",
     "zTICAL IDEOGRAPHIC FULL STOPzTICAL COLONzTICAL SEMICOLON",
     "zTICAL EXCLAMATION MARKzTICAL QUESTION MARK",
     "zTICAL LEFT WHITE LENTICULAR BRACKETzTICAL RIGHT WHITE LENTICULAR BRAKCET",
     "zTICAL HORIZONTAL ELLIPSIS"]⟩,
   ⟨0xFE20, ["aCOMBINING LIGATURE LEFT HALFtRIGHT HALFkDOUBLE TILDE LEFT HALFxRIGHT HALF",
     "kMACRON LEFT HALFrRIGHT HALFkCONJOINING MACRONkLIGATURE LEFT HALF BELOW",
     "tRIGHT HALF BELOWkTILDE LEFT HALF BELOWqRIGHT HALF BELOW",
     "kMACRON LEFT HALF BELOWrRIGHT HALF BELOWkCONJOINING MACRON BELOW",
     "lYRILLIC TITLO LEFT HALFzRIGHT HALF",
     "aPRESENTATION FORM FOR VERTICAL TWO DOT LEADERzTICAL EM DASHzTICAL EN DASH",
     "zTICAL LOW LINEzTICAL WAVY LOW LINEzTICAL LEFT PARENTHESIS",
     "zTICAL RIGHT PARENTHESISzTICAL LEFT CURLY BRACKETzTICAL RIGHT CURLY BRACKET",
     "zTICAL LEFT TORTOISE SHELL BRACKETzTICAL RIGHT TORTOISE SHELL BRACKET",
     "zTICAL LEFT BLACK LENTICULAR BRACKETzTICAL RIGHT BLACK LENTICULAR BRACKET",
     "zTICAL LEFT DOUBLE ANGLE BRACKETzTICAL RIGHT DOUBLE ANGLE BRACKET",
     "zTICAL LEFT ANGLE BRACKETzTICAL RIGHT ANGLE BRACKET",
     "zTICAL LEFT CORNER BRACKETzTICAL RIGHT CORNER BRACKET",
     "zTICAL LEFT WHITE CORNER BRACKETzTICAL RIGHT WHITE CORNER BRACKETaSESAME DOT",
     "aWHITE SESAME DOTaPRESENTATION FORM FOR VERTICAL LEFT SQUARE BRACKET",
     "zTICAL RIGHT SQUARE BRACKETaDASHED OVERLINEaCENTRELINE OVERLINE",
     "aWAVY OVERLINEaDOUBLE WAVY OVERLINEbASHED LOW LINEaCENTRELINE LOW LINE",
     "aWAVY LOW LINEaSMALL COMMAgIDEOGRAPHIC COMMAgFULL STOP"]⟩,
   ⟨0xFE54, ["aSMALL SEMICOLONgCOLONgQUESTION MARKgEXCLAMATION MARKhM DASH",
     "gLEFT PARENTHESISgRIGHT PARENTHESISgLEFT CURLY BRACKETgRIGHT CURLY BRACKET",
     "gLEFT TORTOISE SHELL BRACKETgRIGHT TORTOISE SHELL BRACKETgNUMBER SIGN",
     "gAMPERSANDhSTERISKgPLUS SIGNgHYPHEN-MINUSgLESS-THAN SIGNgGREATER-THAN SIGN",
     "gEQUALS SIGN"]⟩,
   ⟨0xFE68, ["aSMALL REVERSE SOLIDUSgDOLLAR SIGNgPERCENT SIGNgCOMMERCIAL AT"]⟩,
   ⟨0xFE70, ["aARABIC FATHATAN ISOLATED FORMhTATWEEL WITH FATHATAN ABOVE",
     "hDAMMATAN ISOLATED FORMhTAIL FRAGMENThKASRATAN ISOLATED FORM"]⟩,
   ⟨0xFE76, ["aARABIC FATHA ISOLATED FORMnMEDIAL FORMhDAMMA ISOLATED FORMnMEDIAL FORM",
     "hKASRA ISOLATED FORMnMEDIAL FORMhSHADDA ISOLATED FORMoMEDIAL FORM",
     "iUKUN ISOLATED FORMnMEDIAL FORMhLETTER HAMZA ISOLATED FORM",
     "oALEF WITH MADDA ABOVE ISOLATED FORMzADDA ABOVE FINAL FORM",
     "yHAMZA ABOVE ISOLATED FORMzAMZA ABOVE FINAL FORM",
     "oWAW WITH HAMZA ABOVE ISOLATED FORMzMZA ABOVE FINAL FORM",
     "oALEF WITH HAMZA BELOW ISOLATED FORMzAMZA BELOW FINAL FORM",
     "oYEH WITH HAMZA ABOVE ISOLATED FORMzMZA ABOVE FINAL FORM",
     "zMZA ABOVE INITIAL FORMzMZA ABOVE MEDIAL FORMoALEF ISOLATED FORMtFINAL FORM",
     "oBEH ISOLATED FORMsFINAL FORMsINITIAL FORMsMEDIAL FORM",
     "oTEH MARBUTA ISOLATED FORMz FINAL FORMsISOLATED FORMsFINAL FORMsINITIAL FORM",
     "sMEDIAL FORMpHEH ISOLATED FORMtFINAL FORMtINITIAL FORMtMEDIAL FORM",
     "oJEEM ISOLATED FORMtFINAL FORMtINITIAL FORMtMEDIAL FORMoHAH ISOLATED FORM",
     "sFINAL FORMsINITIAL FORMsMEDIAL FORMoKHAH ISOLATED FORMtFINAL FORM",
     "tINITIAL FORMtMEDIAL FORMoDAL ISOLATED FORMsFINAL FORMoTHAL ISOLATED FORM",
     "tFINAL FORMoREH ISOLATED FORMsFINAL FORMoZAIN ISOLATED FORMtFINAL FORM",
     "oSEEN ISOLATED FORMtFINAL FORMtINITIAL FORMtMEDIAL FORMpHEEN ISOLATED FORM",
     "uFINAL FORMuINITIAL FORMuMEDIAL FORMpAD ISOLATED FORMsFINAL FORM",
     "sINITIAL FORMsMEDIAL FORMoDAD ISOLATED FORMsFINAL FORMsINITIAL FORM",
     "sMEDIAL FORMoTAH ISOLATED FORMsFINAL FORMsINITIAL FORMsMEDIAL FORM",
     "oZAH ISOLATED FORMsFINAL FORMsINITIAL FORMsMEDIAL FORMoAIN ISOLATED FORM",
     "sFINAL FORMsINITIAL FORMsMEDIAL FORMoGHAIN ISOLATED FORMuFINAL FORM",
     "uINITIAL FORMuMEDIAL FORMoFEH ISOLATED FORMsFINAL FORMsINITIAL FORM",
     "sMEDIAL FORMoQAF ISOLATED FORMsFINAL FORMsINITIAL FORMsMEDIAL FORM",
     "oKAF ISOLATED FORMsFINAL FORMsINITIAL FORMsMEDIAL FORMoLAM ISOLATED FORM",
     "sFINAL FORMsINITIAL FORMsMEDIAL FORMoMEEM ISOLATED FORMtFINAL FORM",
     "tINITIAL FORMtMEDIAL FORMoNOON ISOLATED FORMtFINAL FORMtINITIAL FORM",
     "tMEDIAL FORMoHEH ISOLATED FORMsFINAL FORMsINITIAL FORMsMEDIAL FORM",
     "oWAW ISOLATED FORMsFINAL FORMoALEF MAKSURA ISOLATED FORMzA FINAL FORM",
     "oYEH ISOLATED FORMsFINAL FORMsINITIAL FORMsMEDIAL FORM",
     "iIGATURE LAM WITH ALEF WITH MADDA ABOVE ISOLATED FORM",
     "zALEF WITH MADDA ABOVE FINAL FORMzALEF WITH HAMZA ABOVE ISOLATED FORM",
     "zALEF WITH HAMZA ABOVE FINAL FORMzALEF WITH HAMZA BELOW ISOLATED FORM",
     "zALEF WITH HAMZA BELOW FINAL FORMzALEF ISOLATED FORMzALEF FINAL FORM"]⟩,
   ⟨0xFEFF, ["aZERO WIDTH NO-BREAK SPACE"]⟩,
   ⟨0xFF01, ["aFULLWIDTH EXCLAMATION MARKkQUOTATION MARKkNUMBER SIGNkDOLLAR SIGN",
     "kPERCENT SIGNkAMPERSANDlPOSTROPHEkLEFT PARENTHESISkRIGHT PARENTHESIS",
     "kASTERISKkPLUS SIGNkCOMMAkHYPHEN-MINUSkFULL STOPkSOLIDUSkDIGIT ZEROqONEqTWO",
     "rHREEqFOURrIVEqSIXrEVENqEIGHTqNINEkCOLONkSEMICOLONkLESS-THAN SIGN",
     "kEQUALS SIGNkGREATER-THAN SIGNkQUESTION MARKkCOMMERCIAL AT",
     "kLATIN CAPITAL LETTER AzETTER BzETTER CzETTER DzETTER EzETTER FzETTER G",
     "zETTER HzETTER IzETTER JzETTER KzETTER LzETTER MzETTER NzETTER OzETTER P",
     "zETTER QzETTER RzETTER SzETTER TzETTER UzETTER VzETTER WzETTER XzETTER Y",
     "zETTER ZlEFT SQUARE BRACKETkREVERSE SOLIDUSlIGHT SQUARE BRACKET",
     "kCIRCUMFLEX ACCENTkLOW LINEkGRAVE ACCENTkLATIN SMALL LETTER AzTER BzTER C",
     "zTER DzTER EzTER FzTER GzTER HzTER IzTER JzTER KzTER LzTER MzTER NzTER O",
     "zTER PzTER QzTER RzTER SzTER TzTER UzTER VzTER WzTER XzTER YzTER Z",
     "lEFT CURLY BRACKETkVERTICAL LINEkRIGHT CURLY BRACKETkTILDE",
     "kLEFT WHITE PARENTHESISkRIGHT WHITE PARENTHESIS",
     "aHALFWIDTH IDEOGRAPHIC FULL STOPkLEFT CORNER BRACKETkRIGHT CORNER BRACKET",
     "kIDEOGRAPHIC COMMAkKATAKANA MIDDLE DOTtLETTER WOz SMALL Az SMALL Iz SMALL U",
     "z SMALL Ez SMALL Oz SMALL YAz SMALL YUz SMALL YOz SMALL TU",
     "s-HIRAGANA PROLONGED SOUND MARKs LETTER Az Iz Uz Ez Oz KAz KIz KUz KEz KO",
     "z SAz SIz SUz SEz SOz TAz TIz TUz TEz TOz NAz NIz NUz NEz NOz HAz HIz HUz HE",
     "z HOz MAz MIz MUz MEz MOz YAz YUz YOz RAz RIz RUz REz ROz WAz N",
     "tVOICED SOUND MARKtSEMI-VOICED SOUND MARKkHANGUL FILLERrLETTER KIYEOK",
     "ySSANGKIYEOKyKIYEOK-SIOSyNIEUNzIEUN-CIEUCzIEUN-HIEUHyTIKEUTySSANGTIKEUT",
     "yRIEULzIEUL-KIYEOKzIEUL-MIEUMzIEUL-PIEUPzIEUL-SIOSzIEUL-THIEUTHzIEUL-PHIEUPH",
     "zIEUL-HIEUHyMIEUMyPIEUPySSANGPIEUPyPIEUP-SIOSySIOSzSANGSIOSyIEUNGyCIEUC",
     "ySSANGCIEUCyCHIEUCHyKHIEUKHyTHIEUTHyPHIEUPHyHIEUH"]⟩,
   ⟨0xFFC2, ["aHALFWIDTH HANGUL LETTER AzEyYAzAEyEOz"]⟩,
   ⟨0xFFCA, ["aHALFWIDTH HANGUL LETTER YEOzEyOyWAzAEyOE"]⟩,
   ⟨0xFFD2, ["aHALFWIDTH HANGUL LETTER YOyUyWEOzEzIyYU"]⟩,
   ⟨0xFFDA, ["aHALFWIDTH HANGUL LETTER EUyYIyI"]⟩,
   ⟨0xFFE0, ["aFULLWIDTH CENT SIGNkPOUND SIGNkNOT SIGNkMACRONkBROKEN BARkYEN SIGNkWON SIGN"]⟩,
   ⟨0xFFE8, ["aHALFWIDTH FORMS LIGHT VERTICALkLEFTWARDS ARROWkUPWARDS ARROW",
     "kRIGHTWARDS ARROWkDOWNWARDS ARROWkBLACK SQUAREkWHITE CIRCLE"]⟩,
   ⟨0xFFF9, ["aINTERLINEAR ANNOTATION ANCHORxSEPARATORxTERMINATOR",
     "aOBJECT REPLACEMENT CHARACTERaREPLACEMENT CHARACTER"]⟩]

/-- Names of the characters of the basic plane. -/
def basicNames : List NameRun :=
  namesFrom0020 ++ namesFrom1970 ++ namesFrom2460 ++ namesFromA000

end Stencil.Text
