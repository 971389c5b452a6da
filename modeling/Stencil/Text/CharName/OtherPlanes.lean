import Stencil.Text.CharName.Run

/-! The names of the characters beyond the basic plane, in the order of their code points; a name
    leaves out what it shares with the name before it. -/

namespace Stencil.Text

/-- Names of characters from U+10000 to U+1CFC3. -/
def namesFrom10000 : List NameRun :=
  [⟨0x10000, ["aLINEAR B SYLLABLE B008 Au38 Eu28 Iu61 Ou10 Uu01 DAu45 DEu07 DIu14 DOu51 DU",
     "v7 JAu46 JE"]⟩,
   ⟨0x1000D, ["aLINEAR B SYLLABLE B036 JOu65 JUu77 KAu44 KEu67 KIu70 KOu81 KUv0 MAu13 ME",
     "u73 MIu15 MOu23 MUu06 NAu24 NEu30 NIu52 NOv5 NUu03 PAu72 PEu39 PIu11 PO",
     "u50 PUu16 QAu78 QEu21 QIu32 QO"]⟩,
   ⟨0x10028, ["aLINEAR B SYLLABLE B060 RAu27 REu53 RIu02 ROu26 RUu31 SAu09 SEu41 SIu12 SO",
     "u58 SUv9 TAu04 TEu37 TIu05 TOu69 TUu54 WAu75 WEu40 WIv2 WO"]⟩,
   ⟨0x1003C, ["aLINEAR B SYLLABLE B017 ZAu74 ZE"]⟩,
   ⟨0x1003F, ["aLINEAR B SYLLABLE B020 ZOv5 A2u43 A3u85 AUu71 DWEu90 DWOu48 NWAu29 PU2",
     "u62 PTEu76 RA2u33 RA3u68 RO2v6 TA2u87 TWEu91 TWO"]⟩,
   ⟨0x10050, ["aLINEAR B SYMBOL B018t9s22s34s47t9s56s63t4s79s82t3t6t9"]⟩,
   ⟨0x10080, ["aLINEAR B IDEOGRAM B100 MANv2 WOMANv4 DEERv5 EQUIDwF MAREwM STALLIONv6F EWE",
     "wM RAMv7F SHE-GOATwM HE-GOATv8F SOWwM BOARv9F COWwM BULLu20 WHEATv1 BARLEY",
     "v2 OLIVEv3 SPICEv5 CYPERUSjMONOGRAM B127 KAPOv8 KANAKOjIDEOGRAM B130 OIL",
     "v1 WINEv2jMONOGRAM B133 AREPAv5 MERIjIDEOGRAM B140 BRONZEv1 GOLDv2v5 WOOLv6",
     "u50v1 HORNv2v3v4jMONOGRAM B156 TURO2jIDEOGRAM B157v8v9 CLOTHu60v1v2 GARMENT",
     "v3 ARMOURv4v5v6v7v8v9u70v1v2v3 MONTHv4v6 TREEv7v8v9u80v1v2v3v4v5v9u90",
     "v1 HELMETt220 FOOTSTOOLv5 BATHTUBu30 SPEARv1 ARROWv2v3 SWORDv4v6",
     "u40 WHEELED CHARIOTv1 CHARIOTv2 CHARIOT FRAMEv3 WHEELv5v6",
     "jMONOGRAM B247 DIPTEjIDEOGRAM B248v9u51v2v3v4 DARTv5v6v7v8v9sVESSEL B155",
     "zB200zB201zB202zB203zB204zB205zB206zB207zB208zB209zB210zB211zB212zB213zB214",
     "zB215zB216zB217zB218zB219zB221zB222zB226zB227zB228zB229zB250zB305"]⟩,
   ⟨0x10100, ["aAEGEAN WORD SEPARATOR LINEwDOThCHECK MARK"]⟩,
   ⟨0x10107, ["aAEGEAN NUMBER ONEoTWOpHREEoFOURpIVEoSIXpEVENoEIGHToNINEoTENpWENTYpHIRTY",
     "oFORTYpIFTYoSIXTYpEVENTYoEIGHTYoNINETYoONE HUNDREDoTWO HUNDREDpHREE HUNDRED",
     "oFOUR HUNDREDpIVE HUNDREDoSIX HUNDREDpEVEN HUNDREDoEIGHT HUNDRED",
     "oNINE HUNDREDoONE THOUSANDoTWO THOUSANDpHREE THOUSANDoFOUR THOUSAND",
     "pIVE THOUSANDoSIX THOUSANDpEVEN THOUSANDoEIGHT THOUSANDoNINE THOUSAND",
     "oTEN THOUSANDpWENTY THOUSANDpHIRTY THOUSANDoFORTY THOUSANDpIFTY THOUSAND",
     "oSIXTY THOUSANDpEVENTY THOUSANDoEIGHTY THOUSANDoNINETY THOUSAND"]⟩,
   ⟨0x10137, ["aAEGEAN WEIGHT BASE UNIToFIRST SUBUNIToSECOND SUBUNIToTHIRD SUBUNIT",
     "oFOURTH SUBUNIThDRY MEASURE FIRST SUBUNIThLIQUID MEASURE FIRST SUBUNIT",
     "hMEASURE SECOND SUBUNITpTHIRD SUBUNITaGREEK ACROPHONIC ATTIC ONE QUARTER",
     "zE HALFzE DRACHMAxFIVEzFTYzVE HUNDREDzVE THOUSANDzFTY THOUSANDzVE TALENTS",
     "xTEN TALENTSxFIFTY TALENTSxONE HUNDRED TALENTSxFIVE HUNDRED TALENTS",
     "xONE THOUSAND TALENTSxFIVE THOUSAND TALENTSzVE STATERSxTEN STATERS",
     "xFIFTY STATERSxONE HUNDRED STATERSxFIVE HUNDRED STATERSxONE THOUSAND STATERS",
     "xTEN THOUSAND STATERSxFIFTY THOUSAND STATERSxTEN MNASrHERAEUM ONE PLETHRON",
     "rTHESPIAN ONErHERMIONIAN ONErEPIDAUREAN TWOrTHESPIAN TWO",
     "rCYRENAIC TWO DRACHMASrEPIDAUREAN TWO DRACHMASrTROEZENIAN FIVEzAN TEN",
     "zAN TEN ALTERNATE FORMrHERMIONIAN TENrMESSENIAN TENrTHESPIAN TENz THIRTY",
     "sROEZENIAN FIFTYzAN FIFTY ALTERNATE FORMrHERMIONIAN FIFTYrTHESPIAN FIFTY",
     "z ONE HUNDREDz THREE HUNDREDrEPIDAUREAN FIVE HUNDREDrTROEZENIAN FIVE HUNDRED",
     "sHESPIAN FIVE HUNDREDrCARYSTIAN FIVE HUNDREDrNAXIAN FIVE HUNDRED",
     "rTHESPIAN ONE THOUSANDz FIVE THOUSANDrDELPHIC FIVE MNASrSTRATIAN FIFTY MNAS",
     "gONE HALF SIGNt ALTERNATE FORMgTWO THIRDS SIGNhHREE QUARTERS SIGNgYEAR SIGN",
     "gTALENT SIGNgDRACHMA SIGNgOBOL SIGNgTWO OBOLS SIGNhHREE OBOLS SIGN",
     "gFOUR OBOLS SIGNhIVE OBOLS SIGNgMETRETES SIGNgKYATHOS BASE SIGNgLITRA SIGN",
     "gOUNKIA SIGNgXESTES SIGNgARTABE SIGNiOURA SIGNgGRAMMA SIGN",
     "gTRYBLION BASE SIGNgZERO SIGNgONE QUARTER SIGNgSINUSOID SIGNgINDICTION SIGN",
     "aNOMISMA SIGN"]⟩,
   ⟨0x10190, ["aROMAN SEXTANS SIGNgUNCIA SIGNgSEMUNCIA SIGNiXTULA SIGNgDIMIDIA SEXTULA SIGN",
     "gSILIQUA SIGNgDENARIUS SIGNgQUINARIUS SIGNgSESTERTIUS SIGNgDUPONDIUS SIGN",
     "gAS SIGNgCENTURIAL SIGNaASCIA SYMBOL"]⟩,
   ⟨0x101A0, ["aGREEK SYMBOL TAU RHO"]⟩,
   ⟨0x101D0, ["aPHAISTOS DISC SIGN PEDESTRIANuLUMED HEADtTATTOOED HEADtCAPTIVEuHILDtWOMAN",
     "tHELMETtGAUNTLETtTIARAtARROWtBOWtSHIELDtCLUBtMANACLESvTTOCKtSAWtLID",
     "tBOOMERANGtCARPENTRY PLANEtDOLIUMtCOMBtSLINGtCOLUMNtBEEHIVEtSHIPtHORNuIDE",
     "tBULLS LEGtCATtRAMtEAGLEtDOVEtTUNNYtBEEtPLANE TREEtVINEtPAPYRUStROSETTEtLILY",
     "tOX BACKtFLUTEtGRATERtSTRAINERuMALL AXEtWAVY BANDtCOMBINING OBLIQUE STROKE"]⟩,
   ⟨0x10280, ["aLYCIAN LETTER AoEoBpHoGoDoIoWoZoTHoJoKoQoLoMoNoMMoNNoUoPoKKoRoSoTpToANoENoH",
     "oX"]⟩,
   ⟨0x102A0, ["aCARIAN LETTER AoP2oDoLoUUUoRoLDoA2oQoBoMoOoD2oToSHq2poC-18oUoNNoXoNoTT2oP",
     "oSSoIoEoUUUUoKp2oNDoUUoGp2oSTq2oNGoIIoC-39oTToUUU2oRRoMBq2q3q4oLD2oE2oUUU3"]⟩,
   ⟨0x102E0, ["aCOPTIC EPACT THOUSANDS MARKnDIGIT ONEtTWOuHREEtFOURuIVEtSIXuEVENtEIGHTtNINE",
     "nNUMBER TENvWENTYvHIRTYuFORTYvIFTYuSIXTYvEVENTYuEIGHTYuNINETYuONE HUNDRED",
     "uTWO HUNDREDvHREE HUNDREDuFOUR HUNDREDvIVE HUNDREDuSIX HUNDREDvEVEN HUNDRED",
     "uEIGHT HUNDREDuNINE HUNDRED"]⟩,
   ⟨0x10300, ["aOLD ITALIC LETTER AsBEsKEsDEsEsVEsZEsHEsTHEsIsKAsELtMtNtSHsOsPEsSHEsKUsERtS",
     "sTEsUsEKSsPHEsKHEsEFtRSsCHEsIIsUUsESSlNUMERAL ONEtFIVEtTENtFIFTY"]⟩,
   ⟨0x1032D, ["aOLD ITALIC LETTER YEsNORTHERN TSEsSOUTHERN TSEaGOTHIC LETTER AHSAoBAIRKAN",
     "oGIBAoDAGSoAIHVUSoQAIRTHRAoIUJAoHAGLoTHIUTHoEISoKUSMAoLAGUSoMANNAoNAUTHSoJER",
     "oURUSoPAIRTHRAoNINETYoRAIDAoSAUILoTEIWSoWINJAoFAIHUoIGGWSoHWAIRoOTHAL",
     "oNINE HUNDRED"]⟩,
   ⟨0x10350, ["aOLD PERMIC LETTER ANsBURsGAIsDOIsEsZHOIsDZHOIsZATAsDZITAsIsKOKEsLEIsMENOE",
     "sNENOEsVOOIsPEEIsREIsSIIsTAIsUsCHERYsSHOOIuCHOOIsYRYtERUsOtOsEFsHAsTSIUsVER",
     "sYERvItATsIEsYUtAsIAaCOMBINING OLD PERMIC LETTER ANzER DOIzER ZATAzER NENOE",
     "zER SII"]⟩,
   ⟨0x10380, ["aUGARITIC LETTER ALPAqBETAqGAMLAqKHAqDELTAqHOqWOqZETAqHOTAqTETqYODqKAFqSHIN",
     "qLAMDAqMEMqDHALqNUNqZUqSAMKAqAINqPUqSADEqQOPAqRASHAqTHANNAqGHAINqTOqIqUqSSU"]⟩,
   ⟨0x1039F, ["aUGARITIC WORD DIVIDERaOLD PERSIAN SIGN ArIrUrKAsUrGAsUrXArCArJAsIrTAsUrDAsI",
     "sUrTHArPArBArFArNAsUrMAsIsUrYArVAsIrRAsUrLArSArZArSHAsSArHA"]⟩,
   ⟨0x103C8, ["aOLD PERSIAN SIGN AURAMAZDAAzAA-2zAAHArXSHAAYATHIYArDAHYAAUSHzH-2rBAGA",
     "sUUMISHmWORD DIVIDERmNUMBER ONEtTWOuENuWENTYtHUNDRED"]⟩,
   ⟨0x10400, ["aDESERET CAPITAL LETTER LONG IzNG EzNG AzNG AHzNG OzNG OOxSHORT IzORT E",
     "zORT AzORT AHzORT OzORT OOxAYxOWxWUxYEExHxPEExBEExTEExDEExCHEExJEExKAYxGAY",
     "xEFxVEExETHxTHEExESxZEExESHxZHEExERyLyMyNzGxOIxEWiSMALL LETTER LONG Iz Ez A",
     "z AHz Oz OOvSHORT IzT EzT AzT AHzT OzT OOvAYvOWvWUvYEEvHvPEEvBEEvTEEvDEE",
     "vCHEEvJEEvKAYvGAYvEFvVEEvETHvTHEEvESvZEEvESHvZHEEvERwLwMwNxGvOIvEW",
     "aSHAVIAN LETTER PEEPpTOTpKICKpFEEpTHIGHpSOqUREpCHURCHpYEApHUNGpBIBpDEADpGAG",
     "pVOWpTHEYpZOOpMEASUREpJUDGEpWOEpHA-HApLOLLpMIMEpIFpEGGpASHqDOpONpWOOLpOUTpAH",
     "pROARpNUNpEATpAGEpICEpUPpOAKqOZEqILpAWEqREpORpAIRpERRpARRAYpEARpIANpYEW",
     "aOSMANYA LETTER ALEFpBApTApJApXApKHApDEELpRApSAqHIINpDHApCAYNpGApFApQAAF",
     "pKAAFpLAANpMIINpNUUNpWAWpHApYApApEpIpOpUpAApEEpOO"]⟩,
   ⟨0x104A0, ["aOSMANYA DIGIT ZEROoONEoTWOpHREEoFOURpIVEoSIXpEVENoEIGHToNINE"]⟩,
   ⟨0x104B0, ["aOSAGE CAPITAL LETTER AwIxNwHvBRAvCHAvEHCHAwwINvHAwYAvIvKAvEHKAvKYAvLAvMAvNA",
     "vOwINvPAvEHPAvSAwHAvTAvEHTAvTSAvEHTSAvTSHAvDHAvUvWAvKHAvGHAvZAwHA"]⟩,
   ⟨0x104D8, ["aOSAGE SMALL LETTER AuIvNuHtBRAtCHAtEHCHAuuINtHAuYAtItKAtEHKAtKYAtLAtMAtNAtO",
     "uINtPAtEHPAtSAuHAtTAtEHTAtTSAtEHTSAtTSHAtDHAtUtWAtKHAtGHAtZAuHA"]⟩,
   ⟨0x10500, ["aELBASAN LETTER ApBEpCEqHEpDEpNDEpDHEpEIqpFEpGEqJEpHEpIpJEpKEpLEqLEpMEpNEqA",
     "qJEpOpPEpQEpREqREpSEqHEpTEqHEpUpVEpXEpYpZEqHEpGHErAMMApKHE"]⟩,
   ⟨0x10530, ["aCAUCASIAN ALBANIAN LETTER ALTz BETz GIMz DATz EBz ZARLz EYNz ZHILz TASz CHA",
     "z YOWDz ZHAz IRBz SHAz LANz INYAz XEYNz DYANz CARz JHOXz KARz LYITz HEYT",
     "z QAYz AORz CHOYz CHIz CYAYz MAQz QARz NOWCz DZYAYz SHAKz JAYNz ONz TYAY",
     "z FAMz DZAYz CHATz PENz GHEYSz RATz SEYKz VEYZz TIWRz SHOYz IWNz CYAWz CAYN",
     "z YAYDz PIWRz KIW"]⟩,
   ⟨0x1056F, ["aCAUCASIAN ALBANIAN CITATION MARKaVITHKUQI CAPITAL LETTER AyBBEzEyCEzHEyDE",
     "zHEyEIzyFEyGA"]⟩,
   ⟨0x1057C, ["aVITHKUQI CAPITAL LETTER HAzHAyIzJEyJEyKAyLAzLAyMEyNEzJEyOyPEyQAyRE"]⟩,
   ⟨0x1058C, ["aVITHKUQI CAPITAL LETTER SEzHEyTEzHEyUyVEyXE"]⟩,
   ⟨0x10594, ["aVITHKUQI CAPITAL LETTER YyZE"]⟩,
   ⟨0x10597, ["aVITHKUQI SMALL LETTER AwBBExEwCExHEwDExHEwEIxwFEwGA"]⟩,
   ⟨0x105A3, ["aVITHKUQI SMALL LETTER HAxHAwIxJEwJEwKAwLAxLAwMEwNExJEwOwPEwQAwRE"]⟩,
   ⟨0x105B3, ["aVITHKUQI SMALL LETTER SExHEwTExHEwUwVEwXE"]⟩,
   ⟨0x105BB, ["aVITHKUQI SMALL LETTER YwZE"]⟩,
   ⟨0x10600, ["aLINEAR A SIGN AB001s2s3s4s5s6s7s8s9r10s1s3s6s7r20s1tFtMs2tFtMs3tMs4s6s7s8",
     "p028BpB029r30s1s4s7s8s9r40s1s4s5s6s7s8s9r50s1s3s4s5s6s7s8s9r60s1s5s6s7s9r70",
     "s3s4s6s7s8s9r80s1s2s5s6s7p100-102pB118r20p120BpB122s3r31AtBp131CpB164r71r80",
     "s8r91p301r2r3r4r5r6r7r8r9AsBsCq10r1r2r3AsBsCr4r5r6r7r8r9q20r1r2r3r4r5r6r7r8",
     "r9q30r1r2r3r4r5r6r7r8r9q40r1r2r3r4r5r6r7r8r9q50r1r2r3r4r5r6r7r8r9q60r1r2r3r4",
     "r5r6r7r8r9q70r1p400-VASr1-VASr2-VASr3-VASr4-VASr5-VASr6-VASr7-VASr8-VAS",
     "r9-VASq10-VASr1-VASr2-VASr3-VASr4-VASr5-VASr6-VASr7-VASr8-VASp501r2r3r4r5r6",
     "r8r9q10r1r2r3r5r6q20r1r3r4r5r6r7r8r9q30r1r2r4r5r6r7r8r9q40r1r2r5r7r8r9q50r1",
     "r2r3r4r5r6r7r9q63r4r5r6r8r9q70r1r2r3r4r5r6r7r8r9q80r1r2r3r4r5r6r7r8r9q91r2r4",
     "r5r6r8p600r1r2r3r4r6r8r9q10r1r2r3r4r5r6r7r8r9q20r1r2r3r4r6r7r8r9q34r7r8q40r2",
     "r3r4r5r6r8r9q51r2r3r4r5r6r7r8r9q60r1r2r3r4"]⟩,
   ⟨0x10740, ["aLINEAR A SIGN A701 Ar2 Br3 Dr4 Er5 Fr6 Hr7 Jr8 Kr9 Ls-2 L2t3 L3t4 L4t6 L6",
     "q10 Wr1 Xr2 Yr3 OMEGAr4 ABBr5 BBr7 DDq26 EYYYq32 JE"]⟩,
   ⟨0x10760, ["aLINEAR A SIGN A800r1r2r3r4r5r6r7"]⟩,
   ⟨0x10780, ["aMODIFIER LETTER SMALL CAPITAL AArUPERSCRIPT TRIANGULAR COLON",
     "zPT HALF TRIANGULAR COLONrMALL AEwCAPITAL BwB WITH HOOK"]⟩,
   ⟨0x10787, ["aMODIFIER LETTER SMALL DZ DIGRAPHzDIGRAPH WITH RETROFLEX HOOK",
     "zDIGRAPH WITH CURLxEZH DIGRAPHx WITH TAILzITH HOOKzITH HOOK AND TAIL",
     "wREVERSED EwCLOSED REVERSED OPEN EwFENG DIGRAPHwRAMS HORNwCAPITAL G",
     "wG WITH HOOKwCAPITAL G WITH HOOKwH WITH STROKEwCAPITAL HwHENG WITH HOOK",
     "wDOTLESS J WITH STROKE AND HOOKwLS DIGRAPHxZ DIGRAPHx WITH BELT",
     "wCAPITAL L WITH BELTwL WITH RETROFLEX HOOK AND BELTxEZH",
     "zH WITH RETROFLEX HOOKwTURNED YzNED Y WITH BELTwO WITH STROKEwCAPITAL OE",
     "xLOSED OMEGAwQwTURNED R WITH LONG LEGzNED R WITH LONG LEG AND RETROFLEX HOOK",
     "wR WITH TAILzITH FISHHOOKwCAPITAL RwTC DIGRAPH WITH CURLxS DIGRAPH",
     "zDIGRAPH WITH RETROFLEX HOOKxESH DIGRAPHx WITH RETROFLEX HOOK",
     "wV WITH RIGHT HOOK"]⟩,
   ⟨0x107B2, ["aMODIFIER LETTER SMALL CAPITAL YqGLOTTAL STOP WITH STROKE",
     "qREVERSED GLOTTAL STOP WITH STROKEqBILABIAL CLICKqDENTAL CLICKqLATERAL CLICK",
     "qALVEOLAR CLICKqRETROFLEX CLICK WITH RETROFLEX HOOKqSMALL S WITH CURL"]⟩,
   ⟨0x10800, ["aCYPRIOT SYLLABLE ArErIrOrUrJA"]⟩,
   ⟨0x10808, ["aCYPRIOT SYLLABLE JO"]⟩,
   ⟨0x1080A, ["aCYPRIOT SYLLABLE KAsEsIsOsUrLAsEsIsOsUrMAsEsIsOsUrNAsEsIsOsUrPAsEsIsOsUrRA",
     "sEsIsOsUrSAsEsIsOsUrTAsEsIsOsUrWAsEsIsO"]⟩,
   ⟨0x10837, ["aCYPRIOT SYLLABLE XAsE"]⟩,
   ⟨0x1083C, ["aCYPRIOT SYLLABLE ZA"]⟩,
   ⟨0x1083F, ["aCYPRIOT SYLLABLE ZOaIMPERIAL ARAMAIC LETTER ALEPHyBETHyGIMELyDALETHyHEyWAW",
     "yZAYINyHETHyTETHyYODHyKAPHyLAMEDHyMEMyNUNySAMEKHyAYINyPEySADHEyQOPHyRESH",
     "ySHINyTAW"]⟩,
   ⟨0x10857, ["aIMPERIAL ARAMAIC SECTION SIGNrNUMBER ONEyTWOzHREEzENzWENTYyONE HUNDRED",
     "zNE THOUSANDyTEN THOUSANDaPALMYRENE LETTER ALEPHrBETHrGIMELrDALETHrHErWAW",
     "rZAYINrHETHrTETHrYODHrKAPHrLAMEDHrMEMrFINAL NUNrNUNrSAMEKHrAYINrPErSADHE",
     "rQOPHrRESHrSHINrTAWmFT-POINTING FLEURONkRIGHT-POINTING FLEURONkNUMBER ONE",
     "rTWOsHREErFOURsIVErTENsWENTYaNABATAEAN LETTER FINAL ALEPHrALEPHrFINAL BETH",
     "rBETHrGIMELrDALETHrFINAL HErHErWAWrZAYINrHETHrTETHrFINAL YODHrYODH",
     "rFINAL KAPHrKAPHrFINAL LAMEDHrLAMEDHrFINAL MEMrMEMrFINAL NUNrNUNrSAMEKHrAYIN",
     "rPErSADHErQOPHrRESHrFINAL SHINrSHINrTAW"]⟩,
   ⟨0x108A7, ["aNABATAEAN NUMBER ONErTWOsHREErFOURkCRUCIFORM NUMBER FOURkNUMBER FIVErTEN",
     "sWENTYrONE HUNDRED"]⟩,
   ⟨0x108E0, ["aHATRAN LETTER ALEPHoBETHoGIMELoDALETH-RESHoHEoWAWoZAYNoHETHoTETHoYODHoKAPH",
     "oLAMEDHoMEMoNUNoSAMEKHoAYNoPEoSADHEoQOPH"]⟩,
   ⟨0x108F4, ["aHATRAN LETTER SHINoTAW"]⟩,
   ⟨0x108FB, ["aHATRAN NUMBER ONEoFIVEoTENpWENTYoONE HUNDREDaPHOENICIAN LETTER ALFsBETsGAML",
     "sDELTsHEsWAUsZAIsHETsTETsYODsKAFsLAMDsMEMsNUNsSEMKsAINsPEsSADEsQOFsROSHsSHIN",
     "sTAUlNUMBER ONEsTENtWENTYsONE HUNDREDsTWOtHREE"]⟩,
   ⟨0x1091F, ["aPHOENICIAN WORD SEPARATORaLYDIAN LETTER AoBoGoDoEoVoIoYoKoLoMoNoOoRoSSoToU",
     "oFoQoSoTToANoENoLYoNNoC"]⟩,
   ⟨0x1093F, ["aLYDIAN TRIANGULAR MARK"]⟩,
   ⟨0x10980, ["aMEROITIC HIEROGLYPHIC LETTER AzTER EzTER IzTER OzTER YAzTER WAzTER BA",
     "zTER BA-2zTER PAzTER MAzTER NAzTER NA-2zTER NEzTER NE-2zTER RAzTER RA-2",
     "zTER LAzTER KHAzTER HHAzTER SAzTER SA-2zTER SEzTER KAzTER QAzTER TAzTER TA-2",
     "zTER TEzTER TE-2zTER TOzTER DAwSYMBOL VIDJzBOL VIDJ-2jCURSIVE LETTER AyEyIyO",
     "yYAyWAyBAyPAyMAyNAzEyRAyLAyKHAyHHAySAyARCHAIC SAySEyKAyQAyTAzEzOyDA"]⟩,
   ⟨0x109BC, ["aMEROITIC CURSIVE FRACTION ELEVEN TWELFTHSz ONE HALFrLOGOGRAM RMTz IMN",
     "rNUMBER ONEyTWOzHREEyFOURzIVEySIXzEVENyEIGHTyNINEyTENzWENTYzHIRTYyFORTYzIFTY",
     "ySIXTYzEVENTY"]⟩,
   ⟨0x109D2, ["aMEROITIC CURSIVE NUMBER ONE HUNDREDyTWO HUNDREDzHREE HUNDREDyFOUR HUNDRED",
     "zIVE HUNDREDySIX HUNDREDzEVEN HUNDREDyEIGHT HUNDREDyNINE HUNDRED",
     "yONE THOUSANDyTWO THOUSANDzHREE THOUSANDyFOUR THOUSANDzIVE THOUSAND",
     "ySIX THOUSANDzEVEN THOUSANDyEIGHT THOUSANDyNINE THOUSANDyTEN THOUSAND",
     "zWENTY THOUSANDzHIRTY THOUSANDyFORTY THOUSANDzIFTY THOUSANDySIXTY THOUSAND",
     "zEVENTY THOUSANDyEIGHTY THOUSANDyNINETY THOUSANDyONE HUNDRED THOUSAND",
     "yTWO HUNDRED THOUSANDzHREE HUNDRED THOUSANDyFOUR HUNDRED THOUSAND",
     "zIVE HUNDRED THOUSANDySIX HUNDRED THOUSANDzEVEN HUNDRED THOUSAND",
     "yEIGHT HUNDRED THOUSANDyNINE HUNDRED THOUSANDrFRACTION ONE TWELFTH",
     "z TWO TWELFTHSz THREE TWELFTHSz FOUR TWELFTHSz FIVE TWELFTHSz SIX TWELFTHS",
     "z SEVEN TWELFTHSz EIGHT TWELFTHSz NINE TWELFTHSz TEN TWELFTHS",
     "aKHAROSHTHI LETTER AlVOWEL SIGN IwUwVOCALIC R"]⟩,
   ⟨0x10A05, ["aKHAROSHTHI VOWEL SIGN EwO"]⟩,
   ⟨0x10A0C, ["aKHAROSHTHI VOWEL LENGTH MARKlSIGN DOUBLE RING BELOWqANUSVARAqVISARGA",
     "lLETTER KAtHAsGAtHA"]⟩,
   ⟨0x10A15, ["aKHAROSHTHI LETTER CAtHAsJA"]⟩,
   ⟨0x10A19, ["aKHAROSHTHI LETTER NYAsTTAuHAsDDAuHAsNNAsTAtHAsDAtHAsNAsPAtHAsBAtHAsMAsYAsRA",
     "sLAsVAsSHAtSAtAsZAsHAsKKAsTTTHAvAsVHA"]⟩,
   ⟨0x10A38, ["aKHAROSHTHI SIGN BAR ABOVEqCAUDAqDOT BELOW"]⟩,
   ⟨0x10A3F, ["aKHAROSHTHI VIRAMAlDIGIT ONErTWOsHREErFOURlNUMBER TENtWENTYsONE HUNDRED",
     "wTHOUSANDlFRACTION ONE HALF"]⟩,
   ⟨0x10A50, ["aKHAROSHTHI PUNCTUATION DOTxSMALL CIRCLExCIRCLEyRESCENT BARxMANGALAMxLOTUS",
     "xDANDAyOUBLE DANDAxLINES"]⟩,
   ⟨0x10A60, ["aOLD SOUTH ARABIAN LETTER HEzLAMEDHzHETHzMEMzQOPHzWAWzSHINzRESHzBETHzTAWzSAT",
     "zKAPHzNUNzKHETHzSADHEzSAMEKHzFEzALEFzAYNzDHADHEzGIMELzDALETHzGHAYNzTETHzZAYN",
     "zDHALETHzYODHzTHAWzTHETHsNUMBER ONEzFIFTYvERIC INDICATOR",
     "eNORTH ARABIAN LETTER HEHzLAMzHAHzMEEMzQAFzWAWzES-2zREHzBEHzTEHzES-1zKAF",
     "zNOONzKHAHzSADzES-3zFEHzALEFzAINzDADzGEEMzDALzGHAINzTAHzZAINzTHALzYEHzTHEH",
     "zZAHsNUMBER ONEzTENzTWENTY"]⟩,
   ⟨0x10AC0, ["aMANICHAEAN LETTER ALEPHsBETHtHETHsGIMELtHIMELsDALETHsHEsWAWlSIGN UD",
     "lLETTER ZAYINtHAYINsJAYINtHAYINsHETHsTETHsYODHsKAPHsXAPHsKHAPHsLAMEDH",
     "sDHAMEDHsTHAMEDHsMEMsNUNsSAMEKHsAYINtAYINsPEsFEsSADHEsQOPHsXOPHsQHOPHsRESH",
     "sSHINtSHINsTAWlABBREVIATION MARK ABOVEzARK BELOW"]⟩,
   ⟨0x10AEB, ["aMANICHAEAN NUMBER ONEsFIVEsTENtWENTYsONE HUNDREDlPUNCTUATION STARxFLEURON",
     "xDOUBLE DOT WITHIN DOTzT WITHIN DOTzTxTWO DOTSxLINE FILLER"]⟩,
   ⟨0x10B00, ["aAVESTAN LETTER AqAqOqAOqNqANqErEpEqEpOqOpIqIpUqUpKEpXEqYEqVEpGEqGEqHEpCEpJE",
     "pTEqHEpDEqHEpTTEpPEpFEpBEqHEpNGErYErVEqEqYEqNEpMEpHMEpYYEqEpVEpREpLEpSEpZE",
     "pSHEpZHEpSHYEqSHEpHE"]⟩,
   ⟨0x10B39, ["aAVESTAN ABBREVIATION MARKaTINY TWO DOTS OVER ONE DOT PUNCTUATION",
     "aSMALL TWO DOTS OVER ONE DOT PUNCTUATION",
     "aLARGE TWO DOTS OVER ONE DOT PUNCTUATIONgONE DOT OVER TWO DOTS PUNCTUATION",
     "gTWO RINGS OVER ONE RING PUNCTUATIONgONE RING OVER TWO RINGS PUNCTUATION",
     "aINSCRIPTIONAL PARTHIAN LETTER ALEPHzTTER BETHzTTER GIMELzTTER DALETH",
     "zTTER HEzTTER WAWzTTER ZAYINzTTER HETHzTTER TETHzTTER YODHzTTER KAPH",
     "zTTER LAMEDHzTTER MEMzTTER NUNzTTER SAMEKHzTTER AYINzTTER PEzTTER SADHE",
     "zTTER QOPHzTTER RESHzTTER SHINzTTER TAW"]⟩,
   ⟨0x10B58, ["aINSCRIPTIONAL PARTHIAN NUMBER ONEzMBER TWOzMBER THREEzMBER FOURzMBER TEN",
     "zMBER TWENTYzMBER ONE HUNDREDzMBER ONE THOUSANDqHLAVI LETTER ALEPHzTER BETH",
     "zTER GIMELzTER DALETHzTER HEzTER WAW-AYIN-RESHzTER ZAYINzTER HETHzTER TETH",
     "zTER YODHzTER KAPHzTER LAMEDHzTER MEM-QOPHzTER NUNzTER SAMEKHzTER PE",
     "zTER SADHEzTER SHINzTER TAW"]⟩,
   ⟨0x10B78, ["aINSCRIPTIONAL PAHLAVI NUMBER ONEzBER TWOzBER THREEzBER FOURzBER TEN",
     "zBER TWENTYzBER ONE HUNDREDzBER ONE THOUSANDaPSALTER PAHLAVI LETTER ALEPH",
     "xBETHxGIMELxDALETHxHExWAW-AYIN-RESHxZAYINxHETHxYODHxKAPHxLAMEDHxMEM-QOPHxNUN",
     "xSAMEKHxPExSADHEyHINxTAW"]⟩,
   ⟨0x10B99, ["aPSALTER PAHLAVI SECTION MARKqTURNED SECTION MARKqFOUR DOTS WITH CROSS",
     "z WITH DOT"]⟩,
   ⟨0x10BA9, ["aPSALTER PAHLAVI NUMBER ONExTWOyHREExFOURxTENyWENTYxONE HUNDRED"]⟩,
   ⟨0x10C00, ["aOLD TURKIC LETTER ORKHON AsYENISEI Az AEsORKHON IsYENISEI Iz EsORKHON OzOE",
     "sYENISEI OEsORKHON ABsYENISEI ABsORKHON AEBsYENISEI AEBsORKHON AGsYENISEI AG",
     "sORKHON AEGsYENISEI AEGsORKHON ADsYENISEI ADsORKHON AEDzEZsYENISEI EZ",
     "sORKHON AYsYENISEI AYsORKHON AEYsYENISEI AEYsORKHON AEKsYENISEI AEK",
     "sORKHON OEKsYENISEI OEKsORKHON ALsYENISEI ALsORKHON AELzELTzEMzANzAEN",
     "sYENISEI AENsORKHON ENTsYENISEI ENTsORKHON ENCsYENISEI ENCsORKHON ENY",
     "sYENISEI ENYz ANGsORKHON ENGsYENISEI AENGsORKHON EPzOPzICzECsYENISEI EC",
     "sORKHON AQsYENISEI AQsORKHON IQsYENISEI IQsORKHON OQsYENISEI OQsORKHON AR",
     "sYENISEI ARsORKHON AERzASzAESzASHsYENISEI ASHsORKHON ESHsYENISEI ESH",
     "sORKHON ATsYENISEI ATsORKHON AETsYENISEI AETsORKHON OTzBASH"]⟩,
   ⟨0x10C80, ["aOLD HUNGARIAN CAPITAL LETTER AzTER AAzTER EBzTER AMBzTER ECzTER ENCzTER ECS",
     "zTER EDzTER ANDzTER EzTER CLOSE EzTER EEzTER EFzTER EGzTER EGYzTER EHzTER I",
     "zTER IIzTER EJzTER EKzTER AKzTER UNKzTER ELzTER ELYzTER EMzTER ENzTER ENY",
     "zTER OzTER OOzTER NIKOLSBURG OEzTER RUDIMENTA OEzTER OEEzTER EPzTER EMP",
     "zTER ERzTER SHORT ERzTER ESzTER ESZzTER ETzTER ENTzTER ETYzTER ECHzTER U",
     "zTER UUzTER NIKOLSBURG UEzTER RUDIMENTA UEzTER EVzTER EZzTER EZS",
     "zTER ENT-SHAPED SIGNzTER US"]⟩,
   ⟨0x10CC0, ["aOLD HUNGARIAN SMALL LETTER AzR AAzR EBzR AMBzR ECzR ENCzR ECSzR EDzR AND",
     "zR EzR CLOSE EzR EEzR EFzR EGzR EGYzR EHzR IzR IIzR EJzR EKzR AKzR UNKzR EL",
     "zR ELYzR EMzR ENzR ENYzR OzR OOzR NIKOLSBURG OEzR RUDIMENTA OEzR OEEzR EP",
     "zR EMPzR ERzR SHORT ERzR ESzR ESZzR ETzR ENTzR ETYzR ECHzR UzR UU",
     "zR NIKOLSBURG UEzR RUDIMENTA UEzR EVzR EZzR EZSzR ENT-SHAPED SIGNzR US"]⟩,
   ⟨0x10CFA, ["aOLD HUNGARIAN NUMBER ONEvFIVEvTENvFIFTYvONE HUNDREDzTHOUSAND",
     "aHANIFI ROHINGYA LETTER AxBAxPAxTAyTAxJAxCAxHAxKHAxFAxDAyDAxRAyRAxZAxSAyHA",
     "xKAxGAxLAxMAxNAxWAxKINNA WAxYAxKINNA YAxNGAyYAxVAqVOWEL AwIwUwEwOqMARK SAKIN",
     "vNA KHONNAqSIGN HARBAHAYvTAHALAxNAxSSI"]⟩,
   ⟨0x10D30, ["aHANIFI ROHINGYA DIGIT ZEROwONEwTWOxHREEwFOURxIVEwSIXxEVENwEIGHTwNINE"]⟩,
   ⟨0x10E60, ["aRUMI DIGIT ONElTWOmHREElFOURmIVElSIXmEVENlEIGHTlNINEfNUMBER TENnWENTYnHIRTY",
     "mFORTYnIFTYmSIXTYnEVENTYmEIGHTYmNINETYmONE HUNDREDmTWO HUNDREDnHREE HUNDRED",
     "mFOUR HUNDREDnIVE HUNDREDmSIX HUNDREDnEVEN HUNDREDmEIGHT HUNDRED",
     "mNINE HUNDREDfFRACTION ONE HALFsQUARTERsTHIRDoTWO THIRDS"]⟩,
   ⟨0x10E80, ["aYEZIDI LETTER ELIFoBEoPEpHEoTHEoSEoCIMpHIMqHIMoHHAoXAoDALoZALoRApHAoZAoJA",
     "oSINpHINpADoDADoTAoZEoEYNoXHEYNoFAoVAq ALTERNATE FORMoQAFoKAFpHAFoGAFoLAM",
     "oMIMoNUNoUMoWAWoOWoEWoHAYoYOToET"]⟩,
   ⟨0x10EAB, ["aYEZIDI COMBINING HAMZA MARKrMADDA MARKhHYPHENATION MARK"]⟩,
   ⟨0x10EB0, ["aYEZIDI LETTER LAM WITH DOT ABOVEoYOT WITH CIRCUMFLEX ABOVE"]⟩,
   ⟨0x10F00, ["aOLD SOGDIAN LETTER ALEPHtFINAL ALEPHtBETHtFINAL BETHtGIMELtHEtFINAL HEtWAW",
     "tZAYINtHETHtYODHtKAPHtLAMEDHtMEMtNUNtFINAL NUNzNUN WITH VERTICAL TAILtSAMEKH",
     "tAYINuLTERNATE AYINtPEtSADHEtFINAL SADHEzSADHE WITH VERTICAL TAIL",
     "tRESH-AYIN-DALETHtSHINtTAWtFINAL TAWzTAW WITH VERTICAL TAILmNUMBER ONEtTWO",
     "uHREEtFOURuIVEtTENuWENTYuHIRTYtONE HUNDREDmFRACTION ONE HALF",
     "mLIGATURE AYIN-DALETH"]⟩,
   ⟨0x10F30, ["aSOGDIAN LETTER ALEPHpBETHpGIMELpHEpWAWpZAYINpHETHpYODHpKAPHpLAMEDHpMEMpNUN",
     "pSAMEKHpAYINpPEpSADHEpRESH-AYINpSHINpTAWpFETHpLESHiINDEPENDENT SHIN",
     "iCOMBINING DOT BELOWsTWO DOTS BELOWsDOT ABOVEsTWO DOTS ABOVEsCURVE ABOVE",
     "yBELOWsHOOK ABOVExBELOWsLONG HOOK BELOWsRESH BELOWsSTROKE BELOWiNUMBER ONE",
     "pTENqWENTYpONE HUNDREDiPUNCTUATION TWO VERTICAL BARSzERTICAL BARS WITH DOTS",
     "uCIRCLE WITH DOTuTWO CIRCLES WITH DOTSuHALF CIRCLE WITH DOT"]⟩,
   ⟨0x10F70, ["aOLD UYGHUR LETTER ALEPHsBETHsGIMEL-HETHsWAWsZAYINsFINAL HETHsYODHsKAPH",
     "sLAMEDHsMEMsNUNsSAMEKHsPEsSADHEsRESHsSHINsTAWsLESHlCOMBINING DOT ABOVEzBELOW",
     "vTWO DOTS ABOVEzDOTS BELOWlPUNCTUATION BARxTWO BARSzO DOTSxFOUR DOTS"]⟩,
   ⟨0x10FB0, ["aCHORASMIAN LETTER ALEPHsSMALL ALEPHsBETHsGIMELsDALETHsHEsWAWsCURLED WAW",
     "sZAYINsHETHsYODHsKAPHsLAMEDHsMEMsNUNsSAMEKHsAYINsPEsRESHsSHINsTAWlNUMBER ONE",
     "sTWOtHREEsFOURsTENtWENTYsONE HUNDRED"]⟩,
   ⟨0x10FE0, ["aELYMAIC LETTER ALEPHpBETHpGIMELpDALETHpHEpWAWpZAYINpHETHpTETHpYODHpKAPH",
     "pLAMEDHpMEMpNUNpSAMEKHpAYINpPEpSADHEpQOPHpRESHpSHINpTAWjIGATURE ZAYIN-YODH"]⟩,
   ⟨0x11000, ["aBRAHMI SIGN CANDRABINDUmANUSVARAmVISARGAmJIHVAMULIYAmUPADHMANIYAhLETTER ApA",
     "oIpIoUpUoVOCALIC RxRwLxLoEoAIoOoAUoKApHAoGApHAoNGAoCApHAoJApHAoNYAoTTAqHA",
     "oDDAqHAoNNAoTApHAoDApHAoNAoPApHAoBApHAoMAoYAoRAoLAoVAoSHApSApAoHAoLLA",
     "oOLD TAMIL LLLAyRRAyNNNAhVOWEL SIGN AAsBHATTIPROLU AAsItIsUtUsVOCALIC Rz RR",
     "z Lz LLsEsAIsOsAUiIRAMAhDANDAiOUBLE DANDAhPUNCTUATION DOTvUBLE DOTtLINE",
     "tCRESCENT BARtLOTUS"]⟩,
   ⟨0x11052, ["aBRAHMI NUMBER ONEoTWOpHREEoFOURpIVEoSIXpEVENoEIGHToNINEoTENpWENTYpHIRTY",
     "oFORTYpIFTYoSIXTYpEVENTYoEIGHTYoNINETYoONE HUNDREDsTHOUSANDhDIGIT ZEROnONE",
     "nTWOoHREEnFOURoIVEnSIXoEVENnEIGHTnNINEhSIGN OLD TAMIL VIRAMA",
     "hLETTER OLD TAMIL SHORT EzHORT OhVOWEL SIGN OLD TAMIL SHORT EzIL SHORT O",
     "hLETTER OLD TAMIL LLA"]⟩,
   ⟨0x1107F, ["aBRAHMI NUMBER JOINERaKAITHI SIGN CANDRABINDUmANUSVARAmVISARGAhLETTER ApAoI",
     "pIoUpUoEoAIoOoAUoKApHAoGApHAoNGAoCApHAoJApHAoNYAoTTAqHAoDDAqDHAqHAoRHAoNNA",
     "oTApHAoDApHAoNAoPApHAoBApHAoMAoYAoRAoLAoVAoSHApSApAoHAhVOWEL SIGN AAsItIsUtU",
     "sEsAIsOsAUhSIGN VIRAMAmNUKTAhABBREVIATION SIGNhENUMERATION SIGNhNUMBER SIGN",
     "hSECTION MARKhDOUBLE SECTION MARKiANDAiOUBLE DANDAhVOWEL SIGN VOCALIC R"]⟩,
   ⟨0x110CD, ["aKAITHI NUMBER SIGN ABOVE"]⟩,
   ⟨0x110D0, ["aSORA SOMPENG LETTER SAHuTAHuBAHuCAHuDAHuGAHuMAHuNGAHuLAHuNAHuVAHuPAHuYAH",
     "uRAHuHAHuKAHuJAHuNYAHuAHuEEHuIHuUHuOHuEHuMAE"]⟩,
   ⟨0x110F0, ["aSORA SOMPENG DIGIT ZEROtONEtTWOuHREEtFOURuIVEtSIXuEVENtEIGHTtNINE"]⟩,
   ⟨0x11100, ["aCHAKMA SIGN CANDRABINDUmANUSVARAmVISARGAhLETTER AAoIoUoEoKAApHAAoGAApHAA",
     "oNGAAoCAApHAAoJAApHAAoNYAAoTTAAqHAAoDDAAqHAAoNNAAoTAApHAAoDAApHAAoNAAoPAA",
     "pHAAoBAApHAAoMAAoYYAApAAoRAAoLAAoWAAoSAAoHAAhVOWEL SIGN AsItIsUtUsEsAIsOsAU",
     "sOIhO MARKhAU MARKhVIRAMAhMAAYYAA"]⟩,
   ⟨0x11136, ["aCHAKMA DIGIT ZEROnONEnTWOoHREEnFOURoIVEnSIXoEVENnEIGHTnNINEhSECTION MARK",
     "hDANDAiOUBLE DANDAhQUESTION MARKhLETTER LHAAhVOWEL SIGN AAsEIhLETTER VAA"]⟩,
   ⟨0x11150, ["aMAHAJANI LETTER AqIqUqEqOqKArHAqGArHAqCArHAqJArHAqNYAqTTAsHAqDDAsHAqNNAqTA",
     "rHAqDArHAqNAqPArHAqBArHAqMAqRAqLAqVAqSAqHAqRRAjSIGN NUKTAjABBREVIATION SIGN",
     "jSECTION MARKjLIGATURE SHRI"]⟩,
   ⟨0x11180, ["aSHARADA SIGN CANDRABINDUnANUSVARAnVISARGAiLETTER AqApIqIpUqUpVOCALIC RyRxL",
     "yLpEpAIpOpAUpKAqHApGAqHApNGApCAqHApJAqHApNYApTTArHApDDArHApNNApTAqHApDAqHA",
     "pNApPAqHApBAqHApMApYApRApLAqLApVApSHAqSAqApHAiVOWEL SIGN AAtIuItUuU",
     "tVOCALIC RzC RRzC LzC LLtEtAItOtAUiSIGN VIRAMAnAVAGRAHAnJIHVAMULIYA",
     "nUPADHMANIYAiOMiDANDAjOUBLE DANDAiABBREVIATION SIGNiSEPARATORjANDHI MARK",
     "jIGN NUKTAiVOWEL MODIFIER MARKiEXTRA SHORT VOWEL MARKiSUTRA MARK",
     "iVOWEL SIGN PRISHTHAMATRA EiSIGN INVERTED CANDRABINDUiDIGIT ZEROoONEoTWO",
     "pHREEoFOURpIVEoSIXpEVENoEIGHToNINEiEKAMiSIGN SIDDHAMiHEADSTROKE",
     "iCONTINUATION SIGNiSECTION MARK-1v2"]⟩,
   ⟨0x111E1, ["aSINHALA ARCHAIC DIGIT ONEwTWOxHREEwFOURxIVEwSIXxEVENwEIGHTwNINEqNUMBER TEN",
     "yWENTYyHIRTYxFORTYyIFTYxSIXTYyEVENTYxEIGHTYxNINETYxONE HUNDREDzE THOUSAND"]⟩,
   ⟨0x11200, ["aKHOJKI LETTER ApAoIoUoEoAIoOoAUoKApHAoGApGApHAoNGAoCApHAoJApJA"]⟩,
   ⟨0x11213, ["aKHOJKI LETTER NYAoTTAqHAoDDAqHAoNNAoTApHAoDApDDApHAoNAoPApHAoBApBApHAoMAoYA",
     "oRAoLAoVAoSAoHAoLLAhVOWEL SIGN AAsItIsUsEsAIsOsAUhSIGN ANUSVARAmVIRAMAmNUKTA",
     "mSHADDAhDANDAiOUBLE DANDAhWORD SEPARATORhSECTION MARKhDOUBLE SECTION MARK",
     "hABBREVIATION SIGNhSIGN SUKUN"]⟩,
   ⟨0x11280, ["aMULTANI LETTER ApIpUpEpKAqHApGA"]⟩,
   ⟨0x11288, ["aMULTANI LETTER GHA"]⟩,
   ⟨0x1128A, ["aMULTANI LETTER CAqHApJAqJA"]⟩,
   ⟨0x1128F, ["aMULTANI LETTER NYApTTArHApDDArDArHApNNApTAqHApDAqHApNApPAqHApBA"]⟩,
   ⟨0x1129F, ["aMULTANI LETTER BHApMApYApRApLApVApSApHApRRAqHAiSECTION MARK"]⟩,
   ⟨0x112B0, ["aKHUDAWADI LETTER AsArIsIrUsUrErAIrOrAUrKAsHArGAsGAsHArNGArCAsHArJAsJAsHA",
     "rNYArTTAtHArDDAtDArRRArDDHArNNArTAsHArDAsHArNArPAsHArBAsBAsHArMArYArRArLArVA",
     "rSHAsArHAkSIGN ANUSVARAkVOWEL SIGN AAvIwIvUwUvEvAIvOvAUkSIGN NUKTApVIRAMA"]⟩,
   ⟨0x112F0, ["aKHUDAWADI DIGIT ZEROqONEqTWOrHREEqFOURrIVEqSIXrEVENqEIGHTqNINE"]⟩,
   ⟨0x11300, ["aGRANTHA SIGN COMBINING ANUSVARA ABOVEoANDRABINDUnANUSVARAnVISARGA"]⟩,
   ⟨0x11305, ["aGRANTHA LETTER AqApIqIpUqUpVOCALIC RxL"]⟩,
   ⟨0x1130F, ["aGRANTHA LETTER EEpAI"]⟩,
   ⟨0x11313, ["aGRANTHA LETTER OOpAUpKAqHApGAqHApNGApCAqHApJAqHApNYApTTArHApDDArHApNNApTA",
     "qHApDAqHApNA"]⟩,
   ⟨0x1132A, ["aGRANTHA LETTER PAqHApBAqHApMApYApRA"]⟩,
   ⟨0x11332, ["aGRANTHA LETTER LAqLA"]⟩,
   ⟨0x11335, ["aGRANTHA LETTER VApSHAqSAqApHA"]⟩,
   ⟨0x1133B, ["aCOMBINING BINDU BELOWaGRANTHA SIGN NUKTAnAVAGRAHAiVOWEL SIGN AAtIuItUuU",
     "tVOCALIC RzC RR"]⟩,
   ⟨0x11347, ["aGRANTHA VOWEL SIGN EEtAI"]⟩,
   ⟨0x1134B, ["aGRANTHA VOWEL SIGN OOtAUiSIGN VIRAMA"]⟩,
   ⟨0x11350, ["aGRANTHA OM"]⟩,
   ⟨0x11357, ["aGRANTHA AU LENGTH MARK"]⟩,
   ⟨0x1135D, ["aGRANTHA SIGN PLUTAiLETTER VEDIC ANUSVARAvDOUBLE ANUSVARAqOCALIC RRxLL",
     "iVOWEL SIGN VOCALIC LzC LL"]⟩,
   ⟨0x11366, ["aCOMBINING GRANTHA DIGIT ZEROyONEyTWOzHREEyFOURzIVEySIX"]⟩,
   ⟨0x11370, ["aCOMBINING GRANTHA LETTER AzKAzNAzVIzPA"]⟩,
   ⟨0x11400, ["aNEWA LETTER AnAmInImUnUmVOCALIC RvRuLvLmEmAImOmAUmKAnHAmGAnHAmNGAoHAmCAnHA",
     "mJAnHAmNYAoHAmTTAoHAmDDAoHAmNNAmTAnHAmDAnHAmNAnHAmPAnHAmBAnHAmMAnHAmYAmRAnHA",
     "mLAnHAmWAmSHAnSAnAmHAfVOWEL SIGN AAqIrIqUrUqVOCALIC RzRyLzLqEqAIqOqAU",
     "fSIGN VIRAMAkCANDRABINDUkANUSVARAkVISARGAkNUKTAkAVAGRAHAkFINAL ANUSVARAfOM",
     "fSIDDHIfDANDAgOUBLE DANDAfCOMMAfGAP FILLERfABBREVIATION SIGNfDIGIT ZEROlONE",
     "lTWOmHREElFOURmIVElSIXmEVENlEIGHTlNINEgOUBLE COMMAfPLACEHOLDER MARK"]⟩,
   ⟨0x1145D, ["aNEWA INSERTION SIGNfSANDHI MARKfLETTER VEDIC ANUSVARAfSIGN JIHVAMULIYA",
     "kUPADHMANIYA"]⟩,
   ⟨0x11480, ["aTIRHUTA ANJIiLETTER AqApIqIpUqUpVOCALIC RyRxLyLpEpAIpOpAUpKAqHApGAqHApNGA",
     "pCAqHApJAqHApNYApTTArHApDDArHApNNApTAqHApDAqHApNApPAqHApBAqHApMApYApRApLApVA",
     "pSHAqSAqApHAiVOWEL SIGN AAtIuItUuUtVOCALIC RzC RRzC LzC LLtEtSHORT EtAItO",
     "tSHORT OtAUiSIGN CANDRABINDUnANUSVARAnVISARGApRAMAnNUKTAnAVAGRAHAiGVANG",
     "iABBREVIATION SIGNiOM"]⟩,
   ⟨0x114D0, ["aTIRHUTA DIGIT ZEROoONEoTWOpHREEoFOURpIVEoSIXpEVENoEIGHToNINE"]⟩,
   ⟨0x11580, ["aSIDDHAM LETTER AqApIqIpUqUpVOCALIC RyRxLyLpEpAIpOpAUpKAqHApGAqHApNGApCAqHA",
     "pJAqHApNYApTTArHApDDArHApNNApTAqHApDAqHApNApPAqHApBAqHApMApYApRApLApVApSHA",
     "qSAqApHAiVOWEL SIGN AAtIuItUuUtVOCALIC RzC RR"]⟩,
   ⟨0x115B8, ["aSIDDHAM VOWEL SIGN EtAItOtAUiSIGN CANDRABINDUnANUSVARAnVISARGApRAMAnNUKTA",
     "nSIDDHAMiDANDAjOUBLE DANDAiSEPARATOR DOTsBARiREPETITION MARK-1y2y3",
     "iEND OF TEXT MARKiSECTION MARK WITH TRIDENT AND U-SHAPED ORNAMENTS",
     "z TRIDENT AND DOTTED CRESCENTSz RAYS AND DOTTED CRESCENTS",
     "z RAYS AND DOTTED DOUBLE CRESCENTSz RAYS AND DOTTED TRIPLE CRESCENTS",
     "vDOUBLE RINGzLE RING WITH RAYSvWITH DOUBLE CRESCENTSz TRIPLE CRESCENTS",
     "z QUADRUPLE CRESCENTSz SEPTUPLE CRESCENTSz CIRCLES AND RAYS",
     "z CIRCLES AND TWO ENCLOSURESz CIRCLES AND FOUR ENCLOSURES",
     "iLETTER THREE-CIRCLE ALTERNATE IqWO-CIRCLE ALTERNATE Iz ALTERNATE II",
     "pALTERNATE UiVOWEL SIGN ALTERNATE UzATE UU"]⟩,
   ⟨0x11600, ["aMODI LETTER AnAmInImUnUmVOCALIC RvRuLvLmEmAImOmAUmKAnHAmGAnHAmNGAmCAnHAmJA",
     "nHAmNYAmTTAoHAmDDAoHAmNNAmTAnHAmDAnHAmNAmPAnHAmBAnHAmMAmYAmRAmLAmVAmSHAnSAnA",
     "mHAmLLAfVOWEL SIGN AAqIrIqUrUqVOCALIC RzRyLzLqEqAIqOqAUfSIGN ANUSVARA",
     "kVISARGAmRAMAkARDHACANDRAfDANDAgOUBLE DANDAfABBREVIATION SIGNfSIGN HUVA"]⟩,
   ⟨0x11650, ["aMODI DIGIT ZEROlONElTWOmHREElFOURmIVElSIXmEVENlEIGHTlNINE"]⟩,
   ⟨0x11660, ["aMONGOLIAN BIRGA WITH ORNAMENTkROTATED BIRGAkDOUBLE BIRGA WITH ORNAMENT",
     "kTRIPLE BIRGA WITH ORNAMENTkBIRGA WITH DOUBLE ORNAMENT",
     "kROTATED BIRGA WITH ORNAMENTzITH DOUBLE ORNAMENTkINVERTED BIRGA",
     "y WITH DOUBLE ORNAMENTkSWIRL BIRGAv WITH ORNAMENTzH DOUBLE ORNAMENT",
     "kTURNED SWIRL BIRGA WITH DOUBLE ORNAMENT"]⟩,
   ⟨0x11680, ["aTAKRI LETTER AoAnIoInUoUnEnAInOnAUnKAoHAnGAoHAnNGAnCAoHAnJAoHAnNYAnTTApHA",
     "nDDApHAnNNAnTAoHAnDAoHAnNAnPAoHAnBAoHAnMAnYAnRAnLAnVAnSHAoAnHAnRRA",
     "gSIGN ANUSVARAlVISARGAgVOWEL SIGN AArIsIrUsUrErAIrOrAUgSIGN VIRAMAlNUKTA",
     "gLETTER ARCHAIC KHAgABBREVIATION SIGN"]⟩,
   ⟨0x116C0, ["aTAKRI DIGIT ZEROmONEmTWOnHREEmFOURnIVEmSIXnEVENmEIGHTmNINE"]⟩,
   ⟨0x11700, ["aAHOM LETTER KAnHAmNGAnAmTAmALTERNATE TAmPAnHAmBAmMAmJAmCHAmTHAmRAmLAmSAmNYA",
     "mHAmAmDAnHAmGAmALTERNATE GAmGHAmBHAmJHAmALTERNATE BA"]⟩,
   ⟨0x1171D, ["aAHOM CONSONANT SIGN MEDIAL LAzL RAzL LIGATING RAfVOWEL SIGN ArAqIrIqUrUqE",
     "qAWqOqAIrMfSIGN KILLER"]⟩,
   ⟨0x11730, ["aAHOM DIGIT ZEROlONElTWOmHREElFOURmIVElSIXmEVENlEIGHTlNINEfNUMBER TENnWENTY",
     "fSIGN SMALL SECTIONlECTIONkRULAIgYMBOL VIfLETTER CAmTTAoHAmDDAoHAmNNAmLLA"]⟩,
   ⟨0x11800, ["aDOGRA LETTER AoAnIoInUoUnEnAInOnAUnKAoHAnGAoHAnNGAnCAoHAnJAoHAnNYAnTTApHA",
     "nDDApHAnNNAnTAoHAnDAoHAnNAnPAoHAnBAoHAnMAnYAnRAnLAnVAnSHAoSAoAnHAnRRA",
     "gVOWEL SIGN AArIsIrUsUrVOCALIC RzRRrErAIrOrAUgSIGN ANUSVARAlVISARGAnRAMA",
     "lNUKTAgABBREVIATION SIGN"]⟩,
   ⟨0x118A0, ["aWARANG CITI CAPITAL LETTER NGAAzR AzR WIzR YUzR YAzR YOzR IIzR UUzR EzR O",
     "zR ANGzR GAzR KOzR ENYzR YUJzR UCzR ENNzR ODDzR TTEzR NUNGzR DAzR ATzR AM",
     "zR BUzR PUzR HIYOzR HOLOzR HORRzR HARzR SSUUzR SIIzR VIYOmSMALL LETTER NGAA",
     "zAzWIzYUzYAzYOzIIzUUzEzOzANGzGAzKOzENYzYUJzUCzENNzODDzTTEzNUNGzDAzATzAMzBU",
     "zPUzHIYOzHOLOzHORRzHARzSSUUzSIIzVIYOmDIGIT ZEROsONEsTWOtHREEsFOURtIVEsSIX",
     "tEVENsEIGHTsNINEmNUMBER TENuWENTYuHIRTYtFORTYuIFTYtSIXTYuEVENTYtEIGHTY",
     "tNINETY"]⟩,
   ⟨0x118FF, ["aWARANG CITI OMaDIVES AKURU LETTER AuAtIuItUuUtE"]⟩,
   ⟨0x11909, ["aDIVES AKURU LETTER O"]⟩,
   ⟨0x1190C, ["aDIVES AKURU LETTER KAuHAtGAuHAtNGAtCAuHAtJA"]⟩,
   ⟨0x11915, ["aDIVES AKURU LETTER NYAtTTA"]⟩,
   ⟨0x11918, ["aDIVES AKURU LETTER DDAvHAtNNAtTAuHAtDAuHAtNAtPAuHAtBAuHAtMAtYAuYAtRAtLAtVA",
     "tSHAuSAuAtHAtLLAtZAmVOWEL SIGN AAxIyIxUyUxE"]⟩,
   ⟨0x11937, ["aDIVES AKURU VOWEL SIGN AIxO"]⟩,
   ⟨0x1193B, ["aDIVES AKURU SIGN ANUSVARArCANDRABINDUrHALANTAmVIRAMAmPREFIXED NASAL SIGN",
     "mMEDIAL YAmINITIAL RAmMEDIAL RAmSIGN NUKTAmDOUBLE DANDAmGAP FILLER",
     "mEND OF TEXT MARK"]⟩,
   ⟨0x11950, ["aDIVES AKURU DIGIT ZEROsONEsTWOtHREEsFOURtIVEsSIXtEVENsEIGHTsNINE"]⟩,
   ⟨0x119A0, ["aNANDINAGARI LETTER AuAtIuItUuUtVOCALIC RzC RR"]⟩,
   ⟨0x119AA, ["aNANDINAGARI LETTER EtAItOtAUtKAuHAtGAuHAtNGAtCAuHAtJAuHAtNYAtTTAvHAtDDAvHA",
     "tNNAtTAuHAtDAuHAtNAtPAuHAtBAuHAtMAtYAtRAtLAtVAtSHAuSAuAtHAtLLAtRRA",
     "mVOWEL SIGN AAxIyIxUyUxVOCALIC RzCALIC RR"]⟩,
   ⟨0x119DA, ["aNANDINAGARI VOWEL SIGN ExAIxOxAUmSIGN ANUSVARArVISARGAtRAMArAVAGRAHA",
     "rSIDDHAMmHEADSTROKEmVOWEL SIGN PRISHTHAMATRA E"]⟩,
   ⟨0x11A00, ["aZANABAZAR SQUARE LETTER ArVOWEL SIGN IzGN UEzGN UzGN EzGN OEzGN OzGN AI",
     "zGN AUzGN REVERSED IxLENGTH MARKrLETTER KAzHAyGAzHAyNGAyCAzHAyJAyNYAyTTAzTHA",
     "yDDAzDHAyNNAyTAzHAyDAzHAyNAyPAzHAyBAzHAyMAyTSAzSHAyDZAzZHAyZHAzAy-AyYAyRAyLA",
     "yVAySHAzSAzAyHAyKSSArFINAL CONSONANT MARKrSIGN VIRAMAwCANDRABINDU",
     "zDRABINDU WITH ORNAMENTzDRA WITH ORNAMENTwANUSVARAwVISARGA",
     "rCLUSTER-INITIAL LETTER RAzFINAL LETTER YAzFINAL LETTER RAzFINAL LETTER LA",
     "zFINAL LETTER VArINITIAL HEAD MARKrCLOSING HEAD MARKrMARK TSHEGwSHAD",
     "wDOUBLE SHADwLONG TSHEGrINITIAL DOUBLE-LINED HEAD MARK",
     "rCLOSING DOUBLE-LINED HEAD MARKrSUBJOINER"]⟩,
   ⟨0x11A50, ["aSOYOMBO LETTER AiVOWEL SIGN ItUEutEtOuEtAIuUtVOCALIC RzC LoLENGTH MARK",
     "iLETTER KAqHApGAqHApNGApCAqHApJAqHApNYApTTArHApDDArHApNNApTAqHApDAqHApNApPA",
     "qHApBAqHApMApTSArHApDZApZHAqAp-ApYApRApLApVApSHAqSAqApHApKSSA",
     "iSIGN JIHVAMULIYAnUPADHMANIYAiCLUSTER-INITIAL LETTER RAzETTER LAzETTER SHA",
     "zETTER SAiFINAL CONSONANT SIGN GzIGN KzIGN NGzIGN DzIGN NzIGN BzIGN MzIGN R",
     "zIGN LzIGN SHzIGN SzIGN -AiSIGN ANUSVARAnVISARGAiGEMINATION MARKiSUBJOINER",
     "iMARK TSHEGnSHADnDOUBLE SHADnPLUTA",
     "iHEAD MARK WITH MOON AND SUN AND TRIPLE FLAMEzON AND SUN AND FLAME",
     "zON AND SUNiTERMINAL MARK-1w2"]⟩,
   ⟨0x11AB0, ["aCANADIAN SYLLABICS NATTILIK HIzIK HIIzIK HOzIK HOOzIK HAzIK HAAzIK SHRI",
     "zIK SHRIIzIK SHROzIK SHROOzIK SHRAzIK SHRAAtSPEvIvOvAaPAU CIN HAU LETTER PA",
     "tKAtLAtMAtDAtZAtVAtNGAtHAtGAtKHAtSAtBAtCAtTAuHAtNAtPHAtRAtFAtCHAtAtEtItOtUuA",
     "tIAtFINAL PzKzTzMzNzLzWzNGzYmRISING TONE LONGxmSANDHI GLOTTAL STOP",
     "mRISING TONE LONG FINALyFINALmSANDHI GLOTTAL STOP FINALtTONE LONGx",
     "x LONG FINALyFINALmMID-LEVEL TONEmGLOTTAL STOP VARIANT",
     "mMID-LEVEL TONE LONG FINALzE FINALmLOW-FALLING TONE LONGzONEmGLOTTAL STOP",
     "mLOW-FALLING TONE LONG FINALzONE FINALmGLOTTAL STOP FINAL"]⟩,
   ⟨0x11C00, ["aBHAIKSUKI LETTER AsArIsIrUsUrVOCALIC RzRRzL"]⟩,
   ⟨0x11C0A, ["aBHAIKSUKI LETTER ErAIrOrAUrKAsHArGAsHArNGArCAsHArJAsHArNYArTTAtHArDDAtHA",
     "rNNArTAsHArDAsHArNArPAsHArBAsHArMArYArRArLArVArSHAsSAsArHAkVOWEL SIGN AAvIwI",
     "vUwUvVOCALIC RzLIC RRzLIC L"]⟩,
   ⟨0x11C38, ["aBHAIKSUKI VOWEL SIGN EvAIvOvAUkSIGN CANDRABINDUpANUSVARApVISARGArRAMA",
     "pAVAGRAHAkDANDAlOUBLE DANDAkWORD SEPARATORkGAP FILLER-1v2"]⟩,
   ⟨0x11C50, ["aBHAIKSUKI DIGIT ZEROqONEqTWOrHREEqFOURrIVEqSIXrEVENqEIGHTqNINEkNUMBER ONE",
     "rTWOsHREErFOURsIVErSIXsEVENrEIGHTrNINErTENsWENTYsHIRTYrFORTYsIFTYrSIXTY",
     "sEVENTYrEIGHTYrNINETYkHUNDREDS UNIT MARK"]⟩,
   ⟨0x11C70, ["aMARCHEN HEAD MARKiMARK SHADiLETTER KAqHApGApNGApCAqHApJApNYApTAqHApDApNApPA",
     "qHApBApMApTSArHApDZApWApZHAqAp-ApYApRApLApSHAqApHApA"]⟩,
   ⟨0x11C92, ["aMARCHEN SUBJOINED LETTER KAzKHAzGAzNGAzCAzCHAzJAzNYAzTAzTHAzDAzNAzPAzPHAzBA",
     "zMAzTSAzTSHAzDZAzWAzZHAzZA"]⟩,
   ⟨0x11CA9, ["aMARCHEN SUBJOINED LETTER YAzRAzLAzSHAzSAzHAzAiVOWEL SIGN AAtItUtEtO",
     "iSIGN ANUSVARAnCANDRABINDU"]⟩,
   ⟨0x11D00, ["aMASARAM GONDI LETTER AwAvIwIvUwUvE"]⟩,
   ⟨0x11D08, ["aMASARAM GONDI LETTER AIvO"]⟩,
   ⟨0x11D0B, ["aMASARAM GONDI LETTER AUvKAwHAvGAwHAvNGAvCAwHAvJAwHAvNYAvTTAxHAvDDAxHAvNNA",
     "vTAwHAvDAwHAvNAvPAwHAvBAwHAvMAvYAvRAvLAvVAvSHAwSAwAvHAvLLAvKSSAvJNYAvTRA",
     "oVOWEL SIGN AAzIzIIzUzUUzVOCALIC R"]⟩,
   ⟨0x11D3A, ["aMASARAM GONDI VOWEL SIGN E"]⟩,
   ⟨0x11D3C, ["aMASARAM GONDI VOWEL SIGN AIzO"]⟩,
   ⟨0x11D3F, ["aMASARAM GONDI VOWEL SIGN AUoSIGN ANUSVARAtVISARGAtNUKTAtCANDRAtHALANTA",
     "oVIRAMAoREPHApA-KARA"]⟩,
   ⟨0x11D50, ["aMASARAM GONDI DIGIT ZEROuONEuTWOvHREEuFOURvIVEuSIXvEVENuEIGHTuNINE"]⟩,
   ⟨0x11D60, ["aGUNJALA GONDI LETTER AwAvIwIvUwU"]⟩,
   ⟨0x11D67, ["aGUNJALA GONDI LETTER EEvAI"]⟩,
   ⟨0x11D6A, ["aGUNJALA GONDI LETTER OOvAUvYAvVAvBAwHAvMAvKAwHAvTAwHAvLAvGAwHAvDAwHAvNAvCA",
     "wHAvTTAxHAvLLAvJAwHAvDDAxHAvNGAvPAwHAvHAvRAvSAoVOWEL SIGN AAzIzIIzUzUU"]⟩,
   ⟨0x11D90, ["aGUNJALA GONDI VOWEL SIGN EEzAI"]⟩,
   ⟨0x11D93, ["aGUNJALA GONDI VOWEL SIGN OOzAUoSIGN ANUSVARAtVISARGAoVIRAMAoOM"]⟩,
   ⟨0x11DA0, ["aGUNJALA GONDI DIGIT ZEROuONEuTWOvHREEuFOURvIVEuSIXvEVENuEIGHTuNINE"]⟩,
   ⟨0x11EE0, ["aMAKASAR LETTER KApGApNGApPApBApMApTApDApNApCApJApNYApYApRApLApVApSApAiANGKA",
     "iVOWEL SIGN ItUtEtOiPASSIMBANGiEND OF SECTION"]⟩,
   ⟨0x11FB0, ["aLISU LETTER YHA"]⟩,
   ⟨0x11FC0, ["aTAMIL FRACTION ONE THREE-HUNDRED-AND-TWENTIETHtONE-HUNDRED-AND-SIXTIETH",
     "tEIGHTIETHtSIXTY-FOURTHtFORTIETHtTHIRTY-SECONDpTHREE EIGHTIETHS",
     "vSIXTY-FOURTHSpONE TWENTIETHtSIXTEENTH-1zNTH-2tTENTHtEIGHTHpTHREE TWENTIETHS",
     "vSIXTEENTHSpONE FIFTHtQUARTERtHALF-1y2pTHREE QUARTERS",
     "pDOWNSCALING FACTOR KIIZHgSIGN NELlCEVITUlAAZHAAKKUlUZHAKKUlMUUVUZHAKKU",
     "lKURUNIlPATHAKKUlMUKKURUNIlKAACUlPANAMmONlVARAAKANlPAARAMlKUZHIlVELI",
     "gWET CULTIVATION SIGNgDRY CULTIVATION SIGNgLAND SIGNgSALT PAN SIGN",
     "gTRADITIONAL CREDIT SIGNsNUMBER SIGNgCURRENT SIGNgAND ODD SIGNgSPENT SIGN",
     "gTOTAL SIGNgIN POSSESSION SIGNgSTARTING FROM SIGNhIGN MUTHALIYAlVAKAIYARAA"]⟩,
   ⟨0x11FFF, ["aTAMIL PUNCTUATION END OF TEXTaCUNEIFORM SIGN Aq TIMES AxBADxGAN2 TENUxHA",
     "xIGIxLAGAR GUNUxMUSHxSAGq2qBr TIMES ASH2yDUN3 GUNUyGALzAN2 TENUyHAyIGI GUNU",
     "zMINyLAGABySHESHyU PLUS U PLUS UsGUNUr2s TIMES BALAGzGAN2 TENUzME PLUS EN",
     "zSHA3zTAK4qDqKr TIMES ERIN2ySHITA PLUS GISHqLr TIMES ALyDIM2yGISHyHAyKAD3zI",
     "ySHEyUSHrANrEPHqMARt TIMES SHEqNr OVER ANsTHREE TIMES",
     "sPLUS NAGA OPPOSING AN PLUS NAGAzGA SQUAREDrSHEqPINqRADt TIMES KURrKABqSAL2",
     "rHs ZIDA TENUtKABA TENUtOVER ASH TUG2 OVER TUG2 TUG2 OVER TUG2 PAP",
     "zSH OVER ASHzSH OVER ASH CROSSING ASH OVER ASH OVER ASHs2sGABpBArDrG3rHAR2rL",
     "s OVER BALsAGrRsA2qIr TIMES AyGARyIGI GUNUqUr OVER BU ABz UNsCROSSING BUrLUG",
     "u OVER BULUGrRs2pDArGs KISIM5 TIMES A PLUS MASHz TIMES AMARz TIMES BALAG",
     "z TIMES BIz TIMES GAz TIMES GA PLUS MASHz TIMES GIz TIMES GIR2z TIMES GUD",
     "z TIMES HAz TIMES IRz TIMES IR PLUS LUz TIMES KAKz TIMES LAz TIMES LU",
     "z TIMES LU PLUS MASH2z TIMES LUMz TIMES NEz TIMES PAP PLUS PAPz TIMES SI",
     "z TIMES TAK4z TIMES U2 PLUS GIR2z TIMES USHrMrRsA3t4qIrBrMs TIMES SHEs2rN",
     "s KASKAL U GUNU DISHrSHqUr OVER DUsGUNUsSHESHIGrBs TIMES ESH2s2rGsUDrHrNs3",
     "t GUNUy GUNUs4rR2pEq TIMES PAPrOVER E NUN OVER NUNq2",
     "r TIMES A PLUS HA PLUS DAyGARyMIySALzHEyUqDINqGIRqLqNr TIMES GAN2zAN2 TENU",
     "yMEsCROSSING ENsOPPOSING ENsSQUAREDqRENrIN2qSH2qZENt TIMES Az A PLUS LAL",
     "z A PLUS LAL TIMES LALz ANz BADz DUN3 GUNUz DUN3 GUNU GUNUz HAz HA GUNU",
     "z IGI GUNUz KASKALz KASKAL SQUAREDz KU3z LAz LAL TIMES LALz LIz LUz U2z UD",
     "pGAr GUNUr2s TIMES A PLUS DA PLUS HAzA PLUS HAzA PLUS IGIzAB2 TENU PLUS TAB",
     "zANzASHzASH2 PLUS GALzBADzBAR PLUS RAzBURzBUR PLUS RAzDAzDIzDIM TIMES SHE",
     "zDUBzELzEL PLUS LAzENzEN TIMES GAN2 TENUzGAN2 TENUzGARzGIzGI4zGI4 PLUS A",
     "zGIR2 PLUS SUzHA PLUS LU PLUS ESH2zHALzHAL PLUS LAzHI PLUS LIzHUB2zIGI GUNU",
     "zISH PLUS HU PLUS ASHzKAKzKASKALzKIDzKID PLUS LALzKU3 PLUS ANzLAzME PLUS EN",
     "zMIzNUNzNUN OVER NUNzPAzSALzSARzSHEzSHE PLUS TURzSHIDzSUMzTAK4zUzUD",
     "zUD PLUS DUtOVER GA2rBAt CROSSING GABArDs OVER GAD GAR OVER GARrL",
     "s GAD OVER GAD GAR OVER GARsAMrMrNs2t TENUuOVER GAN2uCROSSING GAN2rRs3rSHAN",
     "qESHTINw TIMES KURqIr TIMES EyUsCROSSING GIr4s OVER GI4tCROSSING GI4rDIMrR2",
     "t GUNUs3t TIMES A PLUS IGIz GAN2 TENUz IGIz LU PLUS IGIz PArSALsH",
     "t CROSSING GISHuTIMES BADz TAK4vENUqUr CROSSING GUr2s TIMES KAK",
     "zKAK TIMES IGI GUNUzNUNzSAL PLUS TUG2tGUNUrDs TIMES A PLUS KURzKUR",
     "tOVER GUD LUGALrLrMs TIMES SHErRs7sUNtSHpHAr TENUsGUNUrLqIr TIMES ASHzSH2",
     "yBADyDISHyGADyKINyNUNySHEyUqUrB2t TIMES ANz HALz KASKALz LISHz UDrL2pIq AqB",
     "qDIMt OVER IDIM BURzIDIM SQUAREDqGrIs DIBtRI",
     "tOVER IGI SHIR OVER SHIR UD OVER UDtGUNUqLr TIMES GAN2 TENUr2qMr TIMES TAK4",
     "sCROSSING IMsOPPOSING IMsSQUAREDrINqNqRqSHpKAr TIMES AzDzD PLUS KU3zSH2yBAD",
     "zALAGzARzIyERIN2zSH2yGAzALzAN2 TENUzARzAR PLUS SHA3 PLUS AzIzIR2",
     "zISH PLUS SARzISH CROSSING GISHzUzUR7yIGIzMyKAKzIzIDyLIzUyMEzE PLUS DU",
     "zE PLUS GIzE PLUS TEzIzI PLUS NUNUZyNEzUNyPIyRUySAzARzHAzHEzHIDzHUzIGzUHUR",
     "yTARyUz2zDzMUM TIMES PAzSHyZIr2s CROSSING KA2rBrD2s3s4s5t OVER KAD5rK",
     "s TIMES IGI GUNUrLs TIMES BADtCROSSING KALrM2s4rSKAL",
     "v LAGAB TIMES U OVER LAGAB TIMES U",
     "wOVER KASKAL LAGAB TIMES U OVER LAGAB TIMES UqESH2qIr TIMES BADyUzDrDrNrSAL",
     "sHsIM5v OVER KISIM5qUr OVER HI TIMES ASH2 KU OVER HI TIMES ASH2r3r4",
     "s VARIANT FORMr7rLs GUNUrNrRs OPPOSING KURrSHU2qWU318pLArGABu TIMES A",
     "zS A PLUS DA PLUS HAzS A PLUS GARzS A PLUS LALzS ALzS ANzS ASH ZIDA TENU",
     "zS BADzS BIzS DARzS ENzS GAzS GARzS GUDzS GUD PLUS GUDzS HAzS HAL",
     "zS HI TIMES NUNzS IGI GUNUzS IMzS IM PLUS HAzS IM PLUS LUzS KIzS KINzS KU3",
     "zS KULzS KUL PLUS HI PLUS AzS LAGABzS LISHzS LUzS LULzS MEzS ME PLUS EN",
     "zS MUSHzS NEzS SHE PLUS SUMzS SHITA PLUS GISH PLUS ERIN2",
     "zS SHITA PLUS GISH TENUzS SHU2zS SHU2 PLUS SHU2zS SUMzS TAGzS TAK4",
     "zS TE PLUS A PLUS SU PLUS NAzS UzS U PLUS AzS U PLUS U PLUS UzS U2 PLUS ASH",
     "zS UDzS USHvSQUAREDtRu TIMES SHEzS SHE PLUS SUMvGUNUz OVER LAGAR GUNU SHE",
     "rHSHUrLs TIMES LALrMs TIMES KURzKUR PLUS RUqIrLrMMU2rSHqUr TIMES BADr2",
     "s TIMES ALzBADzESH2zESH2 TENUzGAN2 TENUzHI TIMES BADzIMzKAD2zKAD3",
     "zKAD3 PLUS ASHzKIzLA PLUS ASHzLAGABzME PLUS ENzNEzNUzSI PLUS ASH",
     "zSIK2 PLUS BUzTUG2uENUtCROSSING LU2tOPPOSING LU2tSQUAREDuHESHIGr3rGAL",
     "u OVER LUGALwPPOSING LUGALvSHESHIGrHrLrMs OVER LUMzUM GAR OVER GARpMA",
     "r TIMES TAK4sGUNUr2rHrRrSHt2qErSqIrNqUr OVER MUrGs GUNUrNSUBrRGU2rSH",
     "t TIMES Az KURz ZAuOVER MUSHzMUSH TIMES A PLUS NAuCROSSING MUSHt3u TIMES A",
     "zS A PLUS DIzS DIvGUNUpNAr2rGAt INVERTEDuTIMES SHU TENUuOPPOSING NAGAtR",
     "rM NUTILLUss2qEr TIMES AyUDsSHESHIGqIr TIMES Er2rMs TIMES GAN2 TENU",
     "zGAR PLUS GAN2 TENUrNDA2v TIMES ANzES ASHzES ASH PLUS ASHzES GUD",
     "zES ME PLUS GAN2 TENUzES NEzES NUNzES SHEzES SHE PLUS A ANzES SHE PLUS ASH",
     "zES SHE PLUS ASH PLUS ASHzES U2 PLUS ASHzES USHrSAGqUr11rNs LAGAR TIMES GAR",
     "zTIMES MASHzTIMES SALzTIMES SAL OVER NUN LAGAR TIMES SALzTIMES USHtTENU",
     "tOVER NUNtCROSSING NUNzNG NUN LAGAR OVER LAGARsUZu AB2 TIMES ASHGABzTIMES BI",
     "zTIMES DUGzTIMES GUDzTIMES IGI GUNUzTIMES KAD3zTIMES LAzTIMES NEzTIMES SILA3",
     "zTIMES U2vKISIM5 TIMES BIzM5 TIMES BI UpPArDrNrPqESH2qIr TIMES AzByBIzUyEyI",
     "zByUz2sCROSSING PIrRIGu TIMES KALzS UDzS ZAvOPPOSING PIRIGpRArBqIqUpSA",
     "rG NUTILLUss TIMES AzDUzDUBzHAzKAKzKURzLUMzMIzNUNzSALzSHIDzTABzU2zUBzUMzUR",
     "zUSHtOVER SAGtGUNUrLs LAGAB TIMES ASH2rNGA2rRqHAs3t TIMES Az BADz GISHz NE",
     "z SHU2z TURz Uz U PLUS As6sB6sR2rEs HUtOVER SHE GAD OVER GAD GAR OVER GAR",
     "zHE TAB OVER TAB GAR OVER GARsG9sNsSHu2uLAMrIDt TIMES Az IMsMt TIMES Az BAL",
     "z BULUGz DINz GARz IGIz IGI GUNUz KUSHU2z LULz MUGz SALsNIGsRt TENU",
     "uOVER SHIR BUR OVER BURsTArUs OVER INVERTED SHUs2sBURqIr GUNUrGs4",
     "t OVER SIG4 SHU2rK2rLA3qUr OVER SUrDs2rHURrMsASHrRs9pTAr ASTERISKsTIMES HI",
     "yMIsGUNUrBs OVER TAB NI OVER NI DISH OVER DISHtSQUAREDrGs TIMES BIzGUDzSHE",
     "zSHUzTUG2zUDrK4rRqEr GUNUqIr TENUrLrRs TIMES TAK4tOVER TIR",
     "zIR GAD OVER GAD GAR OVER GARqUrG2rKrMrRs OVER TUR ZA OVER ZApUq GUDrU U",
     "rOVER U PA OVER PA GAR OVER GARySUR OVER SURyU REVERSED OVER U REVERSEDq2qB",
     "qDr KUSHU2sTIMES BADyMIyU PLUS U PLUS Uz PLUS U PLUS U GUNUsGUNUsSHESHIG",
     "z TIMES BADrUGqMr TIMES LAGAByME PLUS DAySHA3yUrBINrUMt TIMES KASKALz PAqN",
     "r GUNUqRr CROSSING URsSHESHIGr2s TIMES A PLUS HAzA PLUS NAzALzHAzNUNzU2",
     "zU2 PLUS ASHzU2 PLUS BIr4rIs3rUs TIMES AzASHGABzBARzDUNzGAzGALzGAN2 TENUzGAR",
     "zGUzHAzIGIzIMzISHzKIzLUMzMINzPAzSHEzSIG4zTUzU PLUS GUDzUDzURUDAsDAu TIMES U",
     "qSHs TIMES AzKUzKURzTAK4sXs2sUMXqTUKIqZ3s TIMES KASKALrUpZAr TENU",
     "sSQUARED TIMES KURrGrMXqE2qIr OVER ZIr3rBs KABA TENUrGrZ2qUr5s TIMES ArBURrM",
     "pKAP ELAMITEpAB TIMES NUNr2 TIMES AqMAR TIMES KUG",
     "pDAG KISIM5 TIMES U2 PLUS MASHs3qISH PLUS SHUqUB TIMES SHEpEZEN TIMES GUD",
     "z SHEpGA2 TIMES AN PLUS KAK PLUS AzASH2qE22qIGpHUSHpKA TIMES ANSHEzSH3yGISH",
     "zUDyHI TIMES ASH2yLUMyPAySHULyTUyUR2pLAGAB TIMES GIqU2 SHESHIG TIMES BAD",
     "tTIMES ESH2 PLUS LALzSHUpMESHqUSH3 TIMES ZApNA4qINs9sDA2 TIMES BALzES GI",
     "qU11 ROTATED NINETY DEGREESpPESH2 ASTERISKqIR2pSAG TIMES IGI GUNUpTI2",
     "pUM TIMES MEq U"]⟩,
   ⟨0x12400, ["aCUNEIFORM NUMERIC SIGN TWO ASHyHREE ASHxFOUR ASHyIVE ASHxSIX ASHyEVEN ASH",
     "xEIGHT ASHxNINE ASHxTHREE DISHxFOUR DISHyIVE DISHxSIX DISHyEVEN DISH",
     "xEIGHT DISHxNINE DISHxFOUR UyIVE UxSIX UyEVEN UxEIGHT UxNINE UxONE GESH2",
     "xTWO GESH2yHREE GESH2xFOUR GESH2yIVE GESH2xSIX GESH2yEVEN GESH2xEIGHT GESH2",
     "xNINE GESH2xONE GESHUxTWO GESHUyHREE GESHUxFOUR GESHUyIVE GESHUxTWO SHAR2",
     "yHREE SHAR2zREE SHAR2 VARIANT FORMxFOUR SHAR2yIVE SHAR2xSIX SHAR2yEVEN SHAR2",
     "xEIGHT SHAR2xNINE SHAR2xONE SHARUxTWO SHARUyHREE SHARU",
     "zREE SHARU VARIANT FORMxFOUR SHARUyIVE SHARUxSHAR2 TIMES GAL PLUS DISH",
     "zAR2 TIMES GAL PLUS MINxONE BURUxTWO BURUyHREE BURUzREE BURU VARIANT FORM",
     "xFOUR BURUyIVE BURUxTHREE VARIANT FORM ESH16zREE VARIANT FORM ESH21",
     "xFOUR VARIANT FORM LIMMUzUR VARIANT FORM LIMMU4zUR VARIANT FORM LIMMU A",
     "zUR VARIANT FORM LIMMU BxSIX VARIANT FORM ASH9yEVEN VARIANT FORM IMIN3",
     "zVEN VARIANT FORM IMIN AzVEN VARIANT FORM IMIN BxEIGHT VARIANT FORM USSU",
     "zGHT VARIANT FORM USSU3xNINE VARIANT FORM ILIMMUzNE VARIANT FORM ILIMMU3",
     "zNE VARIANT FORM ILIMMU4zNE VARIANT FORM ILIMMU AxTWO ASH TENUyHREE ASH TENU",
     "xFOUR ASH TENUyIVE ASH TENUxSIX ASH TENUxONE BAN2xTWO BAN2yHREE BAN2",
     "xFOUR BAN2zUR BAN2 VARIANT FORMyIVE BAN2zVE BAN2 VARIANT FORMxNIGIDAMIN",
     "zGIDAESHxONE ESHE3xTWO ESHE3xONE THIRD DISHxTWO THIRDS DISHxFIVE SIXTHS DISH",
     "xONE THIRD VARIANT FORM AxTWO THIRDS VARIANT FORM AxONE EIGHTH ASH",
     "zE QUARTER ASHyLD ASSYRIAN ONE SIXTHzD ASSYRIAN ONE QUARTERyNE QUARTER GUR",
     "zE HALF GURxELAMITE ONE THIRDzAMITE TWO THIRDSzAMITE FORTYzAMITE FIFTY",
     "xFOUR U VARIANT FORMyIVE U VARIANT FORMxSIX U VARIANT FORM",
     "yEVEN U VARIANT FORMxEIGHT U VARIANT FORMxNINE U VARIANT FORM"]⟩,
   ⟨0x12470, ["aCUNEIFORM PUNCTUATION SIGN OLD ASSYRIAN WORD DIVIDERzN VERTICAL COLON",
     "zN DIAGONAL COLONzN DIAGONAL TRICOLONzN DIAGONAL QUADCOLON"]⟩,
   ⟨0x12480, ["aCUNEIFORM SIGN AB TIMES NUN TENUySHU2qD TIMES ESH2pBAD TIMES DISH TENU",
     "rHAR2 TIMES AB2zES NIzES ZAqU OVER BU TIMES NA2pDA TIMES TAK4rG TIMES KUR",
     "qIM TIMES IGIzU U Us2 TIMES UDqUG TIMES ANSHEzASHzASH AT LEFTzDINzDUNzERIN2",
     "zGAzGIzGIR2 GUNUzGISHzHAzHIzIGI GUNUzKASKALzKURzKUSHU2zKUSHU2 PLUS KASKAL",
     "zLAK-020zLAMzLAM TIMES KURzLUH PLUS GISHzMASHzMESzMIzNIzPIzSHEzSI GUNU",
     "pE2 TIMES KURyPAPqRIN2 XqSH2 CROSSING ESH2qZEN SHESHIG TIMES ASHzIG TIMES HI",
     "zIG TIMES IGI GUNUzIG TIMES LAzIG TIMES LALzIG TIMES MEzIG TIMES MES",
     "zIG TIMES SUuTIMES SUpGA2 TIMES BAHAR2zDIM GUNUzDUG TIMES IGI GUNU",
     "zDUG TIMES KASKALzERENzGAzGAR PLUS DIzGAR PLUS NEzHA PLUS A",
     "zKUSHU2 PLUS KASKALzLAMzLAM TIMES KURzLUHzMUSHzNEzNE PLUS E2zNE PLUS GIzSHIM",
     "zZIZ2rBA ROTATED NINETY DEGREESqESHTIN TIMES UqISH TIMES GISH CROSSING GISH",
     "qU2 TIMES IGI GUNUrD PLUS GISH TIMES TAK4pHA TENU GUNU",
     "qI TIMES ASH OVER HI TIMES ASHpKA TIMES BUyKAyU U UzRpLAGAB TIMES ZU OVER ZU",
     "rK-003u21v5u30u50v1u62u79 OVER LAK-079 GUNUu80v1 OVER LAK-081u92t130u42t210",
     "v9u20v5v8u38u65v6t343v7v8u83v4u90t441v9w TIMES GUzMES IGIzMES PAP PLUS LU3",
     "zMES PAP PLUS PAP PLUS LU3zMES U2 PLUS BAu50v7u70u83u90v2v3v5t550t608u17",
     "w TIMES ASHzMES BADzMES DUN3 GUNU GUNUzMES KU3zMES LAzMES TARzMES TEzMES U2",
     "zMES UDzMES URUDAu36u48w TIMES DUBzMES GAzMES IGIzMES IGI GUNUzMES NI",
     "zMES PAP PLUS PAP PLUS LU3zMES SHESH PLUS KIzMES UDzMES URUDAt724u49",
     "qU2 GUNU TIMES ASHtTIMES DISHzHALzPAPzPAP PLUS PAP PLUS LU3zTAK4pMI PLUS ZA7",
     "qUSH OVER MUSH TIMES GAzMUSH TIMES KAKpNINDA2 TIMES DIM GUNUzES GISHzES GUL",
     "zES HIzES KESH2zES LAK-050zES MASHzES PAP PLUS PAPzES UzES U PLUS UzES URUDA",
     "pSAG GUNU TIMES HAtTIMES ENzSHE AT LEFTzTAK4qHA6 TENUrE OVER SHEtPLUS HUB2",
     "yNAM2ySARrU2 PLUS DUG TIMES NIzE2 TIMES ANqI TIMES TAK4pTAK4 PLUS SAG",
     "qUM TIMES GAN2 TENUzTHREE DISHpUR2 INVERTEDtTIMES UDrU TIMES DARA3zLAK-668",
     "zLU3pZA7qU OVER ZU PLUS SARr5 TIMES THREE DISH TENU"]⟩,
   ⟨0x12F90, ["aCYPRO-MINOAN SIGN CM001w2w4w5w6w7w8w9v10w1w2xBw3w5w7w9v21w3w4w5w6w7w8w9v30",
     "w3w4w5w6w7w8w9v40w1w4w6w7w9v50w1w2w3w4w5w6w8w9v60w1w2w3w4w6w7w8w9v70w1w2w3w4",
     "w5xBw6w8w9v80w1w2w3w4w5w6w7w8w9v90w1w2w4w5w6w7w8w9u100w1w2w3w4w5w7w8w9v10w2",
     "w4u301w2"]⟩,
   ⟨0x13000, ["aEGYPTIAN HIEROGLYPH A001x2x3x4x5yAx6yAyBx7x8x9w10x1x2x3x4yAx5x6x7yAx8x9w20",
     "x1x2x3x4x5x6x7x8x9w30x1x2yAx3x4x5x6x7x8x9w40yAx1x2yAx3yAx4x5yAx6x7x8x9w50x1",
     "x2x3x4x5x6x7x8x9w60x1x2x3x4x5x6x7x8x9w70uB001x2x3x4x5yAx6x7x8x9uC001x2yAyByC",
     "x3x4x5x6x7x8x9w10yAx1x2x3x4x5x6x7x8x9w20x1x2x3x4uD001x2x3x4x5x6x7x8yAx9w10x1",
     "x2x3x4x5x6x7x8x9w20x1x2x3x4x5x6x7yAx8x9w30x1yAx2x3x4yAx5x6x7x8x9w40x1x2x3x4",
     "x5x6yAx7x8yAx9w50yAyByCyDyEyFyGyHyIx1x2yAx3x4yAx5x6x7x8x9w60x1x2x3x4x5x6x7yA",
     "yByCyDyEyFyGyHuE001x2x3x4x5x6x7x8yAx9yAw10x1x2x3x4x5x6yAx7yAx8x9w20yAx1x2x3",
     "x4x5x6x7x8yAx9w30x1x2x3x4yAx6x7x8uF001yAx2x3x4x5x6x7x8x9w10x1x2x3yAx4x5x6x7",
     "x8x9w20x1yAx2x3x4x5x6x7x8x9w30x1yAx2x3x4x5x6x7yAx8yAx9w40x1x2x3x4x5yAx6yAx7",
     "yAx8x9w50x1yAyByCx2x3uG001x2x3x4x5x6yAx7yAyBx8x9w10x1yAx2x3x4x5x6x7x8x9w20yA",
     "x1x2x3x4x5x6yAx7x8x9w30x1x2x3x4x5x6yAx7yAx8x9w40x1x2x3yAx4x5yAx6x7x8x9w50x1",
     "x2x3x4uH001x2x3x4x5x6yAx7x8uI001x2x3x4x5yAx6x7x8x9yAw10yAx1yAx2x3x4x5uK001x2",
     "x3x4x5x6x7x8uL001x2yAx3x4x5x6yAx7x8uM001yAyBx2x3yAx4x5x6x7x8x9w10yAx1x2yAyB",
     "yCyDyEyFyGyHx3x4x5yAx6yAx7yAx8x9w20x1x2yAx3x4yAx5x6x7x8yAx9w30x1yAx2x3yAyBx4",
     "x5x6x7x8x9w40yAx1x2x3x4uN001x2x3x4x5x6x7x8x9w10x1x2x3x4x5x6x7x8yAyBx9w20x1x2",
     "x3x4x5yAx6x7x8x9w30x1x2x3yAx4yAx5yAx6x7yAx8x9w40x1x2vL001y2y3y4y5zAy6y7y8y9",
     "x10y1y2y3y4y5y6y7zAy8y9x20vU001y2y3y4y5y6y7y8y9x10zAy1zAy2y3y4y5y6y7y8zAy9",
     "x20y1y2zAuO001yAx2x3x4x5yAx6yAyByCyDyEyFx7x8x9w10yAyByCx1x2x3x4x5x6x7x8x9yA",
     "w20yAx1x2x3x4yAx5yAx6x7x8x9yAw30yAx1x2x3yAx4x5x6yAyByCyDx7x8x9w40x1x2x3x4x5",
     "x6x7x8x9w50yAyBx1uP001yAx2x3yAx4x5x6x7x8x9w10x1uQ001x2x3x4x5x6x7uR001x2yAx3",
     "yAyBx4x5x6x7x8x9w10yAx1x2x3x4x5x6yAx7x8x9w20x1x2x3x4x5x6x7x8x9uS001x2yAx3x4",
     "x5x6yAx7x8x9w10x1x2x3x4yAyBx5x6x7yAx8x9w20x1x2x3x4x5x6yAyBx7x8x9w30x1x2x3x4",
     "x5yAx6x7x8x9w40x1x2x3x4x5x6uT001x2x3yAx4x5x6x7yAx8yAx9yAw10x1yAx2x3x4x5x6yA",
     "x7x8x9w20x1x2x3x4x5x6x7x8x9w30x1x2yAx3yAx4x5x6uU001x2x3x4x5x6yAyBx7x8x9w10x1",
     "x2x3x4x5x6x7x8x9w20x1x2x3yAx4x5x6x7x8x9yAw30x1x2yAx3x4x5x6x7x8x9w40x1x2uV001",
     "yAyByCyDyEyFyGyHyIx2yAx3x4x5x6x7yAyBx8x9w10x1yAyByCx2yAyBx3x4x5x6x7x8x9w20yA",
     "yByCyDyEyFyGyHyIyJyKyLx1x2x3yAx4x5x6x7x8yAx9yAw30yAx1yAx2x3yAx4x5x6x7yAx8x9",
     "w40yAuW001x2x3yAx4x5x6x7x8x9yAw10yAx1x2x3x4yAx5x6x7yAx8yAx9w20x1x2x3x4yAx5",
     "uX001x2x3x4yAyBx5x6yAx7x8yAuY001yAx2x3x4x5x6x7x8uZ001x2yAyByCyDx3yAyBx4yAx5",
     "yAx6x7x8x9w10x1x2x3x4x5yAyByCyDyEyFyGyHyIx6yAyByCyDyEyFyGyHuAA001y2y3y4y5y6",
     "y7zAzBy8y9x10y1y2y3y4y5y6y7y8y9x20y1y2y3y4y5y6y7y8y9x30y1y2"]⟩,
   ⟨0x13430, ["aEGYPTIAN HIEROGLYPH VERTICAL JOINERuHORIZONTAL JOINERuINSERT AT TOP START",
     "zT AT BOTTOM STARTzT AT TOP ENDzT AT BOTTOM ENDuOVERLAY MIDDLEuBEGIN SEGMENT",
     "uEND SEGMENT"]⟩,
   ⟨0x14400, ["aANATOLIAN HIEROGLYPH A001y2y3y4y5y6y7y8y9x10zAy1y2y3y4y5y6y7y8y9x20y1y2y3y4",
     "y5y6zAy7y8y9x30y1y2y3y4y5y6y7y8y9zAx40y1zAy2y3y4y5zAy6zAzBy7y8y9x50y1y2y3y4",
     "y5y6y7y8y9x60y1y2y3y4y5y6zAzBzCy7y8y9x70y1y2y3y4y5y6y7y8y9x80y1y2y3y4y5y6y7",
     "y8y9x90y1y2y3y4y5y6y7zAy8zAy9w100zAy1zAy2zAy3y4zAzBzCy5zAzBy6y7zAzBzCy8y9x10",
     "zAzBy1y2y3y4y5zAy6y7y8y9x20y1y2y3y4y5zAy6y7y8y9x30y1y2y3y4y5zAy6y7y8y9x40y1",
     "y2y3y4y5y6y7y8y9x50y1y2y3y4y5y6y7y8y9x60y1y2y3y4y5y6y7y8y9x70y1y2y3y4y5y6y7",
     "y8y9x80y1y2y3y4y5y6y7y8y9x90y1y2y3y4y5y6y7y8y9w200y1y2zAzBy3y4y5y6y7zAy8y9zA",
     "x10y1y2y3y4y5zAy6zAy7y8y9x20y1y2y3y4y5y6y7zAy8y9x30y1y2y3y4y5y6y7y8y9x40y1y2",
     "y3y4y5y6y7y8y9x50y1y2y3y4y5y6y7y8y9x60y1y2y3y4y5y6y7zAy8y9x70y1y2y3y4y5y6y7",
     "y8y9x80y1y2y3y4y5y6y7y8y9zAx90y1y2y3y4zAy5y6y7y8y9zAw300y1y2y3y4y5y6y7y8y9zA",
     "x10y1y2y3y4y5y6y7y8y9x20y1y2y3y4y5y6y7y8y9zAx30y1y2AzBzCy3y4y5y6zAzBzCy7y8y9",
     "x40y1y2y3y4y5y6y7y8y9x50y1y2y3y4y5y6y7y8y9zAx60y1y2y3y4zAy5y6y7y8zAy9x70y1zA",
     "y2y3y4y5y6y7y8y9x80y1zAy2y3 RA OR RIzAy4y5y6zAy7y8y9x90y1y2y3 EIGHTy4y5y6y7",
     "y8y9w400y1y2y3y4y5y6y7y8y9x10 BEGIN LOGOGRAM MARKzA END LOGOGRAM MARKy1y2y3",
     "y4y5y6y7y8y9x20y1y2y3y4y5y6y7y8y9x30y1y2y3y4y5y6y7y8y9x40y1y2y3y4y5y6y7y8y9",
     "x50zAy1y2y3y4y5y6y7zAy8y9x60y1y2y3y4y5y6y7y8y9x70y1y2y3y4y5y6y7y8y9x80y1y2y3",
     "y4y5y6y7y8y9x90y1y2y3y4y5y6y7w501y2y3y4y5y6y7y8y9x10y1y2y3y4y5y6y7y8y9x20y1",
     "y2y3y4y5y6y7y8y9x30"]⟩,
   ⟨0x16800, ["aBAMUM LETTER PHASE-A NGKUE MFONvGBIEE FONvPON MFON PIPAEMGBIEE",
     "zMFON PIPAEMBAvNAA MFONvSHUENSHUETvTITA MFONvNZA MFONvSHINDA PA NJI",
     "vPON PA NJI PIPAEMGBIEEzPA NJI PIPAEMBAvMAEMBGBIEEvTU MAEMBAvNGANGUvMAEMVEUX",
     "xNSUAEwVEUAENGAMvSEUNYAMvNTOQPENvKEUKEUTNDAvNKINDIvSUUvNGKUENZEUMvLAPAQ",
     "wET KUTvNTAP MFAAvMAEKEUPvPASHAEvGHEUAERAEvPAMSHAEvMON NGGEUAETvNZUN MEUT",
     "vU YUQ NAEvGHEUAEGHEUAEvNTAP NTAAvSISAvMGBASAwEUNJOMNDEUQwOOMPUQvKAFA",
     "vPA LEERAEWAvNDA LEERAEWAvPETvMAEMKPENvNIKAvPUPvTUAEPvLUAEPvSONJAMvTEUTEUWEN",
     "vMAENYIvKETvNDAANGGEUAETvKUOQvMOOMEUTvSHUMvLOMMAEvFIRIvROMvKPOQvSOQ",
     "vMAP PIEETvSHIRAEvNTAPvSHOQ NSHUT YUMvNYIT MONGKEUAEQvPAARAEvNKAARAEvUNKNOWN",
     "vNGGENvMAESIvNJAMvMBANYIvNYETvTEUAENvSOTvPAAMvNSHIEEvMAEMvNYIvKAQvNSHAvVEE",
     "vLUvNENwAQvMBAQtB NSHUETvTU MAEMGBIEEvSIEEwET TUvLOM NTEUMvMBA MAELEEvKIEEM",
     "vYEURAEvMBAARAEvKAMvPEESHIvYAFU LEERAEWAvLAM NSHUT NYAMvNTIEE SHEUOQwDU NJAA",
     "vGHEUGHEUAEMvPITvTU NSIEEvSHET NJAQyUAEQTUvMFON TEUAEQwBIT MBAAKETvNYI NTEUM",
     "vKEUPUQvGHEUGHENvKEUYEUXvLAANAEvPARUMvVEUMvNGKINDI MVOPxGEU MBUvWUAET",
     "vSAKEUAEvTAAMvMEUQvNGGUOQzOQ LARGEvMFIYAQvSUEvMBEURIwONTIEENvNYAEMAEvPUNGAAM",
     "vMEUT NGGEETvFEUXvMBUOQvFEEvKEUAEMvMA NJEUAENAzJUQAvLETvNGGAAMwSENvMAvKIQ",
     "vNGOMtC NGKUE MAEMBAwZAvYUMvWANGKUOQvNGGENwDEUAEREEwGKAQvGHARAEvMBEEKEET",
     "vGBAYIvNYIR MKPARAQ MEUNwTU MBITvMBEUMvPIRIEENvNDOMBUvMBAA CABBAGE-TREE",
     "vKEUSHEUAEPvGHAPvKEUKAQvYU MUOMAEvNZEUMvMBUEvNSEUAENvMBITvYEUQvKPARAQwAA",
     "vSEUXvNDIDAvTAASHAEvNJUEQvTITA YUEvSUAETvNGGUAEN NYAMvVEUXvNANSANAQ",
     "vMA KEUAERIvNTAAwGGUONvLAPvMBIRIEENwGBASAQvNTEUNGBAvTEUTEUXvNGGUMvFUEvNDEUT",
     "wSAxHAQvBUNGvVEUAEPENvMBERAEvRUvNJAEMvLAMvTITUAEPvNSUOT NGOMwJEEEEvKETvNGGU",
     "vMAESIwBUAEMvLUvKUTvNJAMwGOMvWUPvNGGUEETwSOMwTENvKUOP NKAARAEvNSUNwDAM",
     "vMA NSIEEvYAAvNDAPvSHUEQwETFONvMBIwAEMBAwBANYIvKEUSEUXvMBEUXvKEUM",
     "vMBAA PICKETvYUWOQvNJEUXvMIEEwUAEvSHIQvKEN LAWzFATIGUEvNGAQwAQvLIQvPINwEN",
     "vTETtD MBUOvWAPvNJIvMFONvNJIEEvLIEEvNJEUTwSHEEwGGAAMAEwYAMvWUAENvNGKUNvSHEE",
     "vNGKAPvKEUAETMEUNvTEUTvSHEUAEvNJAPvSUEvKETvYAEMMAEvKUOMvSAPvMFEUTvNDEUX",
     "vMALEERIwEUTvSEUAEQvYENvNJEUAEMvKEUOT MBUAEvNGKEURIvTUvGHAAvNGKYEEvFEUFEUAET",
     "vNDEEvMGBOFUMvLEUAEPvNDONvMONIwGBEUNvPUUTvMGBIEEwFOvLUMvNSIEEPvMBAAvKWAET",
     "vNYETvTEUAENvSOTvYUWOQvKEUMvRAEMvTEEEEvNGKEUAEQvMFEUAEvNSIEETvKEUPvPIPwEUTAE",
     "vNYUEvLETvNGGAAMvMFIEEvNGGWAENvYUOMvPAPvYUOPvNDAMwTEUMvSUAEvKUNvNGGEUXxKIEE",
     "vTUOTvMEUNvKUQvNSUMvTEUNvMAENJETvNGGAPvLEUMvNGGUOMwSHUTwJUEQvGHEUAEvKU",
     "vREN OLDvTAEwOQvNYIvRIIvLEEEEvMEEEEwvSUUvMUvSHIIxEUXvKYEEvNUvSHUvNTEEvPEEvNI",
     "vSHOQvPUQvMVOPvLOQvREN MUCHvTIvNTUUvMBAA SEVENvSAQvFAAtE NDAPvTOONvMBEUMvLAP",
     "vVOMvLOONvPAAvSOMvRAQvNSHUOPwDUNvPUAEvTAMvNGKAvKPEUXvWUOvSEEvNGGEUAETvPAAM",
     "vTOOvKUOPvLOMvNSHIEEwGOPvMAEMvNGKEUXxOQwSHUEvRIMGBAvNJEUXvPEEMvSAAvNGGURAE",
     "vMGBAvGHEUXvNGKEUAEMwJAEMLIvMAPvLOOTvNGGEEEEwDIQvTAEN NTEUMvSETvPUM",
     "vNDAA SOFTNESSwGGUAESHAE NYAMvYIEEvGHEUNvTUAEvYEUAEvPOvTUMAEvKEUAEvSUAEN",
     "vTEUAEQvVEUAEvWEUXvLAAMvPUvTAAQvGHAAMAEvNGEUREUTvSHEUAEQvMGBENwBEEvNZAQwKOM",
     "vGBETvTUMvKUETvYAPvNYI CLEAVERvYITvMFEUQvNDIAQvPIEEQvYUEQvLEUAEMvFUEvGBEUX",
     "vNGKUPvKETvMAEvNGKAAMIvGHETvFAvNTUMvPEUTvYEUMvNGGEUAEwYI BETWEENwZUQvPOON",
     "vMIEEvFUETvNAEvMUAEvGHEUAEvFU IvMVIvPUAQvNGKUMvKUTvPIETvNTAPvYEUAETvNGGUP",
     "vPA PEOPLEvFU CALLwOMvNJEEvAvTOQvOvIvLAQvPA PLURALvTAAxQvNDAA MY HOUSEvSHIQ",
     "vYEUXvNGUAEvYUAENwOQ SWIMMINGzCOVERwUQxNvKEUXvPEUXvNJEE EPOCHvPUEvWUEvFEE",
     "vVEEvLUvMIvREUXwAEvNGUAETxAvSHOyQvFU REMEDYvNAvPIvLOQvKOvMENwAxQvTEUvKIvMON",
     "vTENvFAQvGHOMtF KAvUvKUvEEvREEvTAEvNYIvLAvRIIxEEvMEEEEvTAAvNDAAwJAEMvMvSUU",
     "wHIIwIwEUXvKYEEwETvNUAExwJUAEvYOQvSHUvYAvNSHAvPEUXvNTEEvWUEvPEEvRUvNIvREUX",
     "vKENvNGKWAENxGAvSHOvPUAEvFOMvWAvLIwOQvKOvMBENvRENvMAwOwBAAvTETvKPAvSAMBA",
     "vVUEQ"]⟩,
   ⟨0x16A40, ["aMRO LETTER TAlNGIlYOlMIMlBAlDAlAlPHIlKHAIlHAOlDAIlCHUlKEAAElOLlMAEMlNINlPA",
     "lOOmlROlSHIlTHEAlEAlWAlElKOlLANnlHAIlRIlTEK"]⟩,
   ⟨0x16A60, ["aMRO DIGIT ZEROkONEkTWOlHREEkFOURlIVEkSIXlEVENkEIGHTkNINE"]⟩,
   ⟨0x16A6E, ["aMRO DANDAfOUBLE DANDAaTANGSA LETTER OZpCpQpXoAZpCpQpXoVZpCpQpXoEZpCpQpXoIZ",
     "pCpQpXoUZpCpQpXoAWZqCqQqXoUIZqCqQqXoFINAL NGoLONG UEXoSHORT UEZuAWXoUECqZqQ",
     "qXpIUZrCrQrXoMZpCpQpXoKApHAoGAoNGAoSAoYAoWAoPAoNYAoPHAoBAoMAoNAoHAoLAoHTAoTA",
     "oDAoRAoNHAoSHAoCAoTSAoGHAoHTTAoTHAoXAoFAoDHAoCHAoZA"]⟩,
   ⟨0x16AC0, ["aTANGSA DIGIT ZEROnONEnTWOoHREEnFOURoIVEnSIXoEVENnEIGHTnNINE"]⟩,
   ⟨0x16AD0, ["aBASSA VAH LETTER ENNIrKArSErFArMBErYIErGAHrDHIIrKPAHrJOrHWAHrWArZOrGBUrDO",
     "rCErUWUrTOrBArVUrYEINrPArWADDArArOsOrUrEEsrI"]⟩,
   ⟨0x16AF0, ["aBASSA VAH COMBINING HIGH TONEuLOW TONEuMID TONEuLOW-MID TONEuHIGH-LOW TONE",
     "kFULL STOP"]⟩,
   ⟨0x16B00, ["aPAHAWH HMONG VOWEL KEEBwVuIBvVuAUBwVuUBvVuEBvVuAIBwVuOOBwVuAWBwVuUABwVuOBvV",
     "uIABwVuABvVuWBvVuAABwVnCONSONANT VAUxNTSAUxLAUxHAUxNLAUxRAUxNKAUxQHAUxYAU",
     "xHLAUxMAUxCHAUxNCHAUxHNAUxPLHAUxNTHAUyAUxAUxXAUxCAUnMARK CIM TUBwSOwKESxHAV",
     "wSUAMwHOMwTAUMnSIGN VOS THOMxSHAB CEEBsCIM CHEEMsVOS THIABwFEEMsXYEEM NTXIV",
     "yRHOyTOVyFAIBsVOS SEEVsMEEJ SUABsVOS NRUAsIB YAMsXAUSsCIM TSOV ROG"]⟩,
   ⟨0x16B50, ["aPAHAWH HMONG DIGIT ZEROtONEtTWOuHREEtFOURuIVEtSIXuEVENtEIGHTtNINE"]⟩,
   ⟨0x16B5B, ["aPAHAWH HMONG NUMBER TENSuHUNDREDSuTEN THOUSANDSuMILLIONSuHUNDRED MILLIONS",
     "uTEN BILLIONSvRILLIONS"]⟩,
   ⟨0x16B63, ["aPAHAWH HMONG SIGN VOS LUBsXYOOsHLIsTHIRD-STAGE HLIsZWJ THAJsHNUBsNQIGsXIAB",
     "sNTUJsAVsTXHEEJ CEEVsMEEJ TSEEBsTAUsLOSsMUSsCIM HAIS LUS NTOG NTOG",
     "wCUAM TSHOOJwTXWVzV CHWVwPUB DAWBwNRES TOS"]⟩,
   ⟨0x16B7D, ["aPAHAWH HMONG CLAN SIGN TSHEEJxYEEGxLISyAUJxXYOOJxKOOxHAWJxMUASxTHOJySAB",
     "xPHABxKHABxHAMxVAJxFAJxYAJxTSWBxKWMxVWJ"]⟩,
   ⟨0x16E40, ["aMEDEFAIDRIN CAPITAL LETTER MzR SzR VzR WzR ATIUzR ZzR KPzR PzR TzR GzR F",
     "zR IzR KzR AzR JzR EzR BzR CzR UzR YUzR LzR QzR HPzR NYzR XzR DzR OEzR NzR R",
     "zR OzR AIzR YmSMALL LETTER MzSzVzWzATIUzZzKPzPzTzGzFzIzKzAzJzEzBzCzUzYUzLzQ",
     "zHPzNYzXzDzOEzNzRzOzAIzYmDIGIT ZEROsONEsTWOtHREEsFOURtIVEsSIXtEVENsEIGHT",
     "sNINEmNUMBER TENtELEVENtTWELVEuHIRTEENtFOURTEENuIFTEENtSIXTEENuEVENTEEN",
     "tEIGHTEENtNINETEENmDIGIT ONE ALTERNATE FORMsTWO ALTERNATE FORM",
     "tHREE ALTERNATE FORMmCOMMAmFULL STOPmSYMBOL AIVAmEXCLAMATION OH"]⟩,
   ⟨0x16F00, ["aMIAO LETTER PAmBAmYI PAmPLAmMAnHAmARCHAIC MAmFAmVAnFAmTAmDAmYI TTAqAmTTA",
     "mDDAmNAnHAmYI NNAmARCHAIC NAmNNAoHAmLAnYAnHAoYAmTLHAmDLHAmTLHYAmDLHYAmKAmGA",
     "mYI KAmQAnGAmNGAoHAmARCHAIC NGAmHAmXAmGHAoHAmTSSAmDZZAmNYAoHAmTSHAmDZHA",
     "mYI TSHApDZHAmREFORMED TSHAmSHAnSAmZHAnSHAmTSAmDZAmYI TSAmSAmZAnSAnZAoSA",
     "mARCHAIC ZZAmZZYAoSYAmWAmAHmHHAmBRImSYImDZYImTEnSEmRTE"]⟩,
   ⟨0x16F4F, ["aMIAO SIGN CONSONANT MODIFIER BARfLETTER NASALIZATIONfSIGN ASPIRATION",
     "kREFORMED VOICINGtASPIRATIONfVOWEL SIGN ArArHHrNsGqOrOqWOrqErNsGqOEYqIrAsNtG",
     "rOrErIrUrNGqUrAsNtGrUrEIrNGqYrIqAEsEqERRqROUNDED ERRqERqROUNDED ERqAIqEIqAU",
     "qOUqNrGqUOGqYUIqOGrERqVWqIGqEAqIONGqUI"]⟩,
   ⟨0x16F8F, ["aMIAO TONE RIGHTkTOP RIGHTkABOVEkBELOWfLETTER TONE-2r3r4r5r6r7r8",
     "mREFORMED TONE-1z-2z-4z-5z-6z-8"]⟩,
   ⟨0x16FE0, ["aTANGUT ITERATION MARKaNUSHU ITERATION MARKaOLD CHINESE HOOK MARK",
     "mITERATION MARKaKHITAN SMALL SCRIPT FILLER"]⟩,
   ⟨0x16FF0, ["aVIETNAMESE ALTERNATE READING MARK CAzING MARK NHAY"]⟩,
   ⟨0x18800, ["aTANGUT COMPONENT-001t2t3t4t5t6t7t8t9s10t1t2t3t4t5t6t7t8t9s20t1t2t3t4t5t6t7",
     "t8t9s30t1t2t3t4t5t6t7t8t9s40t1t2t3t4t5t6t7t8t9s50t1t2t3t4t5t6t7t8t9s60t1t2t3",
     "t4t5t6t7t8t9s70t1t2t3t4t5t6t7t8t9s80t1t2t3t4t5t6t7t8t9s90t1t2t3t4t5t6t7t8t9",
     "r100t1t2t3t4t5t6t7t8t9s10t1t2t3t4t5t6t7t8t9s20t1t2t3t4t5t6t7t8t9s30t1t2t3t4",
     "t5t6t7t8t9s40t1t2t3t4t5t6t7t8t9s50t1t2t3t4t5t6t7t8t9s60t1t2t3t4t5t6t7t8t9s70",
     "t1t2t3t4t5t6t7t8t9s80t1t2t3t4t5t6t7t8t9s90t1t2t3t4t5t6t7t8t9r200t1t2t3t4t5t6",
     "t7t8t9s10t1t2t3t4t5t6t7t8t9s20t1t2t3t4t5t6t7t8t9s30t1t2t3t4t5t6t7t8t9s40t1t2",
     "t3t4t5t6t7t8t9s50t1t2t3t4t5t6t7t8t9s60t1t2t3t4t5t6t7t8t9s70t1t2t3t4t5t6t7t8",
     "t9s80t1t2t3t4t5t6t7t8t9s90t1t2t3t4t5t6t7t8t9r300t1t2t3t4t5t6t7t8t9s10t1t2t3",
     "t4t5t6t7t8t9s20t1t2t3t4t5t6t7t8t9s30t1t2t3t4t5t6t7t8t9s40t1t2t3t4t5t6t7t8t9",
     "s50t1t2t3t4t5t6t7t8t9s60t1t2t3t4t5t6t7t8t9s70t1t2t3t4t5t6t7t8t9s80t1t2t3t4t5",
     "t6t7t8t9s90t1t2t3t4t5t6t7t8t9r400t1t2t3t4t5t6t7t8t9s10t1t2t3t4t5t6t7t8t9s20",
     "t1t2t3t4t5t6t7t8t9s30t1t2t3t4t5t6t7t8t9s40t1t2t3t4t5t6t7t8t9s50t1t2t3t4t5t6",
     "t7t8t9s60t1t2t3t4t5t6t7t8t9s70t1t2t3t4t5t6t7t8t9s80t1t2t3t4t5t6t7t8t9s90t1t2",
     "t3t4t5t6t7t8t9r500t1t2t3t4t5t6t7t8t9s10t1t2t3t4t5t6t7t8t9s20t1t2t3t4t5t6t7t8",
     "t9s30t1t2t3t4t5t6t7t8t9s40t1t2t3t4t5t6t7t8t9s50t1t2t3t4t5t6t7t8t9s60t1t2t3t4",
     "t5t6t7t8t9s70t1t2t3t4t5t6t7t8t9s80t1t2t3t4t5t6t7t8t9s90t1t2t3t4t5t6t7t8t9",
     "r600t1t2t3t4t5t6t7t8t9s10t1t2t3t4t5t6t7t8t9s20t1t2t3t4t5t6t7t8t9s30t1t2t3t4",
     "t5t6t7t8t9s40t1t2t3t4t5t6t7t8t9s50t1t2t3t4t5t6t7t8t9s60t1t2t3t4t5t6t7t8t9s70",
     "t1t2t3t4t5t6t7t8t9s80t1t2t3t4t5t6t7t8t9s90t1t2t3t4t5t6t7t8t9r700t1t2t3t4t5t6",
     "t7t8t9s10t1t2t3t4t5t6t7t8t9s20t1t2t3t4t5t6t7t8t9s30t1t2t3t4t5t6t7t8t9s40t1t2",
     "t3t4t5t6t7t8t9s50t1t2t3t4t5t6t7t8t9s60t1t2t3t4t5t6t7t8"]⟩,
   ⟨0x1AFF0, ["aKATAKANA LETTER MINNAN TONE-2zNE-3zNE-4zNE-5"]⟩,
   ⟨0x1AFF5, ["aKATAKANA LETTER MINNAN TONE-7zNE-8xNASALIZED TONE-1zSALIZED TONE-2",
     "zSALIZED TONE-3zSALIZED TONE-4zSALIZED TONE-5"]⟩,
   ⟨0x1AFFD, ["aKATAKANA LETTER MINNAN NASALIZED TONE-7zSALIZED TONE-8"]⟩,
   ⟨0x1B000, ["aKATAKANA LETTER ARCHAIC EaHIRAGANA LETTER ARCHAIC YEbENTAIGANA LETTER A-1u2",
     "u3uWOsI-1u2u3u4sU-1u2u3u4u5sE-2u3u4u5u6sO-1u2u3sKA-1v2v3v4v5v6v7v8v9v10w1vKE",
     "tI-1v2v3v4v5v6v7v8tU-1v2v3v4v5v6v7tE-1v2v3v4v5v6tO-1v2v3vKIsSA-1v2v3v4v5v6v7",
     "v8tI-1v2v3v4v5v6tU-1v2v3v4v5v6v7v8tE-1v2v3v4v5tO-1v2v3v4v5v6v7sTA-1v2v3v4",
     "tI-1v2v3v4v5v6v7tU-1v2v3v4vTOtE-1v2v3v4v5v6v7v8v9tO-1v2v3v4v5v6vRAsNA-1v2v3",
     "v4v5v6v7v8v9tI-1v2v3v4v5v6v7vTEtU-1v2v3tE-1v2v3v4v5v6vKOtO-1v2v3v4v5sHA-1v2",
     "v3v4v5v6v7v8v9v10w1tI-1v2v3v4v5v6v7tU-1v2v3tE-1v2v3v4v5v6v7tO-1v2v3v4v5v6v7",
     "v8sMA-1v2v3v4v5v6v7tI-1v2v3v4v5v6v7tU-1v2v3v4tE-1v2vMAtO-1v2v3v4v5v6sYA-1v2",
     "v3v4v5vYOtU-1v2v3v4tO-1v2v3v4v5v6sRA-1v2v3v4tI-1v2v3v4v5v6v7tU-1v2v3v4v5v6",
     "tE-1v2v3v4tO-1v2v3v4v5v6sWA-1v2v3v4v5tI-1v2v3v4v5tE-1v2v3v4tO-1v2v3v4v5v6v7",
     "sN-MU-MO-1z-2bIRAGANA LETTER ARCHAIC WUaKATAKANA LETTER ARCHAIC YIzEyWU"]⟩,
   ⟨0x1B150, ["aHIRAGANA LETTER SMALL WIxExO"]⟩,
   ⟨0x1B164, ["aKATAKANA LETTER SMALL WIxExOwN"]⟩,
   ⟨0x1BC00, ["aDUPLOYAN LETTER HqXqPqTqFqKqLqBqDqVqGqRqP NqD SqF NqK MqR SqTHqSLOAN DHqDH",
     "qKKqSLOAN JqHLqLHqRHqMqNqJqSqM NqN MqJ MqS JqM WITH DOTqN WITH DOT",
     "qJ WITH DOTzTS INSIDE AND ABOVEqS WITH DOTzT BELOWqM SqN SqJ SqS SqM N S",
     "qN M SqJ M SqS J SqJ S WITH DOTsNt SqS Tt RsPt RqT SsR SqWrHr RqS NsMqK R S",
     "qG R SqS Kt RqAqSLOAN OWqOArqAOUqIqEqIEqSHORT IqUIqEEqSLOAN EHqROMANIAN I",
     "qSLOAN EEqLONG IqYEqUqEUqXWqU NqLONG UqROMANIAN UqUHqSLOAN UqOOHrWrUqWArOrI",
     "rEIrOWqNASAL UwOwIwAqPERNIN ANyMqSLOAN ENwANwONqVOCALIC M"]⟩,
   ⟨0x1BC70, ["aDUPLOYAN AFFIX LEFT HORIZONTAL SECANTpMID HORIZONTAL SECANT",
     "pRIGHT HORIZONTAL SECANTpLOW VERTICAL SECANTpMID VERTICAL SECANT",
     "pHIGH VERTICAL SECANTpATTACHED SECANTyLEFT-TO-RIGHT SECANTyTANGENTzAIL",
     "yE HOOKyI HOOKyTANGENT HOOK"]⟩,
   ⟨0x1BC80, ["aDUPLOYAN AFFIX HIGH ACUTEuTIGHT ACUTEuGRAVEuLONG GRAVEuDOTuCIRCLEuLINEuWAVE",
     "uVERTICAL"]⟩,
   ⟨0x1BC90, ["aDUPLOYAN AFFIX LOW ACUTEtTIGHT ACUTEtGRAVEtLONG GRAVEtDOTtCIRCLEtLINEtWAVE",
     "tVERTICALtARROW"]⟩,
   ⟨0x1BC9C, ["aDUPLOYAN SIGN O WITH CROSSjTHICK LETTER SELECTORjDOUBLE MARK",
     "jPUNCTUATION CHINOOK FULL STOPaSHORTHAND FORMAT LETTER OVERLAP",
     "rCONTINUING OVERLAPrDOWN STEPrUP STEP"]⟩,
   ⟨0x1CF00, ["aZNAMENNY COMBINING MARK GORAZDO NIZKO S KRYZHEM ON LEFT",
     "yNIZKO S KRYZHEM ON LEFTyTSATA ON LEFTyGORAZDO NIZKO ON LEFTyNIZKO ON LEFT",
     "ySREDNE ON LEFTyMALO POVYSHE ON LEFTyPOVYSHE ON LEFTyVYSOKO ON LEFT",
     "yMALO POVYSHE S KHOKHLOM ON LEFTyPOVYSHE S KHOKHLOM ON LEFT",
     "yVYSOKO S KHOKHLOM ON LEFTyGORAZDO NIZKO S KRYZHEM ON RIGHT",
     "yNIZKO S KRYZHEM ON RIGHTyTSATA ON RIGHTyGORAZDO NIZKO ON RIGHT",
     "yNIZKO ON RIGHTySREDNE ON RIGHTyMALO POVYSHE ON RIGHTyPOVYSHE ON RIGHT",
     "yVYSOKO ON RIGHTyMALO POVYSHE S KHOKHLOM ON RIGHT",
     "yPOVYSHE S KHOKHLOM ON RIGHTyVYSOKO S KHOKHLOM ON RIGHTyTSATA S KRYZHEM",
     "yMALO POVYSHE S KRYZHEMySTRANNO MALO POVYSHEyPOVYSHE S KRYZHEM",
     "zOVYSHE STRANNOyVYSOKO S KRYZHEMyMALO POVYSHE STRANNOyGORAZDO VYSOKOyZELOyON",
     "yRAVNOyTIKHAYAyBORZAYAyUDARKAyPODVERTKAyLOMKAyKUPNAYAzACHKAyZEVOKySKOBA",
     "yRAZSEKAyKRYZH ON LEFT"]⟩,
   ⟨0x1CF30, ["aZNAMENNY COMBINING TONAL RANGE MARK MRACHNOzRANGE MARK SVETLO",
     "zRANGE MARK TRESVETLOtMARK ZADERZHKAyDEMESTVENNY ZADERZHKAyOTSECHKA",
     "yPODCHASHIEzODCHASHIE WITH VERTICAL STROKEyCHASHKAzHASHKA POLNAYAyOBLACHKO",
     "ySOROCHYA NOZHKAyTOCHKAyDVOETOCHIEtATTACHING VERTICAL OMETtMARK CURVED OMET",
     "yKRYZHtLOWER TONAL RANGE INDICATORjPRIZNAK MODIFIER LEVEL-2z LEVEL-3",
     "z DIRECTION FLIPz KRYZHz ROG"]⟩,
   ⟨0x1CF50, ["aZNAMENNY NEUME KRYUKu TIKHYpPARAKLITpDVA V CHELNUpKLYUCHpZANOZHEKpSTOPITSA",
     "x S OCHKOMpPEREVODKAy NEPOSTOYANNAYApSTOPITSA WITH SOROCHYA NOZHKA",
     "pCHELYUSTKApPALKApZAPYATAYApGOLUBCHIK BORZYzTIKHYzMRACHNYzSVETLYzTRESVETLY",
     "pVRAKHIYA PROSTAYAyMRACHNAYAySVETLAYAyTRESVETLAYAyKLYUCHEVAYA PROSTAYA",
     "zLYUCHEVAYA MRACHNAYAzLYUCHEVAYA SVETLAYAzLYUCHEVAYA TRESVETLAYA",
     "pDOUBLE ZAPYATAYApREVERSED CHELYUSTKApDERBITSApKHAMILOpCHASHKApPODCHASHIE",
     "pSKAMEYTSA MRACHNAYAzSVETLAYAzTRESVETLAYAzTIKHAYApDEMESTVENNY KLYUCH",
     "pSKAMEYTSA KLYUCHEVAYA SVETLAYAzKLYUCHENEPOSTOYANNAYAzKLYUCHEVAYA TIKHAYA",
     "zDVOECHELNAYA PROSTAYAzDVOECHELNAYA SVETLAYAzDVOECHELNAYA NEPOSTOYANNAYA",
     "zDVOECHELNAYA KLYUCHEVAYAqLOZHITIEy S ZAPYATOYzZAKRYTOEzS KRYZHEMpKRYZHpROG",
     "pFITApKOBYLApZMEYTSApSTATYAv S ZAPYATOYyKRYZHEMyZAPYATOY I KRYZHEM",
     "yKRYZHEM I ZAPYATOYwZAKRYTAYAzRYTAYA S ZAPYATOYwS ROGOMyDVUMYA ZAPYATYMI",
     "yZAPYATOY I PODCHASHIEMpPOLKULIZMYpSTATYA NEPOSTOYANNAYArRELA PROSTAYA",
     "wMRACHNOTIKHAYAwKRYZHEVAYAwPOLUPOVODNAYAyVODNAYAwNEPOSTOYANNAYA",
     "wKLYUCHEPOVODNAYAzUCHENEPOSTOYANNAYAwTIKHAYA PUTNAYAwDVOECHELNAYA",
     "zECHELNOKRYZHEVAYAzECHELNOPOVODNAYAzECHELNAYA KLYUCHEVAYA",
     "zECHELNOPOVODNAYA KLYUCHEVAYAwGROMNAYA WITH SINGLE ZAPYATAYA",
     "zMOPOVODNAYA WITH SINGLE ZAPYATAYAzMNAYAzMOPOVODNAYA",
     "zMOPOVODNAYA WITH DOUBLE ZAPYATAYAzMOKRYZHEVAYAzMOKRYZHEVAYA POVODNAYA",
     "pMECHIKv POVODNYwKLYUCHEVOYzUCHEPOVODNYzUCHENEPOSTOYANNY",
     "pSTRELA TRYASOGLASNAYAzASOPOVODNAYAzASOSTRELNAYApOSOKAu SVETLAYAvTRESVETLAYA",
     "vKRYUKOVAYA SVETLAYAwLYUCHEVAYA SVETLAYAzCHEVAYA NEPOSTOYANNAYA",
     "pSTRELA KRYUKOVAYAzUKOVAYA POVODNAYAzUKOVAYA GROMNAYA WITH SINGLE ZAPYATAYA",
     "zUKOVAYA GROMOPOVODNAYA WITH SINGLE ZAPYATAYAzUKOVAYA GROMNAYA",
     "zUKOVAYA GROMOPOVODNAYAzUKOVAYA GROMOPOVODNAYA WITH DOUBLE ZAPYATAYA",
     "zUKOVAYA GROMOKRYZHEVAYAzUKOVAYA GROMOKRYZHEVAYA POVODNAYAzUKOVAYA TRYASKA",
     "pKUFISMApOBLAKOpDUDApNEMKApPAUK"]⟩]

/-- Names of characters from U+1D000 to U+1F265. -/
def namesFrom1D000 : List NameRun :=
  [⟨0x1D000, ["aBYZANTINE MUSICAL SYMBOL PSILIzDASEIAzPERISPOMENIzOXEIA EKFONITIKON",
     "zOXEIA DIPLIzVAREIA EKFONITIKONzVAREIA DIPLIzKATHISTIzSYRMATIKIzPARAKLITIKI",
     "zYPOKRISISzYPOKRISIS DIPLIzKREMASTIzAPESO EKFONITIKONzEXO EKFONITIKONzTELEIA",
     "zKENTIMATAzAPOSTROFOSzAPOSTROFOS DIPLIzSYNEVMAzTHITAzOLIGON ARCHAION",
     "zGORGON ARCHAIONzPSILONzCHAMILONzVATHYzISON ARCHAIONzKENTIMA ARCHAION",
     "zKENTIMATA ARCHAIONzSAXIMATAzPARICHONzSTAVROS APODEXIAzOXEIAI ARCHAION",
     "zVAREIAI ARCHAIONzAPODERMA ARCHAIONzAPOTHEMAzKLASMAzREVMAzPIASMA ARCHAION",
     "zTINAGMAzANATRICHISMAzSEISMAzSYNAGMA ARCHAIONzSYNAGMA META STAVROU",
     "zOYRANISMA ARCHAIONzTHEMAzLEMOIzDYOzTRIAzTESSERAzKRATIMATAzAPESO EXO NEO",
     "zFTHORA ARCHAIONzIMIFTHORAzTROMIKON ARCHAIONzKATAVA TROMIKONzPELASTON",
     "zPSIFISTONzKONTEVMAzCHOREVMA ARCHAIONzRAPISMAzPARAKALESMA ARCHAION",
     "zPARAKLITIKI ARCHAIONzICHADINzNANAzPETASMAzKONTEVMA ALLOzTROMIKON ALLO",
     "zSTRAGGISMATAzGRONTHISMATAzISON NEOzOLIGON NEOzOXEIA NEOzPETASTIzKOUFISMA",
     "zPETASTOKOUFISMAzKRATIMOKOUFISMAzPELASTON NEOzKENTIMATA NEO ANO",
     "zKENTIMA NEO ANOzYPSILIzAPOSTROFOS NEOzAPOSTROFOI SYNDESMOS NEOzYPORROI",
     "zKRATIMOYPORROONzELAFRONzCHAMILIzMIKRON ISONzVAREIA NEOzPIASMA NEO",
     "zPSIFISTON NEOzOMALONzANTIKENOMAzLYGISMAzPARAKLITIKI NEOzPARAKALESMA NEO",
     "zETERON PARAKALESMAzKYLISMAzANTIKENOKYLISMAzTROMIKON NEOzEKSTREPTON",
     "zSYNAGMA NEOzSYRMAzCHOREVMA NEOzEPEGERMAzSEISMA NEOzXIRON KLASMA",
     "zTROMIKOPSIFISTONzPSIFISTOLYGISMAzTROMIKOLYGISMAzTROMIKOPARAKALESMA",
     "zPSIFISTOPARAKALESMAzTROMIKOSYNAGMAzPSIFISTOSYNAGMAzGORGOSYNTHETON",
     "zARGOSYNTHETONzETERON ARGOSYNTHETONzOYRANISMA NEOzTHEMATISMOS ESO",
     "zTHEMATISMOS EXOzTHEMA APLOUNzTHES KAI APOTHESzKATAVASMAzENDOFONONzYFEN KATO",
     "zYFEN ANOzSTAVROSzKLASMA ANOzDIPLI ARCHAIONzKRATIMA ARCHAIONzKRATIMA ALLO",
     "zKRATIMA NEOzAPODERMA NEOzAPLIzDIPLIzTRIPLIzTETRAPLIzKORONIS",
     "zLEIMMA ENOS CHRONOUzLEIMMA DYO CHRONONzLEIMMA TRION CHRONON",
     "zLEIMMA TESSARON CHRONONzLEIMMA IMISEOS CHRONOUzGORGON NEO ANO",
     "zGORGON PARESTIGMENON ARISTERAzGORGON PARESTIGMENON DEXIAzDIGORGON",
     "zDIGORGON PARESTIGMENON ARISTERA KATOzDIGORGON PARESTIGMENON ARISTERA ANO",
     "zDIGORGON PARESTIGMENON DEXIAzTRIGORGONzARGONzIMIDIARGONzDIARGON",
     "zAGOGI POLI ARGIzAGOGI ARGOTERIzAGOGI ARGIzAGOGI METRIAzAGOGI MESI",
     "zAGOGI GORGIzAGOGI GORGOTERIzAGOGI POLI GORGIzMARTYRIA PROTOS ICHOS",
     "zMARTYRIA ALLI PROTOS ICHOSzMARTYRIA DEYTEROS ICHOS",
     "zMARTYRIA ALLI DEYTEROS ICHOSzMARTYRIA TRITOS ICHOSzMARTYRIA TRIFONIAS",
     "zMARTYRIA TETARTOS ICHOSzMARTYRIA TETARTOS LEGETOS ICHOS",
     "zMARTYRIA LEGETOS ICHOSzMARTYRIA PLAGIOS ICHOSzISAKIA TELOUS ICHIMATOS",
     "zAPOSTROFOI TELOUS ICHIMATOSzFANEROSIS TETRAFONIASzFANEROSIS MONOFONIAS",
     "zFANEROSIS DIFONIASzMARTYRIA VARYS ICHOSzMARTYRIA PROTOVARYS ICHOS",
     "zMARTYRIA PLAGIOS TETARTOS ICHOSzGORTHMIKON N APLOUNzGORTHMIKON N DIPLOUN",
     "zENARXIS KAI FTHORA VOUzIMIFONONzIMIFTHORONzFTHORA ARCHAION DEYTEROU ICHOU",
     "zFTHORA DIATONIKI PAzFTHORA DIATONIKI NANAzFTHORA NAOS ICHOS",
     "zFTHORA DIATONIKI DIzFTHORA SKLIRON DIATONON DIzFTHORA DIATONIKI KE",
     "zFTHORA DIATONIKI ZOzFTHORA DIATONIKI NI KATOzFTHORA DIATONIKI NI ANO",
     "zFTHORA MALAKON CHROMA DIFONIASzFTHORA MALAKON CHROMA MONOFONIAS",
     "zFHTORA SKLIRON CHROMA VASISzFTHORA SKLIRON CHROMA SYNAFIzFTHORA NENANO",
     "zCHROA ZYGOSzCHROA KLITONzCHROA SPATHIzFTHORA I YFESIS TETARTIMORION",
     "zFTHORA ENARMONIOS ANTIFONIAzYFESIS TRITIMORIONzDIESIS TRITIMORION",
     "zDIESIS TETARTIMORIONzDIESIS APLI DYO DODEKATA",
     "zDIESIS MONOGRAMMOS TESSERA DODEKATAzDIESIS DIGRAMMOS EX DODEKATA",
     "zDIESIS TRIGRAMMOS OKTO DODEKATAzYFESIS APLI DYO DODEKATA",
     "zYFESIS MONOGRAMMOS TESSERA DODEKATAzYFESIS DIGRAMMOS EX DODEKATA",
     "zYFESIS TRIGRAMMOS OKTO DODEKATAzGENIKI DIESISzGENIKI YFESIS",
     "zDIASTOLI APLI MIKRIzDIASTOLI APLI MEGALIzDIASTOLI DIPLIzDIASTOLI THESEOS",
     "zSIMANSIS THESEOSzSIMANSIS THESEOS DISIMOUzSIMANSIS THESEOS TRISIMOU",
     "zSIMANSIS THESEOS TETRASIMOUzSIMANSIS ARSEOSzSIMANSIS ARSEOS DISIMOU",
     "zSIMANSIS ARSEOS TRISIMOUzSIMANSIS ARSEOS TETRASIMOUzDIGRAMMA GG",
     "zDIFTOGGOS OUzSTIGMAzARKTIKO PAzARKTIKO VOUzARKTIKO GAzARKTIKO DIzARKTIKO KE",
     "zARKTIKO ZOzARKTIKO NIzKENTIMATA NEO MESOzKENTIMA NEO MESO",
     "zKENTIMATA NEO KATOzKENTIMA NEO KATOzKLASMA KATOzGORGON NEO KATO"]⟩,
   ⟨0x1D100, ["aMUSICAL SYMBOL SINGLE BARLINEpDOUBLE BARLINEpFINAL BARLINE",
     "pREVERSE FINAL BARLINEpDASHED BARLINEpSHORT BARLINEpLEFT REPEAT SIGN",
     "pRIGHT REPEAT SIGNqEPEAT DOTSpDAL SEGNOr CAPOpSEGNOpCODApREPEATED FIGURE-1",
     "zIGURE-2zIGURE-3pFERMATAw BELOWpBREATH MARKpCAESURApBRACEtKETpONE-LINE STAFF",
     "pTWO-LINE STAFFqHREE-LINE STAFFpFOUR-LINE STAFFqIVE-LINE STAFF",
     "pSIX-LINE STAFFtSTRING FRETBOARDpFOUR-STRING FRETBOARDpG CLEFv OTTAVA ALTA",
     "zAVA BASSApC CLEFpF CLEFv OTTAVA ALTAzAVA BASSApDRUM CLEF-1z2"]⟩,
   ⟨0x1D129, ["aMUSICAL SYMBOL MULTIPLE MEASURE RESTpDOUBLE SHARPwFLATpFLAT UPuDOWN",
     "pNATURAL UPxDOWNpSHARP UPvDOWNpQUARTER TONE SHARPzNE FLATpCOMMON TIME",
     "qUT TIMEpOTTAVA ALTAwBASSApQUINDICESIMA ALTAzMA BASSApMULTI RESTpWHOLE REST",
     "pHALF RESTpQUARTER RESTpEIGHTH RESTpSIXTEENTH RESTpTHIRTY-SECOND REST",
     "pSIXTY-FOURTH RESTpONE HUNDRED TWENTY-EIGHTH RESTpX NOTEHEADpPLUS NOTEHEAD",
     "pCIRCLE X NOTEHEADpSQUARE NOTEHEAD WHITEzEHEAD BLACK",
     "pTRIANGLE NOTEHEAD UP WHITEzOTEHEAD UP BLACKzOTEHEAD LEFT WHITE",
     "zOTEHEAD LEFT BLACKzOTEHEAD RIGHT WHITEzOTEHEAD RIGHT BLACK",
     "zOTEHEAD DOWN WHITEzOTEHEAD DOWN BLACKzOTEHEAD UP RIGHT WHITE",
     "zOTEHEAD UP RIGHT BLACKpMOON NOTEHEAD WHITEzEAD BLACK",
     "pTRIANGLE-ROUND NOTEHEAD DOWN WHITEzOUND NOTEHEAD DOWN BLACK",
     "pPARENTHESIS NOTEHEADpVOID NOTEHEADpNOTEHEAD BLACKqULL NOTEHEAD",
     "pCLUSTER NOTEHEAD WHITEzTEHEAD BLACKpBREVEpWHOLE NOTEpHALF NOTEpQUARTER NOTE",
     "pEIGHTH NOTEpSIXTEENTH NOTEpTHIRTY-SECOND NOTEpSIXTY-FOURTH NOTE",
     "pONE HUNDRED TWENTY-EIGHTH NOTEpCOMBINING STEMzSPRECHGESANG STEMzTREMOLO-1",
     "zTREMOLO-2zTREMOLO-3pFINGERED TREMOLO-1zREMOLO-2zREMOLO-3",
     "pCOMBINING AUGMENTATION DOTzFLAG-1zFLAG-2zFLAG-3zFLAG-4zFLAG-5pBEGIN BEAM",
     "pEND BEAMpBEGIN TIEpEND TIEpBEGIN SLURpEND SLURpBEGIN PHRASEpEND PHRASE",
     "pCOMBINING ACCENTzSTACCATOzTENUTOzSTACCATISSIMOzMARCATOzMARCATO-STACCATO",
     "zACCENT-STACCATOzLOUREpARPEGGIATO UPz DOWNpCOMBINING DOITzRIPzFLIPzSMEAR",
     "zBENDzDOUBLE TONGUEzTRIPLE TONGUEpRINFORZANDOpSUBITOpZpPIANOpMEZZOpFORTE",
     "pCRESCENDOpDECRESCENDOpGRACE NOTE SLASHz NO SLASHpTRqURNpINVERTED TURN",
     "pTURN SLASHuUPpORNAMENT STROKE-1zTROKE-2zTROKE-3zTROKE-4zTROKE-5zTROKE-6",
     "zTROKE-7zTROKE-8zTROKE-9zTROKE-10zTROKE-11pHAUPTSTIMMEpNEBENSTIMME",
     "pEND OF STIMMEpDEGREE SLASHpCOMBINING DOWN BOWzUP BOWzHARMONIC",
     "zSNAP PIZZICATOpPEDAL MARKvUP MARKpHALF PEDAL MARKpGLISSANDO UPzDOWN",
     "pWITH FINGERNAILSpDAMPt ALLpMAXIMApLONGApBREVISpSEMIBREVIS WHITEz BLACK",
     "pMINIMAv BLACKpSEMIMINIMA WHITEz BLACKpFUSA WHITEuBLACKpLONGA PERFECTA REST",
     "vIMPERFECTA RESTpBREVIS RESTpSEMIBREVIS RESTpMINIMA RESTpSEMIMINIMA REST",
     "pTEMPUS PERFECTUM CUM PROLATIONE PERFECTAzFECTUM CUM PROLATIONE IMPERFECTA",
     "zFECTUM CUM PROLATIONE PERFECTA DIMINUTION-1",
     "wIMPERFECTUM CUM PROLATIONE PERFECTAzERFECTUM CUM PROLATIONE IMPERFECTA",
     "zERFECTUM CUM PROLATIONE IMPERFECTA DIMINUTION-1",
     "zERFECTUM CUM PROLATIONE IMPERFECTA DIMINUTION-2",
     "zERFECTUM CUM PROLATIONE IMPERFECTA DIMINUTION-3pCROIXpGREGORIAN C CLEF",
     "zF CLEFpSQUARE BpVIRGApPODATUSpCLIVISpSCANDICUSpCLIMACUSpTORCULUSpPORRECTUS",
     "y FLEXUSpSCANDICUS FLEXUSpTORCULUS RESUPINUSpPES SUBPUNCTISpKIEVAN C CLEF",
     "wEND OF PIECEwFINAL NOTEwRECITATIVE MARKwWHOLE NOTEwHALF NOTE",
     "wQUARTER NOTE STEM DOWNzRTER NOTE STEM UPwEIGHTH NOTE STEM DOWN",
     "zHTH NOTE STEM UPwFLAT SIGNpSORIpKORON"]⟩,
   ⟨0x1D200, ["aGREEK VOCAL NOTATION SYMBOL-1zOL-2zOL-3zOL-4zOL-5zOL-6zOL-7zOL-8zOL-9zOL-10",
     "zOL-11zOL-12zOL-13zOL-14zOL-15zOL-16zOL-17zOL-18zOL-19zOL-20zOL-21zOL-22",
     "zOL-23zOL-24zOL-50zOL-51zOL-52zOL-53zOL-54gINSTRUMENTAL NOTATION SYMBOL-1",
     "zON SYMBOL-2zON SYMBOL-4zON SYMBOL-5zON SYMBOL-7zON SYMBOL-8zON SYMBOL-11",
     "zON SYMBOL-12zON SYMBOL-13zON SYMBOL-14zON SYMBOL-17zON SYMBOL-18",
     "zON SYMBOL-19zON SYMBOL-23zON SYMBOL-24zON SYMBOL-25zON SYMBOL-26",
     "zON SYMBOL-27zON SYMBOL-29zON SYMBOL-30zON SYMBOL-32zON SYMBOL-36",
     "zON SYMBOL-37zON SYMBOL-38zON SYMBOL-39zON SYMBOL-40zON SYMBOL-42",
     "zON SYMBOL-43zON SYMBOL-45zON SYMBOL-47zON SYMBOL-48zON SYMBOL-49",
     "zON SYMBOL-50zON SYMBOL-51zON SYMBOL-52zON SYMBOL-53zON SYMBOL-54",
     "aCOMBINING GREEK MUSICAL TRISEMEzETRASEMEyPENTASEMEaGREEK MUSICAL LEIMMA"]⟩,
   ⟨0x1D2E0, ["aMAYAN NUMERAL ZEROoONEoTWOpHREEoFOURpIVEoSIXpEVENoEIGHToNINEoTENoELEVEN",
     "oTWELVEpHIRTEENoFOURTEENpIFTEENoSIXTEENpEVENTEENoEIGHTEENoNINETEEN"]⟩,
   ⟨0x1D300, ["aMONOGRAM FOR EARTHaDIGRAM FOR HEAVENLY EARTHmUMAN EARTHlEARTHLY HEAVENuUMAN",
     "qaTETRAGRAM FOR CENTREoFULL CIRCLEoMIREDoBARRIERoKEEPING SMALLoCONTRARIETY",
     "oASCENToOPPOSITIONoBRANCHING OUToDEFECTIVENESS OR DISTORTIONpIVERGENCE",
     "oYOUTHFULNESSoINCREASEoPENETRATIONoREACHoCONTACToHOLDING BACKoWAITING",
     "oFOLLOWINGoADVANCEoRELEASEqSISTANCEoEASEoJOYoCONTENTIONoENDEAVOURoDUTIES",
     "oCHANGEoDECISIVENESSoBOLD RESOLUTIONoPACKINGoLEGIONoCLOSENESSoKINSHIP",
     "oGATHERINGoSTRENGTHoPURITYoFULLNESSoRESIDENCEoLAW OR MODELoRESPONSE",
     "oGOING TO MEEToENCOUNTERSoSTOVEoGREATNESSoENLARGEMENToPATTERNoRITUALoFLIGHT",
     "oVASTNESS OR WASTINGoCONSTANCYoMEASUREoETERNITYoUNITYoDIMINISHMENT",
     "oCLOSED MOUTHoGUARDEDNESSpATHERING INoMASSINGoACCUMULATIONoEMBELLISHMENT",
     "oDOUBToWATCHoSINKINGoINNERoDEPARTUREpARKENINGpIMMINGoEXHAUSTIONoSEVERANCE",
     "pTOPPAGEoHARDNESSoCOMPLETIONpLOSUREoFAILUREoAGGRAVATIONoCOMPLIANCE",
     "oON THE VERGEoDIFFICULTIESoLABOURINGoFOSTERING"]⟩,
   ⟨0x1D360, ["aCOUNTING ROD UNIT DIGIT ONEyTWOzHREEyFOURzIVEySIXzEVENyEIGHTyNINE",
     "nTENS DIGIT ONEyTWOzHREEyFOURzIVEySIXzEVENyEIGHTyNINE",
     "aIDEOGRAPHIC TALLY MARK ONExTWOyHREExFOURyIVEaTALLY MARK ONElFIVE"]⟩,
   ⟨0x1D400, ["aMATHEMATICAL BOLD CAPITAL Az Bz Cz Dz Ez Fz Gz Hz Iz Jz Kz Lz Mz Nz Oz Pz Q",
     "z Rz Sz Tz Uz Vz Wz Xz Yz ZsSMALL AyByCyDyEyFyGyHyIyJyKyLyMyNyOyPyQyRySyTyU",
     "yVyWyXyYyZnITALIC CAPITAL AzAL BzAL CzAL DzAL EzAL FzAL GzAL HzAL IzAL J",
     "zAL KzAL LzAL MzAL NzAL OzAL PzAL QzAL RzAL SzAL TzAL UzAL VzAL WzAL XzAL Y",
     "zAL ZuSMALL Az Bz Cz Dz Ez Fz G"]⟩,
   ⟨0x1D456, ["aMATHEMATICAL ITALIC SMALL Iz Jz Kz Lz Mz Nz Oz Pz Qz Rz Sz Tz Uz Vz Wz Xz Y",
     "z ZnBOLD ITALIC CAPITAL AzCAPITAL BzCAPITAL CzCAPITAL DzCAPITAL EzCAPITAL F",
     "zCAPITAL GzCAPITAL HzCAPITAL IzCAPITAL JzCAPITAL KzCAPITAL LzCAPITAL M",
     "zCAPITAL NzCAPITAL OzCAPITAL PzCAPITAL QzCAPITAL RzCAPITAL SzCAPITAL T",
     "zCAPITAL UzCAPITAL VzCAPITAL WzCAPITAL XzCAPITAL YzCAPITAL ZzSMALL AzSMALL B",
     "zSMALL CzSMALL DzSMALL EzSMALL FzSMALL GzSMALL HzSMALL IzSMALL JzSMALL K",
     "zSMALL LzSMALL MzSMALL NzSMALL OzSMALL PzSMALL QzSMALL RzSMALL SzSMALL T",
     "zSMALL UzSMALL VzSMALL WzSMALL XzSMALL YzSMALL ZnSCRIPT CAPITAL A"]⟩,
   ⟨0x1D49E, ["aMATHEMATICAL SCRIPT CAPITAL CzAL D"]⟩,
   ⟨0x1D4A2, ["aMATHEMATICAL SCRIPT CAPITAL G"]⟩,
   ⟨0x1D4A5, ["aMATHEMATICAL SCRIPT CAPITAL JzAL K"]⟩,
   ⟨0x1D4A9, ["aMATHEMATICAL SCRIPT CAPITAL NzAL OzAL PzAL Q"]⟩,
   ⟨0x1D4AE, ["aMATHEMATICAL SCRIPT CAPITAL SzAL TzAL UzAL VzAL WzAL XzAL YzAL ZuSMALL Az B",
     "z Cz D"]⟩,
   ⟨0x1D4BB, ["aMATHEMATICAL SCRIPT SMALL F"]⟩,
   ⟨0x1D4BD, ["aMATHEMATICAL SCRIPT SMALL Hz Iz Jz Kz Lz Mz N"]⟩,
   ⟨0x1D4C5, ["aMATHEMATICAL SCRIPT SMALL Pz Qz Rz Sz Tz Uz Vz Wz Xz Yz Z",
     "nBOLD SCRIPT CAPITAL AzCAPITAL BzCAPITAL CzCAPITAL DzCAPITAL EzCAPITAL F",
     "zCAPITAL GzCAPITAL HzCAPITAL IzCAPITAL JzCAPITAL KzCAPITAL LzCAPITAL M",
     "zCAPITAL NzCAPITAL OzCAPITAL PzCAPITAL QzCAPITAL RzCAPITAL SzCAPITAL T",
     "zCAPITAL UzCAPITAL VzCAPITAL WzCAPITAL XzCAPITAL YzCAPITAL ZzSMALL AzSMALL B",
     "zSMALL CzSMALL DzSMALL EzSMALL FzSMALL GzSMALL HzSMALL IzSMALL JzSMALL K",
     "zSMALL LzSMALL MzSMALL NzSMALL OzSMALL PzSMALL QzSMALL RzSMALL SzSMALL T",
     "zSMALL UzSMALL VzSMALL WzSMALL XzSMALL YzSMALL ZnFRAKTUR CAPITAL AzTAL B"]⟩,
   ⟨0x1D507, ["aMATHEMATICAL FRAKTUR CAPITAL DzTAL EzTAL FzTAL G"]⟩,
   ⟨0x1D50D, ["aMATHEMATICAL FRAKTUR CAPITAL JzTAL KzTAL LzTAL MzTAL NzTAL OzTAL PzTAL Q"]⟩,
   ⟨0x1D516, ["aMATHEMATICAL FRAKTUR CAPITAL SzTAL TzTAL UzTAL VzTAL WzTAL XzTAL Y"]⟩,
   ⟨0x1D51E, ["aMATHEMATICAL FRAKTUR SMALL AzL BzL CzL DzL EzL FzL GzL HzL IzL JzL KzL L",
     "zL MzL NzL OzL PzL QzL RzL SzL TzL UzL VzL WzL XzL YzL Z",
     "nDOUBLE-STRUCK CAPITAL AzK CAPITAL B"]⟩,
   ⟨0x1D53B, ["aMATHEMATICAL DOUBLE-STRUCK CAPITAL DzK CAPITAL EzK CAPITAL FzK CAPITAL G"]⟩,
   ⟨0x1D540, ["aMATHEMATICAL DOUBLE-STRUCK CAPITAL IzK CAPITAL JzK CAPITAL KzK CAPITAL L",
     "zK CAPITAL M"]⟩,
   ⟨0x1D546, ["aMATHEMATICAL DOUBLE-STRUCK CAPITAL O"]⟩,
   ⟨0x1D54A, ["aMATHEMATICAL DOUBLE-STRUCK CAPITAL SzK CAPITAL TzK CAPITAL UzK CAPITAL V",
     "zK CAPITAL WzK CAPITAL XzK CAPITAL Y"]⟩,
   ⟨0x1D552, ["aMATHEMATICAL DOUBLE-STRUCK SMALL AzK SMALL BzK SMALL CzK SMALL DzK SMALL E",
     "zK SMALL FzK SMALL GzK SMALL HzK SMALL IzK SMALL JzK SMALL KzK SMALL L",
     "zK SMALL MzK SMALL NzK SMALL OzK SMALL PzK SMALL QzK SMALL RzK SMALL S",
     "zK SMALL TzK SMALL UzK SMALL VzK SMALL WzK SMALL XzK SMALL YzK SMALL Z",
     "nBOLD FRAKTUR CAPITAL Az CAPITAL Bz CAPITAL Cz CAPITAL Dz CAPITAL E",
     "z CAPITAL Fz CAPITAL Gz CAPITAL Hz CAPITAL Iz CAPITAL Jz CAPITAL K",
     "z CAPITAL Lz CAPITAL Mz CAPITAL Nz CAPITAL Oz CAPITAL Pz CAPITAL Q",
     "z CAPITAL Rz CAPITAL Sz CAPITAL Tz CAPITAL Uz CAPITAL Vz CAPITAL W",
     "z CAPITAL Xz CAPITAL Yz CAPITAL Zz SMALL Az SMALL Bz SMALL Cz SMALL D",
     "z SMALL Ez SMALL Fz SMALL Gz SMALL Hz SMALL Iz SMALL Jz SMALL Kz SMALL L",
     "z SMALL Mz SMALL Nz SMALL Oz SMALL Pz SMALL Qz SMALL Rz SMALL Sz SMALL T",
     "z SMALL Uz SMALL Vz SMALL Wz SMALL Xz SMALL Yz SMALL ZnSANS-SERIF CAPITAL A",
     "zAPITAL BzAPITAL CzAPITAL DzAPITAL EzAPITAL FzAPITAL GzAPITAL HzAPITAL I",
     "zAPITAL JzAPITAL KzAPITAL LzAPITAL MzAPITAL NzAPITAL OzAPITAL PzAPITAL Q",
     "zAPITAL RzAPITAL SzAPITAL TzAPITAL UzAPITAL VzAPITAL WzAPITAL XzAPITAL Y",
     "zAPITAL ZySMALL AzMALL BzMALL CzMALL DzMALL EzMALL FzMALL GzMALL HzMALL I",
     "zMALL JzMALL KzMALL LzMALL MzMALL NzMALL OzMALL PzMALL QzMALL RzMALL S",
     "zMALL TzMALL UzMALL VzMALL WzMALL XzMALL YzMALL ZyBOLD CAPITAL A",
     "zOLD CAPITAL BzOLD CAPITAL CzOLD CAPITAL DzOLD CAPITAL EzOLD CAPITAL F",
     "zOLD CAPITAL GzOLD CAPITAL HzOLD CAPITAL IzOLD CAPITAL JzOLD CAPITAL K",
     "zOLD CAPITAL LzOLD CAPITAL MzOLD CAPITAL NzOLD CAPITAL OzOLD CAPITAL P",
     "zOLD CAPITAL QzOLD CAPITAL RzOLD CAPITAL SzOLD CAPITAL TzOLD CAPITAL U",
     "zOLD CAPITAL VzOLD CAPITAL WzOLD CAPITAL XzOLD CAPITAL YzOLD CAPITAL Z",
     "zOLD SMALL AzOLD SMALL BzOLD SMALL CzOLD SMALL DzOLD SMALL EzOLD SMALL F",
     "zOLD SMALL GzOLD SMALL HzOLD SMALL IzOLD SMALL JzOLD SMALL KzOLD SMALL L",
     "zOLD SMALL MzOLD SMALL NzOLD SMALL OzOLD SMALL PzOLD SMALL QzOLD SMALL R",
     "zOLD SMALL SzOLD SMALL TzOLD SMALL UzOLD SMALL VzOLD SMALL WzOLD SMALL X",
     "zOLD SMALL YzOLD SMALL ZyITALIC CAPITAL AzTALIC CAPITAL BzTALIC CAPITAL C",
     "zTALIC CAPITAL DzTALIC CAPITAL EzTALIC CAPITAL FzTALIC CAPITAL G",
     "zTALIC CAPITAL HzTALIC CAPITAL IzTALIC CAPITAL JzTALIC CAPITAL K",
     "zTALIC CAPITAL LzTALIC CAPITAL MzTALIC CAPITAL NzTALIC CAPITAL O",
     "zTALIC CAPITAL PzTALIC CAPITAL QzTALIC CAPITAL RzTALIC CAPITAL S",
     "zTALIC CAPITAL TzTALIC CAPITAL UzTALIC CAPITAL VzTALIC CAPITAL W",
     "zTALIC CAPITAL XzTALIC CAPITAL YzTALIC CAPITAL ZzTALIC SMALL AzTALIC SMALL B",
     "zTALIC SMALL CzTALIC SMALL DzTALIC SMALL EzTALIC SMALL FzTALIC SMALL G",
     "zTALIC SMALL HzTALIC SMALL IzTALIC SMALL JzTALIC SMALL KzTALIC SMALL L",
     "zTALIC SMALL MzTALIC SMALL NzTALIC SMALL OzTALIC SMALL PzTALIC SMALL Q",
     "zTALIC SMALL RzTALIC SMALL SzTALIC SMALL TzTALIC SMALL UzTALIC SMALL V",
     "zTALIC SMALL WzTALIC SMALL XzTALIC SMALL YzTALIC SMALL Z",
     "yBOLD ITALIC CAPITAL AzOLD ITALIC CAPITAL BzOLD ITALIC CAPITAL C",
     "zOLD ITALIC CAPITAL DzOLD ITALIC CAPITAL EzOLD ITALIC CAPITAL F",
     "zOLD ITALIC CAPITAL GzOLD ITALIC CAPITAL HzOLD ITALIC CAPITAL I",
     "zOLD ITALIC CAPITAL JzOLD ITALIC CAPITAL KzOLD ITALIC CAPITAL L",
     "zOLD ITALIC CAPITAL MzOLD ITALIC CAPITAL NzOLD ITALIC CAPITAL O",
     "zOLD ITALIC CAPITAL PzOLD ITALIC CAPITAL QzOLD ITALIC CAPITAL R",
     "zOLD ITALIC CAPITAL SzOLD ITALIC CAPITAL TzOLD ITALIC CAPITAL U",
     "zOLD ITALIC CAPITAL VzOLD ITALIC CAPITAL WzOLD ITALIC CAPITAL X",
     "zOLD ITALIC CAPITAL YzOLD ITALIC CAPITAL ZzOLD ITALIC SMALL A",
     "zOLD ITALIC SMALL BzOLD ITALIC SMALL CzOLD ITALIC SMALL DzOLD ITALIC SMALL E",
     "zOLD ITALIC SMALL FzOLD ITALIC SMALL GzOLD ITALIC SMALL HzOLD ITALIC SMALL I",
     "zOLD ITALIC SMALL JzOLD ITALIC SMALL KzOLD ITALIC SMALL LzOLD ITALIC SMALL M",
     "zOLD ITALIC SMALL NzOLD ITALIC SMALL OzOLD ITALIC SMALL PzOLD ITALIC SMALL Q",
     "zOLD ITALIC SMALL RzOLD ITALIC SMALL SzOLD ITALIC SMALL TzOLD ITALIC SMALL U",
     "zOLD ITALIC SMALL VzOLD ITALIC SMALL WzOLD ITALIC SMALL XzOLD ITALIC SMALL Y",
     "zOLD ITALIC SMALL ZnMONOSPACE CAPITAL AzPITAL BzPITAL CzPITAL DzPITAL E",
     "zPITAL FzPITAL GzPITAL HzPITAL IzPITAL JzPITAL KzPITAL LzPITAL MzPITAL N",
     "zPITAL OzPITAL PzPITAL QzPITAL RzPITAL SzPITAL TzPITAL UzPITAL VzPITAL W",
     "zPITAL XzPITAL YzPITAL ZxSMALL AzALL BzALL CzALL DzALL EzALL FzALL GzALL H",
     "zALL IzALL JzALL KzALL LzALL MzALL NzALL OzALL PzALL QzALL RzALL SzALL T",
     "zALL UzALL VzALL WzALL XzALL YzALL ZnITALIC SMALL DOTLESS Iz DOTLESS J"]⟩,
   ⟨0x1D6A8, ["aMATHEMATICAL BOLD CAPITAL ALPHAz BETAz GAMMAz DELTAz EPSILONz ZETAz ETA",
     "z THETAz IOTAz KAPPAz LAMDAz MUz NUz XIz OMICRONz PIz RHOz THETA SYMBOL",
     "z SIGMAz TAUz UPSILONz PHIz CHIz PSIz OMEGAsNABLAsSMALL ALPHAyBETAyGAMMA",
     "yDELTAyEPSILONyZETAyETAyTHETAyIOTAyKAPPAyLAMDAyMUyNUyXIyOMICRONyPIyRHO",
     "yFINAL SIGMAySIGMAyTAUyUPSILONyPHIyCHIyPSIyOMEGAsPARTIAL DIFFERENTIAL",
     "sEPSILON SYMBOLsTHETA SYMBOLsKAPPA SYMBOLsPHI SYMBOLsRHO SYMBOLsPI SYMBOL",
     "nITALIC CAPITAL ALPHAzAL BETAzAL GAMMAzAL DELTAzAL EPSILONzAL ZETAzAL ETA",
     "zAL THETAzAL IOTAzAL KAPPAzAL LAMDAzAL MUzAL NUzAL XIzAL OMICRONzAL PI",
     "zAL RHOzAL THETA SYMBOLzAL SIGMAzAL TAUzAL UPSILONzAL PHIzAL CHIzAL PSI",
     "zAL OMEGAuNABLAuSMALL ALPHAz BETAz GAMMAz DELTAz EPSILONz ZETAz ETAz THETA",
     "z IOTAz KAPPAz LAMDAz MUz NUz XIz OMICRONz PIz RHOz FINAL SIGMAz SIGMAz TAU",
     "z UPSILONz PHIz CHIz PSIz OMEGAuPARTIAL DIFFERENTIALuEPSILON SYMBOL",
     "uTHETA SYMBOLuKAPPA SYMBOLuPHI SYMBOLuRHO SYMBOLuPI SYMBOL",
     "nBOLD ITALIC CAPITAL ALPHAzCAPITAL BETAzCAPITAL GAMMAzCAPITAL DELTA",
     "zCAPITAL EPSILONzCAPITAL ZETAzCAPITAL ETAzCAPITAL THETAzCAPITAL IOTA",
     "zCAPITAL KAPPAzCAPITAL LAMDAzCAPITAL MUzCAPITAL NUzCAPITAL XI",
     "zCAPITAL OMICRONzCAPITAL PIzCAPITAL RHOzCAPITAL THETA SYMBOLzCAPITAL SIGMA",
     "zCAPITAL TAUzCAPITAL UPSILONzCAPITAL PHIzCAPITAL CHIzCAPITAL PSI",
     "zCAPITAL OMEGAzNABLAzSMALL ALPHAzSMALL BETAzSMALL GAMMAzSMALL DELTA",
     "zSMALL EPSILONzSMALL ZETAzSMALL ETAzSMALL THETAzSMALL IOTAzSMALL KAPPA",
     "zSMALL LAMDAzSMALL MUzSMALL NUzSMALL XIzSMALL OMICRONzSMALL PIzSMALL RHO",
     "zSMALL FINAL SIGMAzSMALL SIGMAzSMALL TAUzSMALL UPSILONzSMALL PHIzSMALL CHI",
     "zSMALL PSIzSMALL OMEGAzPARTIAL DIFFERENTIALzEPSILON SYMBOLzTHETA SYMBOL",
     "zKAPPA SYMBOLzPHI SYMBOLzRHO SYMBOLzPI SYMBOLnSANS-SERIF BOLD CAPITAL ALPHA",
     "zOLD CAPITAL BETAzOLD CAPITAL GAMMAzOLD CAPITAL DELTAzOLD CAPITAL EPSILON",
     "zOLD CAPITAL ZETAzOLD CAPITAL ETAzOLD CAPITAL THETAzOLD CAPITAL IOTA",
     "zOLD CAPITAL KAPPAzOLD CAPITAL LAMDAzOLD CAPITAL MUzOLD CAPITAL NU",
     "zOLD CAPITAL XIzOLD CAPITAL OMICRONzOLD CAPITAL PIzOLD CAPITAL RHO",
     "zOLD CAPITAL THETA SYMBOLzOLD CAPITAL SIGMAzOLD CAPITAL TAU",
     "zOLD CAPITAL UPSILONzOLD CAPITAL PHIzOLD CAPITAL CHIzOLD CAPITAL PSI",
     "zOLD CAPITAL OMEGAzOLD NABLAzOLD SMALL ALPHAzOLD SMALL BETAzOLD SMALL GAMMA",
     "zOLD SMALL DELTAzOLD SMALL EPSILONzOLD SMALL ZETAzOLD SMALL ETA",
     "zOLD SMALL THETAzOLD SMALL IOTAzOLD SMALL KAPPAzOLD SMALL LAMDAzOLD SMALL MU",
     "zOLD SMALL NUzOLD SMALL XIzOLD SMALL OMICRONzOLD SMALL PIzOLD SMALL RHO",
     "zOLD SMALL FINAL SIGMAzOLD SMALL SIGMAzOLD SMALL TAUzOLD SMALL UPSILON",
     "zOLD SMALL PHIzOLD SMALL CHIzOLD SMALL PSIzOLD SMALL OMEGA",
     "zOLD PARTIAL DIFFERENTIALzOLD EPSILON SYMBOLzOLD THETA SYMBOL",
     "zOLD KAPPA SYMBOLzOLD PHI SYMBOLzOLD RHO SYMBOLzOLD PI SYMBOL",
     "zOLD ITALIC CAPITAL ALPHAzOLD ITALIC CAPITAL BETAzOLD ITALIC CAPITAL GAMMA",
     "zOLD ITALIC CAPITAL DELTAzOLD ITALIC CAPITAL EPSILONzOLD ITALIC CAPITAL ZETA",
     "zOLD ITALIC CAPITAL ETAzOLD ITALIC CAPITAL THETAzOLD ITALIC CAPITAL IOTA",
     "zOLD ITALIC CAPITAL KAPPAzOLD ITALIC CAPITAL LAMDAzOLD ITALIC CAPITAL MU",
     "zOLD ITALIC CAPITAL NUzOLD ITALIC CAPITAL XIzOLD ITALIC CAPITAL OMICRON",
     "zOLD ITALIC CAPITAL PIzOLD ITALIC CAPITAL RHO",
     "zOLD ITALIC CAPITAL THETA SYMBOLzOLD ITALIC CAPITAL SIGMA",
     "zOLD ITALIC CAPITAL TAUzOLD ITALIC CAPITAL UPSILONzOLD ITALIC CAPITAL PHI",
     "zOLD ITALIC CAPITAL CHIzOLD ITALIC CAPITAL PSIzOLD ITALIC CAPITAL OMEGA",
     "zOLD ITALIC NABLAzOLD ITALIC SMALL ALPHAzOLD ITALIC SMALL BETA",
     "zOLD ITALIC SMALL GAMMAzOLD ITALIC SMALL DELTAzOLD ITALIC SMALL EPSILON",
     "zOLD ITALIC SMALL ZETAzOLD ITALIC SMALL ETAzOLD ITALIC SMALL THETA",
     "zOLD ITALIC SMALL IOTAzOLD ITALIC SMALL KAPPAzOLD ITALIC SMALL LAMDA",
     "zOLD ITALIC SMALL MUzOLD ITALIC SMALL NUzOLD ITALIC SMALL XI",
     "zOLD ITALIC SMALL OMICRONzOLD ITALIC SMALL PIzOLD ITALIC SMALL RHO",
     "zOLD ITALIC SMALL FINAL SIGMAzOLD ITALIC SMALL SIGMAzOLD ITALIC SMALL TAU",
     "zOLD ITALIC SMALL UPSILONzOLD ITALIC SMALL PHIzOLD ITALIC SMALL CHI",
     "zOLD ITALIC SMALL PSIzOLD ITALIC SMALL OMEGAzOLD ITALIC PARTIAL DIFFERENTIAL",
     "zOLD ITALIC EPSILON SYMBOLzOLD ITALIC THETA SYMBOLzOLD ITALIC KAPPA SYMBOL",
     "zOLD ITALIC PHI SYMBOLzOLD ITALIC RHO SYMBOLzOLD ITALIC PI SYMBOL",
     "nBOLD CAPITAL DIGAMMAsSMALL DIGAMMA"]⟩,
   ⟨0x1D7CE, ["aMATHEMATICAL BOLD DIGIT ZEROyONEyTWOzHREEyFOURzIVEySIXzEVENyEIGHTyNINE",
     "nDOUBLE-STRUCK DIGIT ZEROzK DIGIT ONEzK DIGIT TWOzK DIGIT THREEzK DIGIT FOUR",
     "zK DIGIT FIVEzK DIGIT SIXzK DIGIT SEVENzK DIGIT EIGHTzK DIGIT NINE",
     "nSANS-SERIF DIGIT ZEROzIGIT ONEzIGIT TWOzIGIT THREEzIGIT FOURzIGIT FIVE",
     "zIGIT SIXzIGIT SEVENzIGIT EIGHTzIGIT NINEyBOLD DIGIT ZEROzOLD DIGIT ONE",
     "zOLD DIGIT TWOzOLD DIGIT THREEzOLD DIGIT FOURzOLD DIGIT FIVEzOLD DIGIT SIX",
     "zOLD DIGIT SEVENzOLD DIGIT EIGHTzOLD DIGIT NINEnMONOSPACE DIGIT ZEROzGIT ONE",
     "zGIT TWOzGIT THREEzGIT FOURzGIT FIVEzGIT SIXzGIT SEVENzGIT EIGHTzGIT NINE",
     "aSIGNWRITING HAND-FIST INDEXrCIRCLE INDEXsUP INDEXrOVAL INDEXrHINGE INDEX",
     "rANGLE INDEXrFIST INDEX BENTrCIRCLE INDEX BENTrFIST THUMB UNDER INDEX BENT",
     "wINDEX RAISED KNUCKLEzEX CUPPEDzEX HINGEDzEX HINGED LOWrCIRCLE INDEX HINGE",
     "rFIST INDEX MIDDLErCIRCLE INDEX MIDDLErFIST INDEX MIDDLE BENT",
     "zEX MIDDLE RAISED KNUCKLESzEX MIDDLE HINGEDzEX UP MIDDLE HINGED",
     "zEX HINGED MIDDLE UPzEX MIDDLE CONJOINEDzEX MIDDLE CONJOINED INDEX BENT",
     "zEX MIDDLE CONJOINED MIDDLE BENTzEX MIDDLE CONJOINED CUPPED",
     "zEX MIDDLE CONJOINED HINGEDzEX MIDDLE CROSSEDrCIRCLE INDEX MIDDLE CROSSED",
     "rFIST MIDDLE BENT OVER INDEXwINDEX BENT OVER MIDDLEzEX MIDDLE THUMB",
     "rCIRCLE INDEX MIDDLE THUMBrFIST INDEX MIDDLE STRAIGHT THUMB BENT",
     "zEX MIDDLE BENT THUMB STRAIGHTzEX MIDDLE THUMB BENT",
     "zEX MIDDLE HINGED SPREAD THUMB SIDEzEX UP MIDDLE HINGED THUMB SIDE",
     "zEX UP MIDDLE HINGED THUMB CONJOINEDzEX HINGED MIDDLE UP THUMB SIDE",
     "zEX MIDDLE UP SPREAD THUMB FORWARDzEX MIDDLE THUMB CUPPED",
     "zEX MIDDLE THUMB CIRCLEDzEX MIDDLE THUMB HOOKEDzEX MIDDLE THUMB HINGED",
     "wTHUMB BETWEEN INDEX MIDDLE STRAIGHTwINDEX MIDDLE CONJOINED THUMB SIDE",
     "zEX MIDDLE CONJOINED THUMB SIDE CONJOINED",
     "zEX MIDDLE CONJOINED THUMB SIDE BENTwMIDDLE THUMB HOOKED INDEX UP",
     "wINDEX THUMB HOOKED MIDDLE UPzEX MIDDLE CONJOINED HINGED THUMB SIDE",
     "zEX MIDDLE CROSSED THUMB SIDEzEX MIDDLE CONJOINED THUMB FORWARD",
     "zEX MIDDLE CONJOINED CUPPED THUMB FORWARDwMIDDLE THUMB CUPPED INDEX UP",
     "wINDEX THUMB CUPPED MIDDLE UPwMIDDLE THUMB CIRCLED INDEX UP",
     "zDLE THUMB CIRCLED INDEX HINGEDwINDEX THUMB ANGLED OUT MIDDLE UP",
     "zEX THUMB ANGLED IN MIDDLE UPzEX THUMB CIRCLED MIDDLE UP",
     "zEX MIDDLE THUMB CONJOINED HINGEDzEX MIDDLE THUMB ANGLED OUT",
     "zEX MIDDLE THUMB ANGLEDwMIDDLE THUMB ANGLED OUT INDEX UP",
     "zDLE THUMB ANGLED OUT INDEX CROSSEDzDLE THUMB ANGLED INDEX UP",
     "wINDEX THUMB HOOKED MIDDLE HINGEDsLAT FOUR FINGERSzR FINGERS BENT",
     "zR FINGERS HINGEDzR FINGERS CONJOINEDzR FINGERS CONJOINED SPLIT",
     "rCLAW FOUR FINGERS CONJOINEDrFIST FOUR FINGERS CONJOINED BENT",
     "rHINGE FOUR FINGERS CONJOINEDrFLAT FIVE FINGERS SPREAD",
     "wHEEL FIVE FINGERS SPREADwFIVE FINGERS SPREAD FOUR BENT",
     "wHEEL FIVE FINGERS SPREAD FOUR BENTwFIVE FINGERS SPREAD BENT",
     "wHEEL FIVE FINGERS SPREAD BENTwFIVE FINGERS SPREAD THUMB FORWARD",
     "rCUP FIVE FINGERS SPREADz FINGERS SPREAD OPENrHINGE FIVE FINGERS SPREAD OPEN",
     "rOVAL FIVE FINGERS SPREADrFLAT FIVE FINGERS SPREAD HINGED",
     "zE FINGERS SPREAD HINGED THUMB SIDEzE FINGERS SPREAD HINGED NO THUMBv",
     "v BETWEEN PALM FACINGSwHEELwTHUMB SIDEwHEEL THUMB SIDEwTHUMB BENTzMB FORWARD",
     "wSPLIT INDEX THUMB SIDEzIT CENTREzIT CENTRE THUMB SIDE",
     "zIT CENTRE THUMB SIDE BENTzIT LITTLErCLAWv THUMB SIDEwNO THUMBwTHUMB FORWARD",
     "rHOOK CURLICUEvrCUP OPENuu OPEN THUMB SIDEvTHUMB SIDEvOPEN NO THUMBvNO THUMB",
     "vOPEN THUMB FORWARDvTHUMB FORWARDtRLICUE OPENzsIRCLErOVALv THUMB SIDE",
     "wNO THUMBwTHUMB FORWARDrHINGE OPENzEN THUMB FORWARDww SMALLxOPEN THUMB SIDE",
     "xTHUMB SIDExOPEN NO THUMBxNO THUMBxTHUMB SIDE TOUCHING INDEX",
     "zUMB BETWEEN MIDDLE RINGrANGLErFIST INDEX MIDDLE RING",
     "rCIRCLE INDEX MIDDLE RINGrHINGE INDEX MIDDLE RINGrANGLE INDEX MIDDLE RING",
     "rHINGE LITTLErFIST INDEX MIDDLE RING BENTzEX MIDDLE RING CONJOINED",
     "rHINGE INDEX MIDDLE RING CONJOINEDrFIST LITTLE DOWNzTLE DOWN RIPPLE STRAIGHT",
     "zTLE DOWN RIPPLE CURVEDzTLE DOWN OTHERS CIRCLEDzTLE UPwTHUMB UNDER LITTLE UP",
     "rCIRCLE LITTLE UPrOVAL LITTLE UPrANGLE LITTLE UPrFIST LITTLE RAISED KNUCKLE",
     "zTLE BENTzTLE TOUCHES THUMBzTLE THUMBrHINGE LITTLE THUMB",
     "rFIST LITTLE INDEX THUMBrHINGE LITTLE INDEX THUMB",
     "rANGLE LITTLE INDEX THUMB INDEX THUMB OUTzTTLE INDEX THUMB INDEX THUMB",
     "rFIST LITTLE INDEXrCIRCLE LITTLE INDEXrHINGE LITTLE INDEXrANGLE LITTLE INDEX",
     "rFIST INDEX MIDDLE LITTLErCIRCLE INDEX MIDDLE LITTLE",
     "rHINGE INDEX MIDDLE LITTLExRINGrANGLE INDEX MIDDLE LITTLE",
     "rFIST INDEX MIDDLE CROSS LITTLErCIRCLE INDEX MIDDLE CROSS LITTLE",
     "rFIST RING DOWNrHINGE RING DOWN INDEX THUMB HOOK MIDDLE",
     "rANGLE RING DOWN MIDDLE THUMB INDEX CROSSrFIST RING UPzG RAISED KNUCKLE",
     "zG LITTLErCIRCLE RING LITTLErOVAL RING LITTLErANGLE RING LITTLE",
     "rFIST RING MIDDLEzG MIDDLE CONJOINEDzG MIDDLE RAISED KNUCKLESzG INDEX",
     "zG THUMBrHOOK RING THUMBrFIST INDEX RING LITTLErCIRCLE INDEX RING LITTLE",
     "sURLICUE INDEX RING LITTLE ONrHOOK INDEX RING LITTLE OUTzEX RING LITTLE IN",
     "zEX RING LITTLE UNDERrCUP INDEX RING LITTLErHINGE INDEX RING LITTLE",
     "rANGLE INDEX RING LITTLE OUTzDEX RING LITTLErFIST MIDDLE DOWNrHINGE MIDDLE",
     "rFIST MIDDLE UPrCIRCLE MIDDLE UPrFIST MIDDLE RAISED KNUCKLE",
     "zDLE UP THUMB SIDErHOOK MIDDLE THUMBrFIST MIDDLE THUMB LITTLEzDLE LITTLE",
     "zDLE RING LITTLErCIRCLE MIDDLE RING LITTLEsURLICUE MIDDLE RING LITTLE ON",
     "tP MIDDLE RING LITTLErHINGE MIDDLE RING LITTLErANGLE MIDDLE RING LITTLE OUT",
     "zDDLE RING LITTLE INzDDLE RING LITTLErCIRCLE MIDDLE RING LITTLE BENT",
     "sLAW MIDDLE RING LITTLE CONJOINEDzDLE RING LITTLE CONJOINED SIDE",
     "rHOOK MIDDLE RING LITTLE CONJOINED OUTzDLE RING LITTLE CONJOINED IN",
     "zDLE RING LITTLE CONJOINEDsINGE INDEX HINGEDrFIST INDEX THUMB SIDE",
     "rHINGE INDEX THUMB SIDErFIST INDEX THUMB SIDE THUMB DIAGONAL",
     "zEX THUMB SIDE THUMB CONJOINEDzEX THUMB SIDE THUMB BENT",
     "zEX THUMB SIDE INDEX BENTzEX THUMB SIDE BOTH BENTzEX THUMB SIDE INDEX HINGE",
     "zEX THUMB FORWARD INDEX STRAIGHTzEX THUMB FORWARD INDEX BENTzEX THUMB HOOK",
     "zEX THUMB CURLICUEzEX THUMB CURVE THUMB INSIDE",
     "rCLAW INDEX THUMB CURVE THUMB INSIDErFIST INDEX THUMB CURVE THUMB UNDER",
     "zEX THUMB CIRCLErCUP INDEX THUMBzX THUMB OPENrHINGE INDEX THUMB OPEN",
     "zDEX THUMB LARGEzDEX THUMBzDEX THUMB SMALLrANGLE INDEX THUMB OUT",
     "zDEX THUMB INzDEX THUMBrFIST THUMBzMB HEELzMB SIDE DIAGONAL",
     "zMB SIDE CONJOINEDzMB SIDE BENTzMB FORWARDzMB BETWEEN INDEX MIDDLE",
     "zMB BETWEEN MIDDLE RINGzMB BETWEEN RING LITTLEzMB UNDER TWO FINGERS",
     "zMB OVER TWO FINGERSzMB UNDER THREE FINGERSzMB UNDER FOUR FINGERS",
     "zMB OVER FOUR RAISED KNUCKLESvv HEELmTOUCH SINGLEsMULTIPLEsBETWEEN",
     "mGRASP SINGLEsMULTIPLEsBETWEENmSTRIKE SINGLEtMULTIPLEtBETWEENmBRUSH SINGLE",
     "sMULTIPLEsBETWEENmRUB SINGLEqMULTIPLEqBETWEENmSURFACE SYMBOLSuBETWEEN",
     "nQUEEZE LARGE SINGLEuSMALL SINGLEuLARGE MULTIPLEuSMALL MULTIPLEvEQUENTIAL",
     "mFLICK LARGE SINGLEsSMALL SINGLEsLARGE MULTIPLEsSMALL MULTIPLEtEQUENTIAL",
     "mSQUEEZE FLICK ALTERNATINGmMOVEMENT-HINGE UP DOWN LARGEzE UP DOWN SMALL",
     "zE UP SEQUENTIALzE DOWN SEQUENTIALzE UP DOWN ALTERNATING LARGE",
     "zE UP DOWN ALTERNATING SMALLzE SIDE TO SIDE SCISSORS",
     "vWALLPLANE FINGER CONTACTvFLOORPLANE FINGER CONTACT",
     "vWALLPLANE SINGLE STRAIGHT SMALLzPLANE SINGLE STRAIGHT MEDIUM",
     "zPLANE SINGLE STRAIGHT LARGEzPLANE SINGLE STRAIGHT LARGEST",
     "zPLANE SINGLE WRIST FLEXzPLANE DOUBLE STRAIGHTzPLANE DOUBLE WRIST FLEX",
     "zPLANE DOUBLE ALTERNATINGzPLANE DOUBLE ALTERNATING WRIST FLEXzPLANE CROSS",
     "zPLANE TRIPLE STRAIGHT MOVEMENTzPLANE TRIPLE WRIST FLEX",
     "zPLANE TRIPLE ALTERNATINGzPLANE TRIPLE ALTERNATING WRIST FLEX",
     "zPLANE BEND SMALLzPLANE BEND MEDIUMzPLANE BEND LARGEzPLANE CORNER SMALL",
     "zPLANE CORNER MEDIUMzPLANE CORNER LARGEzPLANE CORNER ROTATION",
     "zPLANE CHECK SMALLzPLANE CHECK MEDIUMzPLANE CHECK LARGEzPLANE BOX SMALL",
     "zPLANE BOX MEDIUMzPLANE BOX LARGEzPLANE ZIGZAG SMALLzPLANE ZIGZAG MEDIUM",
     "zPLANE ZIGZAG LARGEzPLANE PEAKS SMALLzPLANE PEAKS MEDIUMzPLANE PEAKS LARGE",
     "mTRAVEL-WALLPLANE ROTATION-WALLPLANE SINGLEzANE ROTATION-WALLPLANE DOUBLE",
     "zANE ROTATION-WALLPLANE ALTERNATINGzANE ROTATION-FLOORPLANE SINGLE",
     "zANE ROTATION-FLOORPLANE DOUBLEzANE ROTATION-FLOORPLANE ALTERNATING",
     "zANE SHAKINGzANE ARM SPIRAL SINGLEzANE ARM SPIRAL DOUBLE",
     "zANE ARM SPIRAL TRIPLEmMOVEMENT-DIAGONAL AWAY SMALLzONAL AWAY MEDIUM",
     "zONAL AWAY LARGEzONAL AWAY LARGESTzONAL TOWARDS SMALLzONAL TOWARDS MEDIUM",
     "zONAL TOWARDS LARGEzONAL TOWARDS LARGESTzONAL BETWEEN AWAY SMALL",
     "zONAL BETWEEN AWAY MEDIUMzONAL BETWEEN AWAY LARGEzONAL BETWEEN AWAY LARGEST",
     "zONAL BETWEEN TOWARDS SMALLzONAL BETWEEN TOWARDS MEDIUM",
     "zONAL BETWEEN TOWARDS LARGEzONAL BETWEEN TOWARDS LARGEST",
     "vFLOORPLANE SINGLE STRAIGHT SMALLzRPLANE SINGLE STRAIGHT MEDIUM",
     "zRPLANE SINGLE STRAIGHT LARGEzRPLANE SINGLE STRAIGHT LARGEST",
     "zRPLANE SINGLE WRIST FLEXzRPLANE DOUBLE STRAIGHTzRPLANE DOUBLE WRIST FLEX",
     "zRPLANE DOUBLE ALTERNATINGzRPLANE DOUBLE ALTERNATING WRIST FLEXzRPLANE CROSS",
     "zRPLANE TRIPLE STRAIGHT MOVEMENTzRPLANE TRIPLE WRIST FLEX",
     "zRPLANE TRIPLE ALTERNATING MOVEMENTzRPLANE TRIPLE ALTERNATING WRIST FLEX",
     "zRPLANE BENDzRPLANE CORNER SMALLzRPLANE CORNER MEDIUMzRPLANE CORNER LARGE",
     "zRPLANE CHECKzRPLANE BOX SMALLzRPLANE BOX MEDIUMzRPLANE BOX LARGE",
     "zRPLANE ZIGZAG SMALLzRPLANE ZIGZAG MEDIUMzRPLANE ZIGZAG LARGE",
     "zRPLANE PEAKS SMALLzRPLANE PEAKS MEDIUMzRPLANE PEAKS LARGE",
     "mTRAVEL-FLOORPLANE ROTATION-FLOORPLANE SINGLE",
     "zLANE ROTATION-FLOORPLANE DOUBLEzLANE ROTATION-FLOORPLANE ALTERNATING",
     "zLANE ROTATION-WALLPLANE SINGLEzLANE ROTATION-WALLPLANE DOUBLE",
     "zLANE ROTATION-WALLPLANE ALTERNATINGzLANE SHAKING",
     "mMOVEMENT-WALLPLANE CURVE QUARTER SMALLzPLANE CURVE QUARTER MEDIUM",
     "zPLANE CURVE QUARTER LARGEzPLANE CURVE QUARTER LARGEST",
     "zPLANE CURVE HALF-CIRCLE SMALLzPLANE CURVE HALF-CIRCLE MEDIUM",
     "zPLANE CURVE HALF-CIRCLE LARGEzPLANE CURVE HALF-CIRCLE LARGEST",
     "zPLANE CURVE THREE-QUARTER CIRCLE SMALL",
     "zPLANE CURVE THREE-QUARTER CIRCLE MEDIUMzPLANE HUMP SMALLzPLANE HUMP MEDIUM",
     "zPLANE HUMP LARGEzPLANE LOOP SMALLzPLANE LOOP MEDIUMzPLANE LOOP LARGE",
     "zPLANE LOOP SMALL DOUBLEzPLANE WAVE CURVE DOUBLE SMALL",
     "zPLANE WAVE CURVE DOUBLE MEDIUMzPLANE WAVE CURVE DOUBLE LARGE",
     "zPLANE WAVE CURVE TRIPLE SMALLzPLANE WAVE CURVE TRIPLE MEDIUM",
     "zPLANE WAVE CURVE TRIPLE LARGEzPLANE CURVE THEN STRAIGHT",
     "zPLANE CURVED CROSS SMALLzPLANE CURVED CROSS MEDIUM",
     "mROTATION-WALLPLANE SINGLEzPLANE DOUBLEzPLANE ALTERNATE",
     "mMOVEMENT-WALLPLANE SHAKINGzPLANE CURVE HITTING FRONT WALL",
     "zPLANE HUMP HITTING FRONT WALLzPLANE LOOP HITTING FRONT WALL",
     "zPLANE WAVE HITTING FRONT WALLmROTATION-WALLPLANE SINGLE HITTING FRONT WALL",
     "zPLANE DOUBLE HITTING FRONT WALLzPLANE ALTERNATING HITTING FRONT WALL",
     "mMOVEMENT-WALLPLANE CURVE HITTING CHESTzPLANE HUMP HITTING CHEST",
     "zPLANE LOOP HITTING CHESTzPLANE WAVE HITTING CHEST",
     "mROTATION-WALLPLANE SINGLE HITTING CHESTzPLANE DOUBLE HITTING CHEST",
     "zPLANE ALTERNATING HITTING CHESTmMOVEMENT-WALLPLANE WAVE DIAGONAL PATH SMALL",
     "zPLANE WAVE DIAGONAL PATH MEDIUMzPLANE WAVE DIAGONAL PATH LARGE",
     "vFLOORPLANE CURVE HITTING CEILING SMALLzRPLANE CURVE HITTING CEILING LARGE",
     "zRPLANE HUMP HITTING CEILING SMALL DOUBLE",
     "zRPLANE HUMP HITTING CEILING LARGE DOUBLE",
     "zRPLANE HUMP HITTING CEILING SMALL TRIPLE",
     "zRPLANE HUMP HITTING CEILING LARGE TRIPLE",
     "zRPLANE LOOP HITTING CEILING SMALL SINGLE",
     "zRPLANE LOOP HITTING CEILING LARGE SINGLE",
     "zRPLANE LOOP HITTING CEILING SMALL DOUBLE",
     "zRPLANE LOOP HITTING CEILING LARGE DOUBLEzRPLANE WAVE HITTING CEILING SMALL",
     "zRPLANE WAVE HITTING CEILING LARGE",
     "mROTATION-FLOORPLANE SINGLE HITTING CEILINGzRPLANE DOUBLE HITTING CEILING",
     "zRPLANE ALTERNATING HITTING CEILING",
     "mMOVEMENT-FLOORPLANE CURVE HITTING FLOOR SMALL",
     "zRPLANE CURVE HITTING FLOOR LARGEzRPLANE HUMP HITTING FLOOR SMALL DOUBLE",
     "zRPLANE HUMP HITTING FLOOR LARGE DOUBLE",
     "zRPLANE HUMP HITTING FLOOR TRIPLE SMALL TRIPLE",
     "zRPLANE HUMP HITTING FLOOR TRIPLE LARGE TRIPLE",
     "zRPLANE LOOP HITTING FLOOR SMALL SINGLE",
     "zRPLANE LOOP HITTING FLOOR LARGE SINGLE",
     "zRPLANE LOOP HITTING FLOOR SMALL DOUBLE",
     "zRPLANE LOOP HITTING FLOOR LARGE DOUBLEzRPLANE WAVE HITTING FLOOR SMALL",
     "zRPLANE WAVE HITTING FLOOR LARGEmROTATION-FLOORPLANE SINGLE HITTING FLOOR",
     "zRPLANE DOUBLE HITTING FLOORzRPLANE ALTERNATING HITTING FLOOR",
     "mMOVEMENT-FLOORPLANE CURVE SMALLzRPLANE CURVE MEDIUMzRPLANE CURVE LARGE",
     "zRPLANE CURVE LARGESTzRPLANE CURVE COMBINEDzRPLANE HUMP SMALL",
     "zRPLANE LOOP SMALLzRPLANE WAVE SNAKEzRPLANE WAVE SMALLzRPLANE WAVE LARGE",
     "mROTATION-FLOORPLANE SINGLEzRPLANE DOUBLEzRPLANE ALTERNATING",
     "mMOVEMENT-FLOORPLANE SHAKING PARALLELvWALLPLANE ARM CIRCLE SMALL SINGLE",
     "zPLANE ARM CIRCLE MEDIUM SINGLEzPLANE ARM CIRCLE SMALL DOUBLE",
     "zPLANE ARM CIRCLE MEDIUM DOUBLE",
     "vFLOORPLANE ARM CIRCLE HITTING WALL SMALL SINGLE",
     "zRPLANE ARM CIRCLE HITTING WALL MEDIUM SINGLE",
     "zRPLANE ARM CIRCLE HITTING WALL LARGE SINGLE",
     "zRPLANE ARM CIRCLE HITTING WALL SMALL DOUBLE",
     "zRPLANE ARM CIRCLE HITTING WALL MEDIUM DOUBLE",
     "zRPLANE ARM CIRCLE HITTING WALL LARGE DOUBLE",
     "vWALLPLANE WRIST CIRCLE FRONT SINGLEzPLANE WRIST CIRCLE FRONT DOUBLE",
     "vFLOORPLANE WRIST CIRCLE HITTING WALL SINGLE",
     "zRPLANE WRIST CIRCLE HITTING WALL DOUBLEvWALLPLANE FINGER CIRCLES SINGLE",
     "zPLANE FINGER CIRCLES DOUBLEvFLOORPLANE FINGER CIRCLES HITTING WALL SINGLE",
     "zRPLANE FINGER CIRCLES HITTING WALL DOUBLEmDYNAMIC ARROWHEAD SMALL",
     "zHEAD LARGEuFASTuSLOWuTENSEuRELAXEDuSIMULTANEOUSzTANEOUS ALTERNATING",
     "uEVERY OTHER TIMEuGRADUALmHEADq RIMrMOVEMENT-WALLPLANE STRAIGHT",
     "z-WALLPLANE TILTz-FLOORPLANE STRAIGHTz-WALLPLANE CURVEz-FLOORPLANE CURVE",
     "z CIRCLEmFACE DIRECTION POSITION NOSE FORWARD TILTING",
     "zN POSITION NOSE UP OR DOWNzN POSITION NOSE UP OR DOWN TILTING",
     "mEYEBROWS STRAIGHT UPzIGHT NEUTRALzIGHT DOWNmDREAMY EYEBROWS NEUTRAL DOWN",
     "zWS DOWN NEUTRALzWS UP NEUTRALzWS NEUTRAL UPmFOREHEAD NEUTRALvCONTACT",
     "vWRINKLEDmEYES OPENrSQUEEZEDrCLOSEDp BLINK SINGLEwMULTIPLEpS HALF OPEN",
     "rWIDE OPENrHALF CLOSEDrWIDENING MOVEMENTp WINKpLASHES UPwDOWNwFLUTTERING",
     "pGAZE-WALLPLANE STRAIGHTzLANE STRAIGHT DOUBLEzLANE STRAIGHT ALTERNATING",
     "uFLOORPLANE STRAIGHTzPLANE STRAIGHT DOUBLEzPLANE STRAIGHT ALTERNATING",
     "uWALLPLANE CURVEDuFLOORPLANE CURVEDuWALLPLANE CIRCLINGmCHEEKS PUFFEDtNEUTRAL",
     "tSUCKEDmTENSE CHEEKS HIGHzMIDDLEzLOWmEARSmNOSE NEUTRALrCONTACTrWRINKLES",
     "sIGGLESmAIR BLOWING OUTqSUCKING INqBLOW SMALL ROTATIONSqSUCK SMALL ROTATIONS",
     "mBREATH INHALEtEXHALEmMOUTH CLOSED NEUTRALzFORWARDzCONTACTsSMILEx WRINKLED",
     "yOPENsFROWNx WRINKLEDyOPENsOPEN CIRCLExFORWARDxWRINKLEDxOVALzAL WRINKLED",
     "zAL YAWNxRECTANGLEzCTANGLE WRINKLEDzCTANGLE YAWNsKISSw FORWARDxWRINKLED",
     "sTENSEx FORWARDySUCKEDmLIPS PRESSED TOGETHERp LOWER OVER UPPER",
     "qUPPER OVER LOWERmMOUTH CORNERSsWRINKLES SINGLEzS DOUBLE",
     "mTONGUE STICKING OUT FARtLICKING LIPStTIP BETWEEN LIPSxTOUCHING INSIDE MOUTH",
     "tINSIDE MOUTH RELAXEDtMOVES AGAINST CHEEKtCENTRE STICKING OUTz INSIDE MOUTH",
     "nEETHr MOVEMENTsON TONGUEzUE MOVEMENTvLIPSz MOVEMENTsBITE LIPS",
     "mMOVEMENT-WALLPLANE JAWvFLOORPLANE JAWmNECKmHAIRmEXCITEMENT",
     "mSHOULDER HIP SPINEzPOSITIONSmWALLPLANE SHOULDER HIP MOVE",
     "mFLOORPLANE SHOULDER HIP MOVEmSHOULDER TILTING FROM WAIST",
     "mTORSO-WALLPLANE STRAIGHT STRETCHzNE CURVED BENDsFLOORPLANE TWISTING",
     "mUPPER BODY TILTING FROM HIP JOINTSmLIMB COMBINATIONrLENGTH-1y2y3y4y5y6y7",
     "mFINGERmLOCATION-WALLPLANE SPACEvFLOORPLANE SPACEu HEIGHTvWIDTHvDEPTH",
     "vHEAD NECKvTORSOvLIMBS DIGITSmCOMMAmFULL STOPmSEMICOLONmCOLONmPARENTHESIS"]⟩,
   ⟨0x1DA9B, ["aSIGNWRITING FILL MODIFIER-2z-3z-4z-5z-6"]⟩,
   ⟨0x1DAA1, ["aSIGNWRITING ROTATION MODIFIER-2zFIER-3zFIER-4zFIER-5zFIER-6zFIER-7zFIER-8",
     "zFIER-9zFIER-10zFIER-11zFIER-12zFIER-13zFIER-14zFIER-15zFIER-16"]⟩,
   ⟨0x1DF00, ["aLATIN SMALL LETTER FENG DIGRAPH WITH TRILLtREVERSED SCRIPT G",
     "gLETTER SMALL CAPITAL TURNED GgSMALL LETTER REVERSED K",
     "gLETTER SMALL CAPITAL L WITH BELTgSMALL LETTER LEZH WITH RETROFLEX HOOK",
     "tTURNED Y WITH BELTtREVERSED ENGtTURNED R WITH LONG LEG AND RETROFLEX HOOK",
     "u WITH HOOK AND RETROFLEX HOOKgLETTER RETROFLEX CLICK WITH RETROFLEX HOOK",
     "gSMALL LETTER ESH WITH DOUBLE BARzTH DOUBLE BAR AND CURLtTURNED T WITH CURL",
     "gLETTER INVERTED GLOTTAL STOP WITH CURLnSTRETCHED C WITH CURL",
     "oMALL CAPITAL TURNED KgSMALL LETTER L WITH FISHHOOK",
     "tDEZH DIGRAPH WITH PALATAL HOOKtL WITH BELT AND PALATAL HOOK",
     "tENG WITH PALATAL HOOKtTURNED R WITH PALATAL HOOK",
     "tR WITH FISHHOOK AND PALATAL HOOKtTESH DIGRAPH WITH PALATAL HOOK",
     "tEZH WITH PALATAL HOOKtDEZH DIGRAPH WITH RETROFLEX HOOK",
     "tI WITH STROKE AND RETROFLEX HOOKtO WITH RETROFLEX HOOK",
     "tTESH DIGRAPH WITH RETROFLEX HOOKtC WITH RETROFLEX HOOKtS WITH CURL"]⟩,
   ⟨0x1E000, ["aCOMBINING GLAGOLITIC LETTER AZUzER BUKYzER VEDEzER GLAGOLIzER DOBRO",
     "zER YESTUzER ZHIVETE"]⟩,
   ⟨0x1E008, ["aCOMBINING GLAGOLITIC LETTER ZEMLJAzER IZHEzER INITIAL IZHEzER IzER DJERVI",
     "zER KAKOzER LJUDIJEzER MYSLITEzER NASHIzER ONUzER POKOJIzER RITSIzER SLOVO",
     "zER TVRIDOzER UKUzER FRITUzER HERU"]⟩,
   ⟨0x1E01B, ["aCOMBINING GLAGOLITIC LETTER SHTAzER TSIzER CHRIVIzER SHAzER YERUzER YERI",
     "zER YATI"]⟩,
   ⟨0x1E023, ["aCOMBINING GLAGOLITIC LETTER YUzER SMALL YUS"]⟩,
   ⟨0x1E026, ["aCOMBINING GLAGOLITIC LETTER YOzER IOTATED SMALL YUSzER BIG YUS",
     "zER IOTATED BIG YUSzER FITA"]⟩,
   ⟨0x1E100, ["aNYIAKENG PUACHUE HMONG LETTER MAzTTER TSAzTTER NTAzTTER TAzTTER HAzTTER NA",
     "zTTER XAzTTER NKAzTTER CAzTTER LAzTTER SAzTTER ZAzTTER NCAzTTER NTSAzTTER KA",
     "zTTER DAzTTER NYAzTTER NRAzTTER VAzTTER NTXAzTTER TXAzTTER FAzTTER RA",
     "zTTER QAzTTER YAzTTER NQAzTTER PAzTTER XYAzTTER NPAzTTER DLAzTTER NPLA",
     "zTTER HAHzTTER MLAzTTER PLAzTTER GAzTTER RRAzTTER AzTTER AAzTTER IzTTER U",
     "zTTER OzTTER OOzTTER EzTTER EEzTTER W"]⟩,
   ⟨0x1E130, ["aNYIAKENG PUACHUE HMONG TONE-BzNE-MzNE-JzNE-VzNE-SzNE-GzNE-DxSIGN FOR PERSON",
     "zGN FOR THINGzGN FOR LOCATIONzGN FOR ANIMALzGN FOR INVERTEBRATEzGN XW XW",
     "yYLLABLE LENGTHENER"]⟩,
   ⟨0x1E140, ["aNYIAKENG PUACHUE HMONG DIGIT ZEROzGIT ONEzGIT TWOzGIT THREEzGIT FOUR",
     "zGIT FIVEzGIT SIXzGIT SEVENzGIT EIGHTzGIT NINE"]⟩,
   ⟨0x1E14E, ["aNYIAKENG PUACHUE HMONG LOGOGRAM NYAJxCIRCLED CA"]⟩,
   ⟨0x1E290, ["aTOTO LETTER PAmBAmTAmDAmKAmGAmMAmNAnGAmSAmCHAmYAmWAmJAmHAmRAmLAmImBREATHY I",
     "mIUmBREATHY IUmUmEmBREATHY EmEOmBREATHY EOmOmAEmBREATHY AEmA",
     "fSIGN RISING TONE"]⟩,
   ⟨0x1E2C0, ["aWANCHO LETTER AApoBAoCAoDAoGAoYAoPHAoLAoNAoPAoTApHAoFAoSApHAoJAoZAoWAoVAoKA",
     "oOoAUoRAoMAoKHAoHAoEoIoNGAoUoLLHAoTSApRAoONGoAANGpNGoINGoONoENoAANoNYAoUEN",
     "oYIHhTONE TUPpNImKOIpNIhDIGIT ZEROnONEnTWOoHREEnFOURoIVEnSIXoEVENnEIGHTnNINE"]⟩,
   ⟨0x1E2FF, ["aWANCHO NGUN SIGN"]⟩,
   ⟨0x1E7E0, ["aETHIOPIC SYLLABLE HHYAvUvIvAAvEEwvO"]⟩,
   ⟨0x1E7E8, ["aETHIOPIC SYLLABLE GURAGE HHWAsHHWIvEEw"]⟩,
   ⟨0x1E7ED, ["aETHIOPIC SYLLABLE GURAGE MWIzMWEE"]⟩,
   ⟨0x1E7F0, ["aETHIOPIC SYLLABLE GURAGE QWIzQWEEzQWEzBWIzBWEEzKWIzKWEEzKWEzGWIzGWEEzGWE",
     "zFWIzFWEEzPWIzPWEE"]⟩,
   ⟨0x1E800, ["aMENDE KIKAKUI SYLLABLE M001 KIz02 KAz03 KUz65 KEEz95 KEz76 KOOz48 KO",
     "y179 KUAy004 WIz05 WAz06 WUy126 WEEz18 WEz14 WOOy045 WOy194 WUIz43 WEI",
     "y061 WVIz49 WVAy139 WVEy007 MINz08 MANz09 MUNz59 MENz94 MONy154 MUANz89 MUEN",
     "y010 BIz11 BAz12 BUy150 BEEy097 BEy103 BOOz38 BOy013 Iz14 Az15 Uy163 EEz00 E",
     "z65 OOz47 Oz37 EIz31 INz35 INz95 ANz78 ENy019 SIz20 SAz21 SUy162 SEEz16 SE",
     "z36 SOOy079 SOy196 SIAy025 LIz26 LAz27 LUz84 LEEz73 LEz54 LOOy153 LO",
     "z10 LONG LEy016 DIz17 DAz18 DUz89 DEEy180 DOOz81 DOy022 TIz23 TAz24 TU",
     "z91 TEEz55 TEy104 TOOy069 TOz28 JIz29 JAz30 JUy157 JEEz13 JEz60 JOOy063 JO",
     "y175 LONG JOy031 YIz32 YAz33 YUy109 YEEy080 YEy141 YOOz21 YOy034 FIz35 FA",
     "z36 FUz78 FEEz75 FEy133 FOOy088 FOy197 FUAz01 FANy037 NINz38 NANz39 NUN",
     "y117 NENz69 NONz76 HIy041 HAy186 HUy040 HEEz96 HEz42 HOOy140 HOy083 HEEI",
     "y128 HOOUy053 HINy130 HANy087 HUNz52 HENy193 HONy046 HUANz90 NGGIz43 NGGA",
     "z82 NGGUy115 NGGEEz46 NGGEz56 NGGOOz20 NGGOz59 NGGAAz27 NGGUAy086 LONG NGGE",
     "y106 LONG NGGOOz83 LONG NGGOz55 GIz11 GAz68 GUz90 GEEz66 GUEIz67 GUAN",
     "z84 NGENy057 NGONy177 NGUANy068 PIz99 PAz50 PUz81 PEEz51 PEy102 POOy066 PO",
     "y145 MBIy062 MBAy122 MBUy047 MBEEy188 MBEEy072 MBEy172 MBOOz74 MBOz87 MBUU",
     "z61 LONG MBEz05 LONG MBOOz42 LONG MBOz32 KPIy092 KPAz74 KPUz44 KPEEy108 KPE",
     "z12 KPOOz58 KPOz24 GBIy056 GBAy148 GBUy093 GBEEy107 GBEy071 GBOOz70 GBO",
     "y171 RAz23 NDIz29 NDAz25 NDUz91 NDEEz19 NDEy067 NDOOz64 NDOy152 NJAz92 NJU",
     "z49 NJEEz34 NJOOz82 VIz85 VAz51 VUz73 VEEy085 VEy144 VOOy077 VOy164 NYIN",
     "y058 NYANy170 NYUNy098 NYENz60 NYON"]⟩,
   ⟨0x1E8C7, ["aMENDE KIKAKUI DIGIT ONEuTWOvHREEuFOURvIVEuSIXvEVENuEIGHTuNINE",
     "oCOMBINING NUMBER TEENSzUMBER TENSzUMBER HUNDREDSzUMBER THOUSANDS",
     "zUMBER TEN THOUSANDSzUMBER HUNDRED THOUSANDSzUMBER MILLIONS"]⟩,
   ⟨0x1E900, ["aADLAM CAPITAL LETTER ALIFvDAALIvLAAMvMIIMvBAvSINNYIIYHEvPEvBHEvRAvEvFAvIvO",
     "vDHAvYHEvWAWvNUNvKAFvYAvUvJIIMvCHIvHAvQAAFvGAvNYAvTUvNHAvVAvKHAvGBEvZALvKPO",
     "vSHAgSMALL LETTER ALIFtDAALItLAAMtMIIMtBAtSINNYIIYHEtPEtBHEtRAtEtFAtItOtDHA",
     "tYHEtWAWtNUNtKAFtYAtUtJIIMtCHItHAtQAAFtGAtNYAtTUtNHAtVAtKHAtGBEtZALtKPOtSHA",
     "gALIF LENGTHENERgVOWEL LENGTHENERgGEMINATION MARKgHAMZAgCONSONANT MODIFIER",
     "gGEMINATE CONSONANT MODIFIERgNUKTAhASALIZATION MARK"]⟩,
   ⟨0x1E950, ["aADLAM DIGIT ZEROmONEmTWOnHREEmFOURnIVEmSIXnEVENmEIGHTmNINE"]⟩,
   ⟨0x1E95E, ["aADLAM INITIAL EXCLAMATION MARKoQUESTION MARK"]⟩,
   ⟨0x1EC71, ["aINDIC SIYAQ NUMBER ONEtTWOuHREEtFOURuIVEtSIXuEVENtEIGHTtNINEtTENuWENTY",
     "uHIRTYtFORTYuIFTYtSIXTYuEVENTYtEIGHTYtNINETYtONE HUNDREDtTWO HUNDRED",
     "uHREE HUNDREDtFOUR HUNDREDuIVE HUNDREDtSIX HUNDREDuEVEN HUNDRED",
     "tEIGHT HUNDREDtNINE HUNDREDtONE THOUSANDtTWO THOUSANDuHREE THOUSAND",
     "tFOUR THOUSANDuIVE THOUSANDtSIX THOUSANDuEVEN THOUSANDtEIGHT THOUSAND",
     "tNINE THOUSANDtTEN THOUSANDuWENTY THOUSANDuHIRTY THOUSANDtFORTY THOUSAND",
     "uIFTY THOUSANDtSIXTY THOUSANDuEVENTY THOUSANDtEIGHTY THOUSAND",
     "tNINETY THOUSANDtLAKHxANmLAKH MARKmNUMBER KARORyANtPREFIXED ONEzED TWO",
     "zED THREEzED FOURzED FIVEzED SIXzED SEVENzED EIGHTzED NINEmPLACEHOLDER",
     "mFRACTION ONE QUARTERzHALFvTHREE QUARTERSmRUPEE MARKmNUMBER ALTERNATE ONE",
     "zATE TWOzATE TEN THOUSANDmALTERNATE LAKH MARK"]⟩,
   ⟨0x1ED01, ["aOTTOMAN SIYAQ NUMBER ONEvTWOwHREEvFOURwIVEvSIXwEVENvEIGHTvNINEvTENwWENTY",
     "wHIRTYvFORTYwIFTYvSIXTYwEVENTYvEIGHTYvNINETYvONE HUNDREDvTWO HUNDRED",
     "wHREE HUNDREDvFOUR HUNDREDwIVE HUNDREDvSIX HUNDREDwEVEN HUNDRED",
     "vEIGHT HUNDREDvNINE HUNDREDvONE THOUSANDvTWO THOUSANDwHREE THOUSAND",
     "vFOUR THOUSANDwIVE THOUSANDvSIX THOUSANDwEVEN THOUSANDvEIGHT THOUSAND",
     "vNINE THOUSANDvTEN THOUSANDwWENTY THOUSANDwHIRTY THOUSANDvFORTY THOUSAND",
     "wIFTY THOUSANDvSIXTY THOUSANDwEVENTY THOUSANDvEIGHTY THOUSAND",
     "vNINETY THOUSANDoMARRATANoALTERNATE NUMBER TWOzUMBER THREEzUMBER FOUR",
     "zUMBER FIVEzUMBER SIXzUMBER SEVENzUMBER EIGHTzUMBER NINEzUMBER TEN",
     "zUMBER FOUR HUNDREDzUMBER SIX HUNDREDzUMBER TWO THOUSANDzUMBER TEN THOUSAND",
     "oFRACTION ONE HALFzE SIXTH"]⟩,
   ⟨0x1EE00, ["aARABIC MATHEMATICAL ALEFuBEHuJEEMuDAL"]⟩,
   ⟨0x1EE05, ["aARABIC MATHEMATICAL WAWuZAINuHAHuTAHuYEHuKAFuLAMuMEEMuNOONuSEENuAINuFEHuSAD",
     "uQAFuREHuSHEENuTEHvHEHuKHAHuTHALuDADuZAHuGHAINuDOTLESS BEHzSS NOONzSS FEH",
     "zSS QAF"]⟩,
   ⟨0x1EE21, ["aARABIC MATHEMATICAL INITIAL BEHzAL JEEM"]⟩,
   ⟨0x1EE24, ["aARABIC MATHEMATICAL INITIAL HEH"]⟩,
   ⟨0x1EE27, ["aARABIC MATHEMATICAL INITIAL HAH"]⟩,
   ⟨0x1EE29, ["aARABIC MATHEMATICAL INITIAL YEHzAL KAFzAL LAMzAL MEEMzAL NOONzAL SEEN",
     "zAL AINzAL FEHzAL SADzAL QAF"]⟩,
   ⟨0x1EE34, ["aARABIC MATHEMATICAL INITIAL SHEENzAL TEHzAL THEHzAL KHAH"]⟩,
   ⟨0x1EE39, ["aARABIC MATHEMATICAL INITIAL DAD"]⟩,
   ⟨0x1EE3B, ["aARABIC MATHEMATICAL INITIAL GHAIN"]⟩,
   ⟨0x1EE42, ["aARABIC MATHEMATICAL TAILED JEEM"]⟩,
   ⟨0x1EE47, ["aARABIC MATHEMATICAL TAILED HAH"]⟩,
   ⟨0x1EE49, ["aARABIC MATHEMATICAL TAILED YEH"]⟩,
   ⟨0x1EE4B, ["aARABIC MATHEMATICAL TAILED LAM"]⟩,
   ⟨0x1EE4D, ["aARABIC MATHEMATICAL TAILED NOONzD SEENzD AIN"]⟩,
   ⟨0x1EE51, ["aARABIC MATHEMATICAL TAILED SADzD QAF"]⟩,
   ⟨0x1EE54, ["aARABIC MATHEMATICAL TAILED SHEEN"]⟩,
   ⟨0x1EE57, ["aARABIC MATHEMATICAL TAILED KHAH"]⟩,
   ⟨0x1EE59, ["aARABIC MATHEMATICAL TAILED DAD"]⟩,
   ⟨0x1EE5B, ["aARABIC MATHEMATICAL TAILED GHAIN"]⟩,
   ⟨0x1EE5D, ["aARABIC MATHEMATICAL TAILED DOTLESS NOON"]⟩,
   ⟨0x1EE5F, ["aARABIC MATHEMATICAL TAILED DOTLESS QAF"]⟩,
   ⟨0x1EE61, ["aARABIC MATHEMATICAL STRETCHED BEHzCHED JEEM"]⟩,
   ⟨0x1EE64, ["aARABIC MATHEMATICAL STRETCHED HEH"]⟩,
   ⟨0x1EE67, ["aARABIC MATHEMATICAL STRETCHED HAHzCHED TAHzCHED YEHzCHED KAF"]⟩,
   ⟨0x1EE6C, ["aARABIC MATHEMATICAL STRETCHED MEEMzCHED NOONzCHED SEENzCHED AINzCHED FEH",
     "zCHED SADzCHED QAF"]⟩,
   ⟨0x1EE74, ["aARABIC MATHEMATICAL STRETCHED SHEENzCHED TEHzCHED THEHzCHED KHAH"]⟩,
   ⟨0x1EE79, ["aARABIC MATHEMATICAL STRETCHED DADzCHED ZAHzCHED GHAINzCHED DOTLESS BEH"]⟩,
   ⟨0x1EE7E, ["aARABIC MATHEMATICAL STRETCHED DOTLESS FEH"]⟩,
   ⟨0x1EE80, ["aARABIC MATHEMATICAL LOOPED ALEFzD BEHzD JEEMzD DALzD HEHzD WAWzD ZAINzD HAH",
     "zD TAHzD YEH"]⟩,
   ⟨0x1EE8B, ["aARABIC MATHEMATICAL LOOPED LAMzD MEEMzD NOONzD SEENzD AINzD FEHzD SADzD QAF",
     "zD REHzD SHEENzD TEHzD THEHzD KHAHzD THALzD DADzD ZAHzD GHAIN"]⟩,
   ⟨0x1EEA1, ["aARABIC MATHEMATICAL DOUBLE-STRUCK BEHzE-STRUCK JEEMzE-STRUCK DAL"]⟩,
   ⟨0x1EEA5, ["aARABIC MATHEMATICAL DOUBLE-STRUCK WAWzE-STRUCK ZAINzE-STRUCK HAH",
     "zE-STRUCK TAHzE-STRUCK YEH"]⟩,
   ⟨0x1EEAB, ["aARABIC MATHEMATICAL DOUBLE-STRUCK LAMzE-STRUCK MEEMzE-STRUCK NOON",
     "zE-STRUCK SEENzE-STRUCK AINzE-STRUCK FEHzE-STRUCK SADzE-STRUCK QAF",
     "zE-STRUCK REHzE-STRUCK SHEENzE-STRUCK TEHzE-STRUCK THEHzE-STRUCK KHAH",
     "zE-STRUCK THALzE-STRUCK DADzE-STRUCK ZAHzE-STRUCK GHAIN"]⟩,
   ⟨0x1EEF0, ["aARABIC MATHEMATICAL OPERATOR MEEM WITH HAH WITH TATWEELzTOR HAH WITH DAL"]⟩,
   ⟨0x1F000, ["aMAHJONG TILE EAST WINDnSOUTH WINDnWEST WINDnNORTH WINDnRED DRAGON",
     "nGREEN DRAGONnWHITE DRAGONnONE OF CHARACTERSnTWO OF CHARACTERS",
     "oHREE OF CHARACTERSnFOUR OF CHARACTERSoIVE OF CHARACTERSnSIX OF CHARACTERS",
     "oEVEN OF CHARACTERSnEIGHT OF CHARACTERSnNINE OF CHARACTERSnONE OF BAMBOOS",
     "nTWO OF BAMBOOSoHREE OF BAMBOOSnFOUR OF BAMBOOSoIVE OF BAMBOOS",
     "nSIX OF BAMBOOSoEVEN OF BAMBOOSnEIGHT OF BAMBOOSnNINE OF BAMBOOS",
     "nONE OF CIRCLESnTWO OF CIRCLESoHREE OF CIRCLESnFOUR OF CIRCLES",
     "oIVE OF CIRCLESnSIX OF CIRCLESoEVEN OF CIRCLESnEIGHT OF CIRCLES",
     "nNINE OF CIRCLESnPLUMnORCHIDnBAMBOOnCHRYSANTHEMUMnSPRINGoUMMERnAUTUMNnWINTER",
     "nJOKERnBACK"]⟩,
   ⟨0x1F030, ["aDOMINO TILE HORIZONTAL BACKw-00-00z-01z-02z-03z-04z-05z-06y1-00z-01z-02z-03",
     "z-04z-05z-06y2-00z-01z-02z-03z-04z-05z-06y3-00z-01z-02z-03z-04z-05z-06y4-00",
     "z-01z-02z-03z-04z-05z-06y5-00z-01z-02z-03z-04z-05z-06y6-00z-01z-02z-03z-04",
     "z-05z-06mVERTICAL BACKu-00-00z1z2z3z4z5z6w1-00z1z2z3z4z5z6w2-00z1z2z3z4z5z6",
     "w3-00z1z2z3z4z5z6w4-00z1z2z3z4z5z6w5-00z1z2z3z4z5z6w6-00z1z2z3z4z5z6"]⟩,
   ⟨0x1F0A0, ["aPLAYING CARD BACKnACE OF SPADESnTWO OF SPADESoHREE OF SPADESnFOUR OF SPADES",
     "oIVE OF SPADESnSIX OF SPADESoEVEN OF SPADESnEIGHT OF SPADESnNINE OF SPADES",
     "nTEN OF SPADESnJACK OF SPADESnKNIGHT OF SPADESnQUEEN OF SPADES",
     "nKING OF SPADES"]⟩,
   ⟨0x1F0B1, ["aPLAYING CARD ACE OF HEARTSnTWO OF HEARTSoHREE OF HEARTSnFOUR OF HEARTS",
     "oIVE OF HEARTSnSIX OF HEARTSoEVEN OF HEARTSnEIGHT OF HEARTSnNINE OF HEARTS",
     "nTEN OF HEARTSnJACK OF HEARTSnKNIGHT OF HEARTSnQUEEN OF HEARTS",
     "nKING OF HEARTSnRED JOKER"]⟩,
   ⟨0x1F0C1, ["aPLAYING CARD ACE OF DIAMONDSnTWO OF DIAMONDSoHREE OF DIAMONDS",
     "nFOUR OF DIAMONDSoIVE OF DIAMONDSnSIX OF DIAMONDSoEVEN OF DIAMONDS",
     "nEIGHT OF DIAMONDSnNINE OF DIAMONDSnTEN OF DIAMONDSnJACK OF DIAMONDS",
     "nKNIGHT OF DIAMONDSnQUEEN OF DIAMONDSnKING OF DIAMONDSnBLACK JOKER"]⟩,
   ⟨0x1F0D1, ["aPLAYING CARD ACE OF CLUBSnTWO OF CLUBSoHREE OF CLUBSnFOUR OF CLUBS",
     "oIVE OF CLUBSnSIX OF CLUBSoEVEN OF CLUBSnEIGHT OF CLUBSnNINE OF CLUBS",
     "nTEN OF CLUBSnJACK OF CLUBSnKNIGHT OF CLUBSnQUEEN OF CLUBSnKING OF CLUBS",
     "nWHITE JOKERnFOOLnTRUMP-1t2t3t4t5t6t7t8t9t10u1u2u3u4u5u6u7u8u9t20u1"]⟩,
   ⟨0x1F100, ["aDIGIT ZERO FULL STOPlCOMMAgONE COMMAgTWO COMMAhHREE COMMAgFOUR COMMA",
     "hIVE COMMAgSIX COMMAhEVEN COMMAgEIGHT COMMAgNINE COMMA",
     "cNGBAT CIRCLED SANS-SERIF DIGIT ZEROiNEGATIVE CIRCLED SANS-SERIF DIGIT ZERO",
     "aCIRCLED ZERO WITH SLASHiANTICLOCKWISE ARROW",
     "iDOLLAR SIGN WITH OVERLAID BACKSLASHaPARENTHESIZED LATIN CAPITAL LETTER A",
     "zAL LETTER BzAL LETTER CzAL LETTER DzAL LETTER EzAL LETTER FzAL LETTER G",
     "zAL LETTER HzAL LETTER IzAL LETTER JzAL LETTER KzAL LETTER LzAL LETTER M",
     "zAL LETTER NzAL LETTER OzAL LETTER PzAL LETTER QzAL LETTER RzAL LETTER S",
     "zAL LETTER TzAL LETTER UzAL LETTER VzAL LETTER WzAL LETTER XzAL LETTER Y",
     "zAL LETTER ZaTORTOISE SHELL BRACKETED LATIN CAPITAL LETTER S",
     "aCIRCLED ITALIC LATIN CAPITAL LETTER CzTAL LETTER RiCDiWZbOPYLEFT SYMBOL",
     "aSQUARED LATIN CAPITAL LETTER AzTER BzTER CzTER DzTER EzTER FzTER GzTER H",
     "zTER IzTER JzTER KzTER LzTER MzTER NzTER OzTER PzTER QzTER RzTER SzTER T",
     "zTER UzTER VzTER WzTER XzTER YzTER ZiHViMViSDjSiPPViWC",
     "aNEGATIVE CIRCLED LATIN CAPITAL LETTER AzPITAL LETTER BzPITAL LETTER C",
     "zPITAL LETTER DzPITAL LETTER EzPITAL LETTER FzPITAL LETTER GzPITAL LETTER H",
     "zPITAL LETTER IzPITAL LETTER JzPITAL LETTER KzPITAL LETTER LzPITAL LETTER M",
     "zPITAL LETTER NzPITAL LETTER OzPITAL LETTER PzPITAL LETTER QzPITAL LETTER R",
     "zPITAL LETTER SzPITAL LETTER TzPITAL LETTER UzPITAL LETTER VzPITAL LETTER W",
     "zPITAL LETTER XzPITAL LETTER YzPITAL LETTER ZaRAISED MC SIGNiD SIGNiR SIGN",
     "aCIRCLED CCj WITH OVERLAID BACKSLASHiHUMAN FIGURE",
     "aNEGATIVE SQUARED LATIN CAPITAL LETTER AzPITAL LETTER BzPITAL LETTER C",
     "zPITAL LETTER DzPITAL LETTER EzPITAL LETTER FzPITAL LETTER GzPITAL LETTER H",
     "zPITAL LETTER IzPITAL LETTER JzPITAL LETTER KzPITAL LETTER LzPITAL LETTER M",
     "zPITAL LETTER NzPITAL LETTER OzPITAL LETTER PzPITAL LETTER QzPITAL LETTER R",
     "zPITAL LETTER SzPITAL LETTER TzPITAL LETTER UzPITAL LETTER VzPITAL LETTER W",
     "zPITAL LETTER XzPITAL LETTER YzPITAL LETTER Z",
     "aCROSSED NEGATIVE SQUARED LATIN CAPITAL LETTER PaNEGATIVE SQUARED ICrPArSA",
     "rABrWCaSQUARE DJgD CLjOOLiFREEiIDiNEWjGiOKiSOSiUP WITH EXCLAMATION MARKiVS",
     "iTHREE DiSECOND SCREENiTWO KiFOUR KiEIGHT KiFIVE POINT ONEiSEVEN POINT ONE",
     "iTWENTY-TWO POINT TWOiSIXTY PiONE HUNDRED TWENTY PiLATIN SMALL LETTER DiHC",
     "jDRjI-RESiLOSSLESSiSHViUHDiVODaMASK WORK SYMBOL"]⟩,
   ⟨0x1F1E6, ["aREGIONAL INDICATOR SYMBOL LETTER Az LETTER Bz LETTER Cz LETTER Dz LETTER E",
     "z LETTER Fz LETTER Gz LETTER Hz LETTER Iz LETTER Jz LETTER Kz LETTER L",
     "z LETTER Mz LETTER Nz LETTER Oz LETTER Pz LETTER Qz LETTER Rz LETTER S",
     "z LETTER Tz LETTER Uz LETTER Vz LETTER Wz LETTER Xz LETTER Yz LETTER Z",
     "aSQUARE HIRAGANA HOKAgD KATAKANA KOKOrSA"]⟩,
   ⟨0x1F210, ["aSQUARED CJK UNIFIED IDEOGRAPH-624BzRAPH-5B57zRAPH-53CCiKATAKANA DE",
     "iCJK UNIFIED IDEOGRAPH-4E8CzRAPH-591AzRAPH-89E3zRAPH-5929zRAPH-4EA4",
     "zRAPH-6620zRAPH-7121zRAPH-6599zRAPH-524DzRAPH-5F8CzRAPH-518DzRAPH-65B0",
     "zRAPH-521DzRAPH-7D42zRAPH-751FzRAPH-8CA9zRAPH-58F0zRAPH-5439zRAPH-6F14",
     "zRAPH-6295zRAPH-6355zRAPH-4E00zRAPH-4E09zRAPH-904AzRAPH-5DE6zRAPH-4E2D",
     "zRAPH-53F3zRAPH-6307zRAPH-8D70zRAPH-6253zRAPH-7981zRAPH-7A7AzRAPH-5408",
     "zRAPH-6E80zRAPH-6709zRAPH-6708zRAPH-7533zRAPH-5272zRAPH-55B6zRAPH-914D"]⟩,
   ⟨0x1F240, ["aTORTOISE SHELL BRACKETED CJK UNIFIED IDEOGRAPH-672C",
     "zCJK UNIFIED IDEOGRAPH-4E09zCJK UNIFIED IDEOGRAPH-4E8C",
     "zCJK UNIFIED IDEOGRAPH-5B89zCJK UNIFIED IDEOGRAPH-70B9",
     "zCJK UNIFIED IDEOGRAPH-6253zCJK UNIFIED IDEOGRAPH-76D7",
     "zCJK UNIFIED IDEOGRAPH-52DDzCJK UNIFIED IDEOGRAPH-6557"]⟩,
   ⟨0x1F250, ["aCIRCLED IDEOGRAPH ADVANTAGEtCCEPT"]⟩,
   ⟨0x1F260, ["aROUNDED SYMBOL FOR FUtLUtSHOUtXItSHUANGXItCAI"]⟩]

/-- Names of characters from U+1F300 to U+E01EF. -/
def namesFrom1F300 : List NameRun :=
  [⟨0x1F300, ["aCYCLONEaFOGGYaCLOSED UMBRELLAaNIGHT WITH STARSaSUNRISE OVER MOUNTAINSh",
     "aCITYSCAPE AT DUSKaSUNSET OVER BUILDINGSaRAINBOWaBRIDGE AT NIGHTaWATER WAVE",
     "aVOLCANOaMILKY WAYaEARTH GLOBE EUROPE-AFRICAmAMERICASnSIA-AUSTRALIA",
     "aGLOBE WITH MERIDIANSaNEW MOON SYMBOLaWAXING CRESCENT MOON SYMBOL",
     "aFIRST QUARTER MOON SYMBOLaWAXING GIBBOUS MOON SYMBOLaFULL MOON SYMBOL",
     "aWANING GIBBOUS MOON SYMBOLaLAST QUARTER MOON SYMBOL",
     "aWANING CRESCENT MOON SYMBOLaCRESCENT MOONaNEW MOON WITH FACE",
     "aFIRST QUARTER MOON WITH FACEaLAST QUARTER MOON WITH FACE",
     "aFULL MOON WITH FACEaSUN WITH FACEaGLOWING STARaSHOOTING STARaTHERMOMETER",
     "aBLACK DROPLETaWHITE SUNj WITH SMALL CLOUDkBEHIND CLOUDw WITH RAIN",
     "aCLOUD WITH RAINlSNOWlLIGHTNINGlTORNADOaFOGaWIND BLOWING FACEaHOT DOGaTACO",
     "aBURRITOaCHESTNUTaSEEDLINGaEVERGREEN TREEaDECIDUOUS TREEaPALM TREEaCACTUS",
     "aHOT PEPPERaTULIPaCHERRY BLOSSOMaROSEaHIBISCUSaSUNFLOWERaBLOSSOM",
     "aEAR OF MAIZEhRICEaHERBaFOUR LEAF CLOVERaMAPLE LEAFaFALLEN LEAF",
     "aLEAF FLUTTERING IN WINDaMUSHROOMaTOMATOaAUBERGINEaGRAPESaMELONaWATERMELON",
     "aTANGERINEaLEMONaBANANAaPINEAPPLEaRED APPLEaGREEN APPLEaPEARdCHaCHERRIES",
     "aSTRAWBERRYaHAMBURGERaSLICE OF PIZZAaMEAT ON BONEaPOULTRY LEGaRICE CRACKER",
     "fBALLaCOOKED RICEbURRY AND RICEaSTEAMING BOWLbPAGHETTIaBREADaFRENCH FRIES",
     "aROASTED SWEET POTATOaDANGOaODENaSUSHIaFRIED SHRIMP",
     "bISH CAKE WITH SWIRL DESIGNaSOFT ICE CREAMbHAVED ICEaICE CREAMaDOUGHNUT",
     "aCOOKIEbHOCOLATE BARbANDYaLOLLIPOPaCUSTARDaHONEY POTaSHORTCAKEaBENTO BOX",
     "aPOT OF FOODaCOOKINGaFORK AND KNIFEaTEACUP WITHOUT HANDLE",
     "aSAKE BOTTLE AND CUPaWINE GLASSaCOCKTAIL GLASSaTROPICAL DRINKaBEER MUG",
     "aCLINKING BEER MUGSaBABY BOTTLEaFORK AND KNIFE WITH PLATE",
     "aBOTTLE WITH POPPING CORKaPOPCORNaRIBBONaWRAPPED PRESENTaBIRTHDAY CAKE",
     "aJACK-O-LANTERNaCHRISTMAS TREEaFATHER CHRISTMASbIREWORKSi SPARKLERaBALLOON",
     "aPARTY POPPERaCONFETTI BALLaTANABATA TREEaCROSSED FLAGSaPINE DECORATION",
     "aJAPANESE DOLLSaCARP STREAMERaWIND CHIMEaMOON VIEWING CEREMONY",
     "aSCHOOL SATCHELaGRADUATION CAPaHEART WITH TIP ON THE LEFTaBOUQUET OF FLOWERS",
     "aMILITARY MEDALaREMINDER RIBBONaMUSICAL KEYBOARD WITH JACKS",
     "aSTUDIO MICROPHONEaLEVEL SLIDERaCONTROL KNOBSaBEAMED ASCENDING MUSICAL NOTES",
     "hDESCENDING MUSICAL NOTESaFILM FRAMESaADMISSION TICKETSaCAROUSEL HORSE",
     "aFERRIS WHEELaROLLER COASTERaFISHING POLE AND FISHaMICROPHONEbOVIE CAMERA",
     "aCINEMAaHEADPHONEaARTIST PALETTEaTOP HATaCIRCUS TENTaTICKETaCLAPPER BOARD",
     "aPERFORMING ARTSaVIDEO GAMEaDIRECT HITaSLOT MACHINEaBILLIARDSaGAME DIE",
     "aBOWLINGaFLOWER PLAYING CARDSaMUSICAL NOTEcLTIPLE MUSICAL NOTESaSAXOPHONE",
     "aGUITARaMUSICAL KEYBOARDaTRUMPETaVIOLINaMUSICAL SCORE",
     "aRUNNING SHIRT WITH SASHaTENNIS RACQUET AND BALLaSKI AND SKI BOOT",
     "aBASKETBALL AND HOOPaCHEQUERED FLAGaSNOWBOARDERaRUNNERaSURFERbPORTS MEDAL",
     "aTROPHYaHORSE RACINGaAMERICAN FOOTBALLaRUGBY FOOTBALLaSWIMMERaWEIGHT LIFTER",
     "aGOLFERaRACING MOTORCYCLEhCARaCRICKET BAT AND BALLaVOLLEYBALL",
     "aFIELD HOCKEY STICK AND BALLaICE HOCKEY STICK AND PUCK",
     "aTABLE TENNIS PADDLE AND BALLaSNOW CAPPED MOUNTAINaCAMPING",
     "aBEACH WITH UMBRELLAbUILDING CONSTRUCTIONaHOUSE BUILDINGSaCITYSCAPE",
     "aDERELICT HOUSE BUILDINGaCLASSICAL BUILDINGaDESERTg ISLANDaNATIONAL PARK",
     "aSTADIUMaHOUSE BUILDINGgWITH GARDENaOFFICE BUILDINGaJAPANESE POST OFFICE",
     "aEUROPEAN POST OFFICEaHOSPITALaBANKaAUTOMATED TELLER MACHINEaHOTEL",
     "aLOVE HOTELaCONVENIENCE STOREaSCHOOLaDEPARTMENT STOREaFACTORY",
     "aIZAKAYA LANTERNaJAPANESE CASTLEaEUROPEAN CASTLEaWHITE PENNANTaBLACK PENNANT",
     "aWAVING WHITE FLAGhBLACK FLAGaROSETTEaBLACK ROSETTEaLABEL",
     "aBADMINTON RACQUET AND SHUTTLECOCKbOW AND ARROWaAMPHORA",
     "aEMOJI MODIFIER FITZPATRICK TYPE-1-2zK TYPE-3zK TYPE-4zK TYPE-5zK TYPE-6aRAT",
     "aMOUSEaOXaWATER BUFFALOaCOWaTIGERaLEOPARDaRABBITaCATaDRAGONaCROCODILEaWHALE",
     "aSNAILdKEaHORSEaRAMaGOATaSHEEPaMONKEYaROOSTERaCHICKENaDOGaPIGaBOARaELEPHANT",
     "aOCTOPUSaSPIRAL SHELLaBUGaANTaHONEYBEEaLADY BEETLEaFISHaTROPICAL FISH",
     "aBLOWFISHaTURTLEaHATCHING CHICKaBABY CHICKaFRONT-FACING BABY CHICKaBIRD",
     "aPENGUINaKOALAaPOODLEaDROMEDARY CAMELaBACTRIAN CAMELaDOLPHINaMOUSE FACE",
     "aCOW FACEaTIGER FACEaRABBIT FACEaCAT FACEaDRAGON FACEaSPOUTING WHALE",
     "aHORSE FACEaMONKEY FACEaDOG FACEaPIG FACEaFROG FACEaHAMSTER FACEaWOLF FACE",
     "aBEAR FACEaPANDA FACEbIG NOSEbAW PRINTSaCHIPMUNKaEYESdbARaNOSEaMOUTHaTONGUE",
     "aWHITE UP POINTING BACKHAND INDEXgDOWN POINTING BACKHAND INDEX",
     "gLEFT POINTING BACKHAND INDEXgRIGHT POINTING BACKHAND INDEXaFISTED HAND SIGN",
     "aWAVING HAND SIGNaOK HAND SIGNaTHUMBS UP SIGNhDOWN SIGNaCLAPPING HANDS SIGN",
     "aOPEN HANDS SIGNaCROWNaWOMANS HATaEYEGLASSESaNECKTIEaT-SHIRTaJEANSaDRESS",
     "aKIMONOaBIKINIaWOMANS CLOTHESaPURSEaHANDBAGaPOUCHaMANS SHOEaATHLETIC SHOE",
     "aHIGH-HEELED SHOEaWOMANS SANDALhBOOTSaFOOTPRINTSaBUST IN SILHOUETTE",
     "eS IN SILHOUETTEbOYaGIRLaMANaWOMANaFAMILYaMAN AND WOMAN HOLDING HANDS",
     "aTWO MEN HOLDING HANDSeWOMEN HOLDING HANDSaPOLICE OFFICER",
     "aWOMAN WITH BUNNY EARSaBRIDE WITH VEILaPERSON WITH BLOND HAIR",
     "aMAN WITH GUA PI MAOjTURBANaOLDER MANgWOMANaBABYaCONSTRUCTION WORKER",
     "aPRINCESSaJAPANESE OGREjGOBLINaGHOSTaBABY ANGELaEXTRATERRESTRIAL ALIEN",
     "aALIEN MONSTERaIMPaSKULLaINFORMATION DESK PERSONaGUARDSMANaDANCERaLIPSTICK",
     "aNAIL POLISHaFACE MASSAGEaHAIRCUTaBARBER POLEaSYRINGEaPILLaKISS MARK",
     "aLOVE LETTERaRINGaGEM STONEaKISSaBOUQUETaCOUPLE WITH HEARTaWEDDING",
     "aBEATING HEARTbROKEN HEARTaTWO HEARTSaSPARKLING HEARTaGROWING HEART",
     "aHEART WITH ARROWaBLUE HEARTaGREEN HEARTaYELLOW HEARTaPURPLE HEART",
     "aHEART WITH RIBBONaREVOLVING HEARTSaHEART DECORATION",
     "aDIAMOND SHAPE WITH A DOT INSIDEaELECTRIC LIGHT BULBaANGER SYMBOLaBOMB",
     "aSLEEPING SYMBOLaCOLLISION SYMBOLaSPLASHING SWEAT SYMBOLaDROPLETbASH SYMBOL",
     "aPILE OF POOaFLEXED BICEPSaDIZZY SYMBOLaSPEECH BALLOONaTHOUGHT BALLOON",
     "aWHITE FLOWERaHUNDRED POINTS SYMBOLaMONEY BAGaCURRENCY EXCHANGE",
     "aHEAVY DOLLAR SIGNaCREDIT CARDaBANKNOTE WITH YEN SIGNoDOLLAR SIGNoEURO SIGN",
     "oPOUND SIGNaMONEY WITH WINGSaCHART WITH UPWARDS TREND AND YEN SIGNaSEAT",
     "aPERSONAL COMPUTERaBRIEFCASEaMINIDISCaFLOPPY DISKaOPTICAL DISCaDVD",
     "aFILE FOLDERaOPEN FILE FOLDERaPAGE WITH CURLfFACING UPaCALENDAR",
     "aTEAR-OFF CALENDARaCARD INDEXbHART WITH UPWARDS TRENDlDOWNWARDS TREND",
     "aBAR CHARTaCLIPBOARDaPUSHPINaROUND PUSHPINaPAPERCLIPaSTRAIGHT RULER",
     "aTRIANGULAR RULERaBOOKMARK TABSaLEDGERaNOTEBOOKi WITH DECORATIVE COVER",
     "aCLOSED BOOKaOPEN BOOKaGREEN BOOKaBLUE BOOKaORANGE BOOKaBOOKSaNAME BADGE",
     "aSCROLLaMEMOaTELEPHONE RECEIVERaPAGERaFAX MACHINEaSATELLITE ANTENNA",
     "aPUBLIC ADDRESS LOUDSPEAKERaCHEERING MEGAPHONEaOUTBOX TRAYaINBOX TRAY",
     "aPACKAGEaE-MAIL SYMBOLaINCOMING ENVELOPEaENVELOPE WITH DOWNWARDS ARROW ABOVE",
     "aCLOSED MAILBOX WITH LOWERED FLAGuRAISED FLAGaOPEN MAILBOX WITH RAISED FLAG",
     "sLOWERED FLAGaPOSTBOXeAL HORNaNEWSPAPERaMOBILE PHONE",
     "m WITH RIGHTWARDS ARROW AT LEFTaVIBRATION MODEaMOBILE PHONE OFF",
     "aNO MOBILE PHONESaANTENNA WITH BARSaCAMERAg WITH FLASHaVIDEO CAMERA",
     "aTELEVISIONaRADIOaVIDEOCASSETTEaFILM PROJECTORaPORTABLE STEREObRAYER BEADS",
     "aTWISTED RIGHTWARDS ARROWS",
     "aCLOCKWISE RIGHTWARDS AND LEFTWARDS OPEN CIRCLE ARROWS",
     "zLEFTWARDS OPEN CIRCLE ARROWS WITH CIRCLED ONE OVERLAY",
     "kDOWNWARDS AND UPWARDS OPEN CIRCLE ARROWS",
     "aANTICLOCKWISE DOWNWARDS AND UPWARDS OPEN CIRCLE ARROWS",
     "aLOW BRIGHTNESS SYMBOLaHIGH BRIGHTNESS SYMBOL",
     "aSPEAKER WITH CANCELLATION STROKEhh WITH ONE SOUND WAVEnTHREE SOUND WAVES",
     "aBATTERYaELECTRIC PLUGaLEFT-POINTING MAGNIFYING GLASS",
     "aRIGHT-POINTING MAGNIFYING GLASSaLOCK WITH INK PENaCLOSED LOCK WITH KEYaKEY",
     "aLOCKaOPEN LOCKaBELLe WITH CANCELLATION STROKEbOOKMARKaLINK SYMBOL",
     "aRADIO BUTTONaBACK WITH LEFTWARDS ARROW ABOVEaEND WITH LEFTWARDS ARROW ABOVE",
     "aON WITH EXCLAMATION MARK WITH LEFT RIGHT ARROW ABOVE",
     "aSOON WITH RIGHTWARDS ARROW ABOVEaTOP WITH UPWARDS ARROW ABOVE",
     "aNO ONE UNDER EIGHTEEN SYMBOLaKEYCAP TEN",
     "aINPUT SYMBOL FOR LATIN CAPITAL LETTERSxSMALL LETTERSrNUMBERSrSYMBOLS",
     "rLATIN LETTERSaFIREaELECTRIC TORCHaWRENCHaHAMMERaNUT AND BOLTaHOCHOaPISTOL",
     "aMICROSCOPEaTELESCOPEaCRYSTAL BALLaSIX POINTED STAR WITH MIDDLE DOT",
     "aJAPANESE SYMBOL FOR BEGINNERaTRIDENT EMBLEMaBLACK SQUARE BUTTON",
     "aWHITE SQUARE BUTTONaLARGE RED CIRCLEgBLUE CIRCLEgORANGE DIAMOND",
     "gBLUE DIAMONDaSMALL ORANGE DIAMONDgBLUE DIAMONDaUP-POINTING RED TRIANGLE",
     "aDOWN-POINTING RED TRIANGLEaUP-POINTING SMALL RED TRIANGLE",
     "aDOWN-POINTING SMALL RED TRIANGLEaLOWER RIGHT SHADOWED WHITE CIRCLE",
     "aUPPER RIGHT SHADOWED WHITE CIRCLEaCIRCLED CROSS POMMEE",
     "bROSS POMMEE WITH HALF-CIRCLE BELOWmaNOTCHED LEFT SEMICIRCLE WITH THREE DOTS",
     "iRIGHT SEMICIRCLE WITH THREE DOTSaSYMBOL FOR MARKS CHAPTERaWHITE LATIN CROSS",
     "aHEAVY LATIN CROSSaCELTIC CROSSaOM SYMBOLaDOVE OF PEACEaKAABAaMOSQUE",
     "aSYNAGOGUEaMENORAH WITH NINE BRANCHESaBOWL OF HYGIEIAaCLOCK FACE ONE OCLOCK",
     "lTWO OCLOCKmHREE OCLOCKlFOUR OCLOCKmIVE OCLOCKlSIX OCLOCKmEVEN OCLOCK",
     "lEIGHT OCLOCKlNINE OCLOCKlTEN OCLOCKlELEVEN OCLOCKlTWELVE OCLOCKlONE-THIRTY",
     "lTWO-THIRTYmHREE-THIRTYlFOUR-THIRTYmIVE-THIRTYlSIX-THIRTYmEVEN-THIRTY",
     "lEIGHT-THIRTYlNINE-THIRTYlTEN-THIRTYlELEVEN-THIRTYlTWELVE-THIRTY",
     "aRIGHT SPEAKERn WITH ONE SOUND WAVEtTHREE SOUND WAVESaBULLHORN",
     "i WITH SOUND WAVESaRINGING BELLaBOOKaCANDLEaMANTELPIECE CLOCK",
     "aBLACK SKULL AND CROSSBONESaNO PIRACYaHOLEaMAN IN BUSINESS SUIT LEVITATING",
     "aSLEUTH OR SPYaDARK SUNGLASSESaSPIDERg WEBaJOYSTICKaMAN DANCING",
     "aLEFT HAND TELEPHONE RECEIVERaTELEPHONE RECEIVER WITH PAGE",
     "aRIGHT HAND TELEPHONE RECEIVERaWHITE TOUCHTONE TELEPHONE",
     "aBLACK TOUCHTONE TELEPHONEaTELEPHONE ON TOP OF MODEMaCLAMSHELL MOBILE PHONE",
     "aBACK OF ENVELOPEaSTAMPED ENVELOPEaENVELOPE WITH LIGHTNINGaFLYING ENVELOPE",
     "aPEN OVER STAMPED ENVELOPEaLINKED PAPERCLIPSaBLACK PUSHPINaLOWER LEFT PENCIL",
     "lBALLPOINT PENlFOUNTAIN PENlPAINTBRUSHlCRAYONbEFT WRITING HAND",
     "aTURNED OK HAND SIGNaRAISED HAND WITH FINGERS SPLAYED",
     "bEVERSED RAISED HAND WITH FINGERS SPLAYEDjTHUMBS UP SIGNqDOWN SIGN",
     "jVICTORY HANDjHAND WITH MIDDLE FINGER EXTENDED",
     "bAISED HAND WITH PART BETWEEN MIDDLE AND RING FINGERS",
     "aWHITE DOWN POINTING LEFT HAND INDEXaSIDEWAYS WHITE LEFT POINTING INDEX",
     "pRIGHT POINTING INDEXjBLACK LEFT POINTING INDEXpRIGHT POINTING INDEX",
     "aBLACK LEFT POINTING BACKHAND INDEXgRIGHT POINTING BACKHAND INDEX",
     "aSIDEWAYS WHITE UP POINTING INDEXpDOWN POINTING INDEX",
     "jBLACK UP POINTING INDEXpDOWN POINTING INDEX",
     "aBLACK UP POINTING BACKHAND INDEXgDOWN POINTING BACKHAND INDEXgHEART",
     "aDESKTOP COMPUTERaKEYBOARD AND MOUSEaTHREE NETWORKED COMPUTERSaPRINTER",
     "bOCKET CALCULATORaBLACK HARD SHELL FLOPPY DISKaWHITE HARD SHELL FLOPPY DISK",
     "aSOFT SHELL FLOPPY DISKaTAPE CARTRIDGEaWIRED KEYBOARDaONE BUTTON MOUSE",
     "aTWO BUTTON MOUSEbHREE BUTTON MOUSEbRACKBALLaOLD PERSONAL COMPUTERaHARD DISK",
     "aSCREENaPRINTER ICONaFAX ICONaOPTICAL DISC ICONaDOCUMENT WITH TEXT",
     "s AND PICTUREoPICTUREaFRAME WITH PICTURElTILESlAN XaBLACK FOLDERaFOLDER",
     "aOPEN FOLDERaCARD INDEX DIVIDERSfFILE BOXaFILE CABINETaEMPTY NOTEk PAGEnD",
     "aNOTEe PAGEhDaEMPTY DOCUMENTgPAGEkSaDOCUMENTaPAGEeSaWASTEBASKET",
     "aSPIRAL NOTE PADhCALENDAR PADaDESKTOP WINDOWaMINIMIZEbAXIMIZEaOVERLAP",
     "aCLOCKWISE RIGHT AND LEFT SEMICIRCLE ARROWSbANCELLATION X",
     "aINCREASE FONT SIZE SYMBOLaDECREASE FONT SIZE SYMBOLaCOMPRESSIONaOLD KEY",
     "aROLLED-UP NEWSPAPERaPAGE WITH CIRCLED TEXTaSTOCK CHARTaDAGGER KNIFEaLIPS",
     "aSPEAKING HEAD IN SILHOUETTEaTHREE RAYS ABOVElBELOWlLEFTlRIGHT",
     "aLEFT SPEECH BUBBLEaRIGHT SPEECH BUBBLEaTWO SPEECH BUBBLES",
     "bHREE SPEECH BUBBLESaLEFT THOUGHT BUBBLEaRIGHT THOUGHT BUBBLE",
     "aLEFT ANGER BUBBLEaRIGHT ANGER BUBBLEaMOOD BUBBLEaLIGHTNING MOOD BUBBLEo",
     "aBALLOT BOX WITH BALLOThSCRIPT XhBOX WITH SCRIPT XjLD SCRIPT X",
     "jX WITH BOLD SCRIPT XaLIGHT CHECK MARKaBALLOT BOX WITH BOLD CHECKaWORLD MAP",
     "aMOUNT FUJIaTOKYO TOWERaSTATUE OF LIBERTYbILHOUETTE OF JAPANaMOYAI",
     "aGRINNING FACEn WITH SMILING EYESaFACE WITH TEARS OF JOY",
     "aSMILING FACE WITH OPEN MOUTHzUTH AND SMILING EYESzUTH AND COLD SWEAT",
     "zUTH AND TIGHTLY-CLOSED EYESsHALOtORNSaWINKING FACE",
     "aSMILING FACE WITH SMILING EYESaFACE SAVOURING DELICIOUS FOODaRELIEVED FACE",
     "aSMILING FACE WITH HEART-SHAPED EYESsSUNGLASSESdRKING FACEaNEUTRAL FACE",
     "aEXPRESSIONLESS FACEaUNAMUSED FACEaFACE WITH COLD SWEATaPENSIVE FACE",
     "aCONFUSED FACEeOUNDED FACEaKISSING FACEaFACE THROWING A KISS",
     "aKISSING FACE WITH SMILING EYESsCLOSED EYESaFACE WITH STUCK-OUT TONGUE",
     "zE AND WINKING EYEzE AND TIGHTLY-CLOSED EYESaDISAPPOINTED FACEaWORRIED FACE",
     "aANGRY FACEaPOUTING FACEaCRYING FACEaPERSEVERING FACE",
     "aFACE WITH LOOK OF TRIUMPHaDISAPPOINTED BUT RELIEVED FACE",
     "aFROWNING FACE WITH OPEN MOUTHaANGUISHED FACEaFEARFUL FACEaWEARY FACE",
     "aSLEEPY FACEaTIRED FACEaGRIMACING FACEaLOUDLY CRYING FACE",
     "aFACE WITH OPEN MOUTHaHUSHED FACEaFACE WITH OPEN MOUTH AND COLD SWEAT",
     "fSCREAMING IN FEARaASTONISHED FACEaFLUSHED FACEaSLEEPING FACEaDIZZY FACE",
     "aFACE WITHOUT MOUTHj MEDICAL MASKaGRINNING CAT FACE WITH SMILING EYES",
     "aCAT FACE WITH TEARS OF JOYaSMILING CAT FACE WITH OPEN MOUTH",
     "wHEART-SHAPED EYESaCAT FACE WITH WRY SMILEaKISSING CAT FACE WITH CLOSED EYES",
     "aPOUTING CAT FACEaCRYING CAT FACEaWEARY CAT FACEaSLIGHTLY FROWNING FACE",
     "jSMILING FACEaUPSIDE-DOWN FACEaFACE WITH ROLLING EYESkNO GOOD GESTURE",
     "kOK GESTUREaPERSON BOWING DEEPLYaSEE-NO-EVIL MONKEYaHEAR-NO-EVIL MONKEY",
     "aSPEAK-NO-EVIL MONKEYaHAPPY PERSON RAISING ONE HAND",
     "aPERSON RAISING BOTH HANDS IN CELEBRATIONhFROWNINGhWITH POUTING FACE",
     "mFOLDED HANDSaNORTH WEST POINTING LEAFaSOUTH WEST POINTING LEAF",
     "aNORTH EAST POINTING LEAFaSOUTH EAST POINTING LEAF",
     "aTURNED NORTH WEST POINTING LEAFhSOUTH WEST POINTING LEAF",
     "hNORTH EAST POINTING LEAFhSOUTH EAST POINTING LEAF",
     "aNORTH WEST POINTING VINE LEAFaSOUTH WEST POINTING VINE LEAF",
     "aNORTH EAST POINTING VINE LEAFaSOUTH EAST POINTING VINE LEAF",
     "aHEAVY NORTH WEST POINTING VINE LEAFgSOUTH WEST POINTING VINE LEAF",
     "gNORTH EAST POINTING VINE LEAFgSOUTH EAST POINTING VINE LEAF",
     "aNORTH WEST POINTING BUDaSOUTH WEST POINTING BUDaNORTH EAST POINTING BUD",
     "aSOUTH EAST POINTING BUDaHEAVY NORTH WEST POINTING BUD",
     "gSOUTH WEST POINTING BUDgNORTH EAST POINTING BUDgSOUTH EAST POINTING BUD",
     "bOLLOW QUILT SQUARE ORNAMENTzENT IN BLACK SQUAREaSOLID QUILT SQUARE ORNAMENT",
     "zNT IN BLACK SQUAREaLEFTWARDS ROCKETaUPWARDS ROCKETaRIGHTWARDS ROCKET",
     "aDOWNWARDS ROCKETaSCRIPT LIGATURE ET ORNAMENT",
     "aHEAVY SCRIPT LIGATURE ET ORNAMENTaLIGATURE OPEN ET ORNAMENT",
     "aHEAVY LIGATURE OPEN ET ORNAMENTgAMPERSAND ORNAMENTaSWASH AMPERSAND ORNAMENT",
     "bANS-SERIF HEAVY DOUBLE TURNED COMMA QUOTATION MARK ORNAMENT",
     "yCOMMA QUOTATION MARK ORNAMENTrLOW DOUBLE COMMA QUOTATION MARK ORNAMENT",
     "aHEAVY INTERROBANG ORNAMENTaSANS-SERIF INTERROBANG ORNAMENT",
     "aHEAVY SANS-SERIF INTERROBANG ORNAMENTaVERY HEAVY SOLIDUSlREVERSE SOLIDUS",
     "aCHECKER BOARDaREVERSE CHECKER BOARDbOCKETaHELICOPTERaSTEAM LOCOMOTIVE",
     "aRAILWAY CARaHIGH-SPEED TRAINq WITH BULLET NOSEaTRAINaMETROaLIGHT RAIL",
     "aSTATIONaTRAMe CARaBUSaONCOMING BUSaTROLLEYBUSaBUS STOPaMINIBUSaAMBULANCE",
     "aFIRE ENGINEaPOLICE CARaONCOMING POLICE CARaTAXIaONCOMING TAXIaAUTOMOBILE",
     "aONCOMING AUTOMOBILEaRECREATIONAL VEHICLEaDELIVERY TRUCKaARTICULATED LORRY",
     "aTRACTORaMONORAILcUNTAIN RAILWAYaSUSPENSION RAILWAYaMOUNTAIN CABLEWAY",
     "aAERIAL TRAMWAYaSHIPaROWBOATaSPEEDBOATaHORIZONTAL TRAFFIC LIGHT",
     "aVERTICAL TRAFFIC LIGHTaCONSTRUCTION SIGNaPOLICE CARS REVOLVING LIGHT",
     "aTRIANGULAR FLAG ON POSTaDOORaNO ENTRY SIGNaSMOKING SYMBOLaNO SMOKING SYMBOL",
     "aPUT LITTER IN ITS PLACE SYMBOLaDO NOT LITTER SYMBOLaPOTABLE WATER SYMBOL",
     "aNON-POTABLE WATER SYMBOLaBICYCLEaNO BICYCLESaBICYCLISTaMOUNTAIN BICYCLIST",
     "aPEDESTRIANaNO PEDESTRIANSaCHILDREN CROSSINGaMENS SYMBOLaWOMENS SYMBOL",
     "aRESTROOMaBABY SYMBOLaTOILETaWATER CLOSETaSHOWERaBATHeTUBaPASSPORT CONTROL",
     "aCUSTOMSaBAGGAGE CLAIMaLEFT LUGGAGEaTRIANGLE WITH ROUNDED CORNERS",
     "aPROHIBITED SIGNaCIRCLED INFORMATION SOURCEaBOYS SYMBOLaGIRLS SYMBOL",
     "aCOUCH AND LAMPaSLEEPING ACCOMMODATIONbHOPPING BAGSaBELLHOP BELLcD",
     "aPLACE OF WORSHIPaOCTAGONAL SIGNaSHOPPING TROLLEYbTUPAaPAGODAaHINDU TEMPLE",
     "bUTaELEVATOR"]⟩,
   ⟨0x1F6DD, ["aPLAYGROUND SLIDEaWHEELaRING BUOYaHAMMER AND WRENCHaSHIELDaOIL DRUMaMOTORWAY",
     "aRAILWAY TRACKaMOTOR BOATaUP-POINTING MILITARY AIRPLANEmAIRPLANE",
     "mSMALL AIRPLANEaSMALL AIRPLANEaNORTHEAST-POINTING AIRPLANE",
     "aAIRPLANE DEPARTUREjARRIVING"]⟩,
   ⟨0x1F6F0, ["aSATELLITEaONCOMING FIRE ENGINEaDIESEL LOCOMOTIVEaPASSENGER SHIPaSCOOTER",
     "aMOTOR SCOOTERaCANOEaSLEDaFLYING SAUCERaSKATEBOARDaAUTO RICKSHAW",
     "aPICKUP TRUCKaROLLER SKATE"]⟩,
   ⟨0x1F700, ["aALCHEMICAL SYMBOL FOR QUINTESSENCEwAIRwFIREwEARTHwWATERwAQUAFORTISzA REGIA",
     "zA REGIA-2zA VITAEzA VITAE-2wVINEGARzEGAR-2zEGAR-3wSULFUR",
     "wPHILOSOPHERS SULFURwBLACK SULFURwMERCURY SUBLIMATEzCURY SUBLIMATE-2",
     "zCURY SUBLIMATE-3wCINNABARwSALTwNITREwVITRIOLzRIOL-2wROCK SALTzK SALT-2wGOLD",
     "wSILVERwIRON OREzN ORE-2wCROCUS OF IRONwREGULUS OF IRONwCOPPER ORE",
     "wIRON-COPPER OREwSUBLIMATE OF COPPERwCROCUS OF COPPERzCUS OF COPPER-2",
     "xOPPER ANTIMONIATEwSALT OF COPPER ANTIMONIATExUBLIMATE OF SALT OF COPPER",
     "wVERDIGRISwTIN OREwLEAD OREwANTIMONY OREwSUBLIMATE OF ANTIMONY",
     "xALT OF ANTIMONYxUBLIMATE OF SALT OF ANTIMONYwVINEGAR OF ANTIMONY",
     "wREGULUS OF ANTIMONYzULUS OF ANTIMONY-2zULUSzULUS-2zULUS-3zULUS-4wALKALI",
     "zALI-2wMARCASITEwSAL-AMMONIACwARSENICwREALGARzLGAR-2wAURIPIGMENTwBISMUTH ORE",
     "wTARTARzTAR-2wQUICK LIMEwBORAXzAX-2zAX-3wALUMwOILwSPIRITwTINCTUREwGUMwWAX",
     "wPOWDERwCALXwTUTTYwCAPUT MORTUUMwSCEPTER OF JOVEwCADUCEUSwTRIDENT",
     "wSTARRED TRIDENTwLODESTONEwSOAPwURINEwHORSE DUNGwASHESwPOT ASHESwBRICK",
     "wPOWDERED BRICKwAMALGAMwSTRATUM SUPER STRATUMzATUM SUPER STRATUM-2",
     "xUBLIMATIONwPRECIPITATEwDISTILLzSOLVEzSOLVE-2wPURIFYyTREFACTIONwCRUCIBLE",
     "zCIBLE-2zCIBLE-3zCIBLE-4zCIBLE-5wALEMBICwBATH OF MARYzH OF VAPOURSwRETORT",
     "wHOURwNIGHTwDAY-NIGHTwMONTHwHALF DRAMzF OUNCE"]⟩,
   ⟨0x1F780, ["aBLACK LEFT-POINTING ISOSCELES RIGHT TRIANGLE",
     "gUP-POINTING ISOSCELES RIGHT TRIANGLE",
     "gRIGHT-POINTING ISOSCELES RIGHT TRIANGLE",
     "gDOWN-POINTING ISOSCELES RIGHT TRIANGLEgSLIGHTLY SMALL CIRCLE",
     "aMEDIUM BOLD WHITE CIRCLEaBOLD WHITE CIRCLEaHEAVY WHITE CIRCLE",
     "aVERY HEAVY WHITE CIRCLEaEXTREMELY HEAVY WHITE CIRCLE",
     "aWHITE CIRCLE CONTAINING BLACK SMALL CIRCLEaROUND TARGETaBLACK TINY SQUARE",
     "gSLIGHTLY SMALL SQUAREaLIGHT WHITE SQUAREaMEDIUM WHITE SQUARE",
     "aBOLD WHITE SQUAREaHEAVY WHITE SQUAREaVERY HEAVY WHITE SQUARE",
     "aEXTREMELY HEAVY WHITE SQUARE",
     "aWHITE SQUARE CONTAINING BLACK VERY SMALL SQUAREzLACK MEDIUM SQUARE",
     "aSQUARE TARGETaBLACK TINY DIAMONDgVERY SMALL DIAMONDgMEDIUM SMALL DIAMOND",
     "aWHITE DIAMOND CONTAINING BLACK VERY SMALL DIAMONDzBLACK MEDIUM DIAMOND",
     "aDIAMOND TARGETaBLACK TINY LOZENGEgVERY SMALL LOZENGEgMEDIUM SMALL LOZENGE",
     "aWHITE LOZENGE CONTAINING BLACK SMALL LOZENGEaTHIN GREEK CROSS",
     "aLIGHT GREEK CROSSaMEDIUM GREEK CROSSaBOLD GREEK CROSSaVERY BOLD GREEK CROSS",
     "fHEAVY GREEK CROSSaEXTREMELY HEAVY GREEK CROSSaTHIN SALTIREaLIGHT SALTIRE",
     "aMEDIUM SALTIREaBOLD SALTIREaHEAVY SALTIREaVERY HEAVY SALTIRE",
     "aEXTREMELY HEAVY SALTIREaLIGHT FIVE SPOKED ASTERISK",
     "aMEDIUM FIVE SPOKED ASTERISKaBOLD FIVE SPOKED ASTERISK",
     "aHEAVY FIVE SPOKED ASTERISKaVERY HEAVY FIVE SPOKED ASTERISK",
     "aEXTREMELY HEAVY FIVE SPOKED ASTERISKaLIGHT SIX SPOKED ASTERISK",
     "aMEDIUM SIX SPOKED ASTERISKaBOLD SIX SPOKED ASTERISK",
     "aHEAVY SIX SPOKED ASTERISKaVERY HEAVY SIX SPOKED ASTERISK",
     "aEXTREMELY HEAVY SIX SPOKED ASTERISKaLIGHT EIGHT SPOKED ASTERISK",
     "aMEDIUM EIGHT SPOKED ASTERISKaBOLD EIGHT SPOKED ASTERISK",
     "aHEAVY EIGHT SPOKED ASTERISKaVERY HEAVY EIGHT SPOKED ASTERISK",
     "aLIGHT THREE POINTED BLACK STARaMEDIUM THREE POINTED BLACK STAR",
     "aTHREE POINTED BLACK STARaMEDIUM THREE POINTED PINWHEEL STAR",
     "aLIGHT FOUR POINTED BLACK STARaMEDIUM FOUR POINTED BLACK STAR",
     "aFOUR POINTED BLACK STARaMEDIUM FOUR POINTED PINWHEEL STAR",
     "aREVERSE LIGHT FOUR POINTED PINWHEEL STARaLIGHT FIVE POINTED BLACK STAR",
     "aHEAVY FIVE POINTED BLACK STARaMEDIUM SIX POINTED BLACK STAR",
     "aHEAVY SIX POINTED BLACK STARaSIX POINTED PINWHEEL STAR",
     "aMEDIUM EIGHT POINTED BLACK STARaHEAVY EIGHT POINTED BLACK STAR",
     "aVERY HEAVY EIGHT POINTED BLACK STARaHEAVY EIGHT POINTED PINWHEEL STAR",
     "aLIGHT TWELVE POINTED BLACK STARaHEAVY TWELVE POINTED BLACK STAR",
     "vPINWHEEL STARaCIRCLED TRIANGLEaNEGATIVE CIRCLED TRIANGLEaCIRCLED SQUARE",
     "aNEGATIVE CIRCLED SQUARE"]⟩,
   ⟨0x1F7E0, ["aLARGE ORANGE CIRCLEgYELLOW CIRCLEgGREEN CIRCLEgPURPLE CIRCLEgBROWN CIRCLE",
     "gRED SQUAREgBLUE SQUAREgORANGE SQUAREgYELLOW SQUAREgGREEN SQUARE",
     "gPURPLE SQUAREgBROWN SQUARE"]⟩,
   ⟨0x1F7F0, ["aHEAVY EQUALS SIGN"]⟩,
   ⟨0x1F800, ["aLEFTWARDS ARROW WITH SMALL TRIANGLE ARROWHEAD",
     "aUPWARDS ARROW WITH SMALL TRIANGLE ARROWHEAD",
     "aRIGHTWARDS ARROW WITH SMALL TRIANGLE ARROWHEAD",
     "aDOWNWARDS ARROW WITH SMALL TRIANGLE ARROWHEAD",
     "aLEFTWARDS ARROW WITH MEDIUM TRIANGLE ARROWHEAD",
     "aUPWARDS ARROW WITH MEDIUM TRIANGLE ARROWHEAD",
     "aRIGHTWARDS ARROW WITH MEDIUM TRIANGLE ARROWHEAD",
     "aDOWNWARDS ARROW WITH MEDIUM TRIANGLE ARROWHEAD",
     "aLEFTWARDS ARROW WITH LARGE TRIANGLE ARROWHEAD",
     "aUPWARDS ARROW WITH LARGE TRIANGLE ARROWHEAD",
     "aRIGHTWARDS ARROW WITH LARGE TRIANGLE ARROWHEAD",
     "aDOWNWARDS ARROW WITH LARGE TRIANGLE ARROWHEAD"]⟩,
   ⟨0x1F810, ["aLEFTWARDS ARROW WITH SMALL EQUILATERAL ARROWHEAD",
     "aUPWARDS ARROW WITH SMALL EQUILATERAL ARROWHEAD",
     "aRIGHTWARDS ARROW WITH SMALL EQUILATERAL ARROWHEAD",
     "aDOWNWARDS ARROW WITH SMALL EQUILATERAL ARROWHEAD",
     "aLEFTWARDS ARROW WITH EQUILATERAL ARROWHEAD",
     "aUPWARDS ARROW WITH EQUILATERAL ARROWHEAD",
     "aRIGHTWARDS ARROW WITH EQUILATERAL ARROWHEAD",
     "aDOWNWARDS ARROW WITH EQUILATERAL ARROWHEAD",
     "aHEAVY LEFTWARDS ARROW WITH EQUILATERAL ARROWHEAD",
     "gUPWARDS ARROW WITH EQUILATERAL ARROWHEAD",
     "gRIGHTWARDS ARROW WITH EQUILATERAL ARROWHEAD",
     "gDOWNWARDS ARROW WITH EQUILATERAL ARROWHEAD",
     "gLEFTWARDS ARROW WITH LARGE EQUILATERAL ARROWHEAD",
     "gUPWARDS ARROW WITH LARGE EQUILATERAL ARROWHEAD",
     "gRIGHTWARDS ARROW WITH LARGE EQUILATERAL ARROWHEAD",
     "gDOWNWARDS ARROW WITH LARGE EQUILATERAL ARROWHEAD",
     "aLEFTWARDS TRIANGLE-HEADED ARROW WITH NARROW SHAFT",
     "aUPWARDS TRIANGLE-HEADED ARROW WITH NARROW SHAFT",
     "aRIGHTWARDS TRIANGLE-HEADED ARROW WITH NARROW SHAFT",
     "aDOWNWARDS TRIANGLE-HEADED ARROW WITH NARROW SHAFT",
     "aLEFTWARDS TRIANGLE-HEADED ARROW WITH MEDIUM SHAFT",
     "aUPWARDS TRIANGLE-HEADED ARROW WITH MEDIUM SHAFT",
     "aRIGHTWARDS TRIANGLE-HEADED ARROW WITH MEDIUM SHAFT",
     "aDOWNWARDS TRIANGLE-HEADED ARROW WITH MEDIUM SHAFT",
     "aLEFTWARDS TRIANGLE-HEADED ARROW WITH BOLD SHAFT",
     "aUPWARDS TRIANGLE-HEADED ARROW WITH BOLD SHAFT",
     "aRIGHTWARDS TRIANGLE-HEADED ARROW WITH BOLD SHAFT",
     "aDOWNWARDS TRIANGLE-HEADED ARROW WITH BOLD SHAFT",
     "aLEFTWARDS TRIANGLE-HEADED ARROW WITH HEAVY SHAFT",
     "aUPWARDS TRIANGLE-HEADED ARROW WITH HEAVY SHAFT",
     "aRIGHTWARDS TRIANGLE-HEADED ARROW WITH HEAVY SHAFT",
     "aDOWNWARDS TRIANGLE-HEADED ARROW WITH HEAVY SHAFT",
     "aLEFTWARDS TRIANGLE-HEADED ARROW WITH VERY HEAVY SHAFT",
     "aUPWARDS TRIANGLE-HEADED ARROW WITH VERY HEAVY SHAFT",
     "aRIGHTWARDS TRIANGLE-HEADED ARROW WITH VERY HEAVY SHAFT",
     "aDOWNWARDS TRIANGLE-HEADED ARROW WITH VERY HEAVY SHAFT",
     "aLEFTWARDS FINGER-POST ARROWaUPWARDS FINGER-POST ARROW",
     "aRIGHTWARDS FINGER-POST ARROWaDOWNWARDS FINGER-POST ARROW",
     "aLEFTWARDS SQUARED ARROWaUPWARDS SQUARED ARROWaRIGHTWARDS SQUARED ARROW",
     "aDOWNWARDS SQUARED ARROWaLEFTWARDS COMPRESSED ARROWaUPWARDS COMPRESSED ARROW",
     "aRIGHTWARDS COMPRESSED ARROWaDOWNWARDS COMPRESSED ARROW",
     "aLEFTWARDS HEAVY COMPRESSED ARROWaUPWARDS HEAVY COMPRESSED ARROW",
     "aRIGHTWARDS HEAVY COMPRESSED ARROWaDOWNWARDS HEAVY COMPRESSED ARROW",
     "aLEFTWARDS HEAVY ARROWaUPWARDS HEAVY ARROWaRIGHTWARDS HEAVY ARROW",
     "aDOWNWARDS HEAVY ARROW"]⟩,
   ⟨0x1F850, ["aLEFTWARDS SANS-SERIF ARROWaUPWARDS SANS-SERIF ARROW",
     "aRIGHTWARDS SANS-SERIF ARROWaDOWNWARDS SANS-SERIF ARROW",
     "aNORTH WEST SANS-SERIF ARROWgEAST SANS-SERIF ARROW",
     "aSOUTH EAST SANS-SERIF ARROWgWEST SANS-SERIF ARROW",
     "aLEFT RIGHT SANS-SERIF ARROWaUP DOWN SANS-SERIF ARROW"]⟩,
   ⟨0x1F860, ["aWIDE-HEADED LEFTWARDS LIGHT BARB ARROWmUPWARDS LIGHT BARB ARROW",
     "mRIGHTWARDS LIGHT BARB ARROWmDOWNWARDS LIGHT BARB ARROW",
     "mNORTH WEST LIGHT BARB ARROWsEAST LIGHT BARB ARROW",
     "mSOUTH EAST LIGHT BARB ARROWsWEST LIGHT BARB ARROWmLEFTWARDS BARB ARROW",
     "mUPWARDS BARB ARROWmRIGHTWARDS BARB ARROWmDOWNWARDS BARB ARROW",
     "mNORTH WEST BARB ARROWsEAST BARB ARROWmSOUTH EAST BARB ARROWsWEST BARB ARROW",
     "mLEFTWARDS MEDIUM BARB ARROWmUPWARDS MEDIUM BARB ARROW",
     "mRIGHTWARDS MEDIUM BARB ARROWmDOWNWARDS MEDIUM BARB ARROW",
     "mNORTH WEST MEDIUM BARB ARROWsEAST MEDIUM BARB ARROW",
     "mSOUTH EAST MEDIUM BARB ARROWsWEST MEDIUM BARB ARROW",
     "mLEFTWARDS HEAVY BARB ARROWmUPWARDS HEAVY BARB ARROW",
     "mRIGHTWARDS HEAVY BARB ARROWmDOWNWARDS HEAVY BARB ARROW",
     "mNORTH WEST HEAVY BARB ARROWsEAST HEAVY BARB ARROW",
     "mSOUTH EAST HEAVY BARB ARROWsWEST HEAVY BARB ARROW",
     "mLEFTWARDS VERY HEAVY BARB ARROWmUPWARDS VERY HEAVY BARB ARROW",
     "mRIGHTWARDS VERY HEAVY BARB ARROWmDOWNWARDS VERY HEAVY BARB ARROW",
     "mNORTH WEST VERY HEAVY BARB ARROWsEAST VERY HEAVY BARB ARROW",
     "mSOUTH EAST VERY HEAVY BARB ARROWsWEST VERY HEAVY BARB ARROW"]⟩,
   ⟨0x1F890, ["aLEFTWARDS TRIANGLE ARROWHEADaUPWARDS TRIANGLE ARROWHEAD",
     "aRIGHTWARDS TRIANGLE ARROWHEADaDOWNWARDS TRIANGLE ARROWHEAD",
     "aLEFTWARDS WHITE ARROW WITHIN TRIANGLE ARROWHEAD",
     "aUPWARDS WHITE ARROW WITHIN TRIANGLE ARROWHEAD",
     "aRIGHTWARDS WHITE ARROW WITHIN TRIANGLE ARROWHEAD",
     "aDOWNWARDS WHITE ARROW WITHIN TRIANGLE ARROWHEAD",
     "aLEFTWARDS ARROW WITH NOTCHED TAILaUPWARDS ARROW WITH NOTCHED TAIL",
     "aRIGHTWARDS ARROW WITH NOTCHED TAILaDOWNWARDS ARROW WITH NOTCHED TAIL",
     "aHEAVY ARROW SHAFT WIDTH ONEyTWO THIRDSyONE HALFzNE THIRD",
     "aLEFTWARDS BOTTOM-SHADED WHITE ARROWaRIGHTWARDS BOTTOM SHADED WHITE ARROW",
     "aLEFTWARDS TOP SHADED WHITE ARROWaRIGHTWARDS TOP SHADED WHITE ARROW",
     "aLEFTWARDS LEFT-SHADED WHITE ARROWaRIGHTWARDS RIGHT-SHADED WHITE ARROW",
     "aLEFTWARDS RIGHT-SHADED WHITE ARROWaRIGHTWARDS LEFT-SHADED WHITE ARROW",
     "aLEFTWARDS BACK-TILTED SHADOWED WHITE ARROW",
     "aRIGHTWARDS BACK-TILTED SHADOWED WHITE ARROW",
     "aLEFTWARDS FRONT-TILTED SHADOWED WHITE ARROW",
     "aRIGHTWARDS FRONT-TILTED SHADOWED WHITE ARROWaWHITE ARROW SHAFT WIDTH ONE",
     "yTWO THIRDS"]⟩,
   ⟨0x1F8B0, ["aARROW POINTING UPWARDS THEN NORTH WESTpRIGHTWARDS THEN CURVING SOUTH WEST"]⟩,
   ⟨0x1F900, ["aCIRCLED CROSS FORMEE WITH FOUR DOTSz TWO DOTSu",
     "aLEFT HALF CIRCLE WITH FOUR DOTSwTHREE DOTSxWO DOTSwDOTq",
     "aDOWNWARD FACING HOOKqNOTCHED HOOKqHOOK WITH DOTqNOTCHED HOOK WITH DOT",
     "aPINCHED FINGERSaWHITE HEARTaBROWN HEARTaPINCHING HANDaZIPPER-MOUTH FACE",
     "aMONEY-MOUTH FACEaFACE WITH THERMOMETERaNERD FACEaTHINKING FACE",
     "aFACE WITH HEAD-BANDAGEaROBOT FACEaHUGGING FACEaSIGN OF THE HORNS",
     "aCALL ME HANDaRAISED BACK OF HANDaLEFT-FACING FISTaRIGHT-FACING FIST",
     "aHANDSHAKEe WITH INDEX AND MIDDLE FINGERS CROSSEDaI LOVE YOU HAND SIGN",
     "aFACE WITH COWBOY HATaCLOWN FACEaNAUSEATED FACE",
     "aROLLING ON THE FLOOR LAUGHINGaDROOLING FACEaLYING FACEaFACE PALM",
     "aSNEEZING FACEaFACE WITH ONE EYEBROW RAISEDaGRINNING FACE WITH STAR EYES",
     "tONE LARGE AND ONE SMALL EYEaFACE WITH FINGER COVERING CLOSED LIPS",
     "aSERIOUS FACE WITH SYMBOLS COVERING MOUTH",
     "bMILING FACE WITH SMILING EYES AND HAND COVERING MOUTH",
     "aFACE WITH OPEN MOUTH VOMITINGaSHOCKED FACE WITH EXPLODING HEAD",
     "aPREGNANT WOMANaBREAST-FEEDINGaPALMS UP TOGETHERaSELFIEaPRINCEaMAN IN TUXEDO",
     "bOTHER CHRISTMASaSHRUGaPERSON DOING CARTWHEELaJUGGLINGaFENCER",
     "aMODERN PENTATHLONaWRESTLERSbATER POLOaHANDBALLaDIVING MASKaWILTED FLOWER",
     "aDRUM WITH DRUMSTICKSaCLINKING GLASSESaTUMBLER GLASSaSPOONaGOAL NETaRIFLE",
     "aFIRST PLACE MEDALaSECOND PLACE MEDALaTHIRD PLACE MEDALaBOXING GLOVE",
     "aMARTIAL ARTS UNIFORMaCURLING STONEaLACROSSE STICK AND BALLaSOFTBALL",
     "aFLYING DISCaCROISSANTaAVOCADOaCUCUMBERaBACONaPOTATOaCARROTaBAGUETTE BREAD",
     "aGREEN SALADaSHALLOW PAN OF FOODbTUFFED FLATBREADaEGGaGLASS OF MILKaPEANUTS",
     "aKIWIFRUITaPANCAKESaDUMPLINGaFORTUNE COOKIEaTAKEOUT BOXaCHOPSTICKS",
     "aBOWL WITH SPOONaCUP WITH STRAWbOCONUTaBROCCOLIaPIEbRETZELaCUT OF MEAT",
     "aSANDWICHaCANNED FOODaLEAFY GREENaMANGObOON CAKEaBAGEL",
     "aSMILING FACE WITH SMILING EYES AND THREE HEARTSaYAWNING FACE",
     "aSMILING FACE WITH TEARaFACE WITH PARTY HORN AND PARTY HAT",
     "kUNEVEN EYES AND WAVY MOUTHaOVERHEATED FACEaFREEZING FACEaNINJA",
     "aDISGUISED FACEaFACE HOLDING BACK TEARSfWITH PLEADING EYESaSARIaLAB COAT",
     "aGOGGLESaHIKING BOOTaFLAT SHOEaCRABaLION FACEaSCORPIONaTURKEYaUNICORN FACE",
     "aEAGLEaDUCKaBATaSHARKaOWLaFOX FACEaBUTTERFLYaDEERaGORILLAaLIZARDaRHINOCEROS",
     "aSHRIMPbQUIDaGIRAFFE FACEaZEBRA FACEaHEDGEHOGaSAUROPODaT-REXaCRICKET",
     "aKANGAROOaLLAMAaPEACOCKaHIPPOPOTAMUSaPARROTaRACCOONaLOBSTERaMOSQUITObICROBE",
     "aBADGERaSWANaMAMMOTHaDODOaSLOTHaOTTERbRANGUTANaSKUNKaFLAMINGOaOYSTERaBEAVER",
     "bISONaSEALaGUIDE DOGaPROBING CANEaEMOJI COMPONENT RED HAIRqCURLY HAIRqBALD",
     "qWHITE HAIRaBONEaLEGaFOOTaTOOTHaSUPERHEROfVILLAINbAFETY VEST",
     "aEAR WITH HEARING AIDaMOTORIZED WHEELCHAIRbANUAL WHEELCHAIRbECHANICAL ARM",
     "lLEGaCHEESE WEDGEbUPCAKEaSALT SHAKERaBEVERAGE BOXaGARLICaONIONaFALAFEL",
     "aWAFFLEaBUTTERaMATE DRINKaICE CUBEaBUBBLE TEAaTROLLaSTANDING PERSON",
     "aKNEELING PERSONaDEAF PERSONaFACE WITH MONOCLEaADULTaCHILDaOLDER ADULT",
     "aBEARDED PERSONaPERSON WITH HEADSCARFhIN STEAMY ROOMhCLIMBING",
     "hIN LOTUS POSITIONaMAGEaFAIRYaVAMPIREaMERPERSONaELFaGENIEaZOMBIEaBRAIN",
     "aORANGE HEARTaBILLED CAPaSCARFaGLOVESaCOATaSOCKSaRED GIFT ENVELOPE",
     "aFIRECRACKERaJIGSAW PUZZLE PIECEaTEST TUBEaPETRI DISHaDNA DOUBLE HELIX",
     "aCOMPASSaABACUSaFIRE EXTINGUISHERaTOOLBOXaBRICKaMAGNETaLUGGAGEbOTION BOTTLE",
     "aSPOOL OF THREADaBALL OF YARNaSAFETY PINaTEDDY BEARaBROOMbASKET",
     "aROLL OF PAPERaBAR OF SOAPaSPONGEaRECEIPTaNAZAR AMULETbEUTRAL CHESS KING",
     "oQUEENoROOKoBISHOPoKNIGHToPAWNaWHITE CHESS KNIGHT ROTATED FORTY-FIVE DEGREES",
     "aBLACK CHESS KNIGHT ROTATED FORTY-FIVE DEGREES",
     "aNEUTRAL CHESS KNIGHT ROTATED FORTY-FIVE DEGREES",
     "aWHITE CHESS KING ROTATED NINETY DEGREESmQUEEN ROTATED NINETY DEGREES",
     "mROOK ROTATED NINETY DEGREESmBISHOP ROTATED NINETY DEGREES",
     "mKNIGHT ROTATED NINETY DEGREESmPAWN ROTATED NINETY DEGREES",
     "aBLACK CHESS KING ROTATED NINETY DEGREESmQUEEN ROTATED NINETY DEGREES",
     "mROOK ROTATED NINETY DEGREESmBISHOP ROTATED NINETY DEGREES",
     "mKNIGHT ROTATED NINETY DEGREESmPAWN ROTATED NINETY DEGREES",
     "aNEUTRAL CHESS KING ROTATED NINETY DEGREESoQUEEN ROTATED NINETY DEGREES",
     "oROOK ROTATED NINETY DEGREESoBISHOP ROTATED NINETY DEGREES",
     "oKNIGHT ROTATED NINETY DEGREESoPAWN ROTATED NINETY DEGREES",
     "aWHITE CHESS KNIGHT ROTATED ONE HUNDRED THIRTY-FIVE DEGREES",
     "aBLACK CHESS KNIGHT ROTATED ONE HUNDRED THIRTY-FIVE DEGREES",
     "aNEUTRAL CHESS KNIGHT ROTATED ONE HUNDRED THIRTY-FIVE DEGREES",
     "aWHITE CHESS TURNED KINGtQUEENtROOKtBISHOPtKNIGHTtPAWN",
     "aBLACK CHESS TURNED KINGtQUEENtROOKtBISHOPtKNIGHTtPAWN",
     "aNEUTRAL CHESS TURNED KINGvQUEENvROOKvBISHOPvKNIGHTvPAWN",
     "aWHITE CHESS KNIGHT ROTATED TWO HUNDRED TWENTY-FIVE DEGREES",
     "aBLACK CHESS KNIGHT ROTATED TWO HUNDRED TWENTY-FIVE DEGREES",
     "aNEUTRAL CHESS KNIGHT ROTATED TWO HUNDRED TWENTY-FIVE DEGREES",
     "aWHITE CHESS KING ROTATED TWO HUNDRED SEVENTY DEGREES",
     "mQUEEN ROTATED TWO HUNDRED SEVENTY DEGREES",
     "mROOK ROTATED TWO HUNDRED SEVENTY DEGREES",
     "mBISHOP ROTATED TWO HUNDRED SEVENTY DEGREES",
     "mKNIGHT ROTATED TWO HUNDRED SEVENTY DEGREES",
     "mPAWN ROTATED TWO HUNDRED SEVENTY DEGREES",
     "aBLACK CHESS KING ROTATED TWO HUNDRED SEVENTY DEGREES",
     "mQUEEN ROTATED TWO HUNDRED SEVENTY DEGREES",
     "mROOK ROTATED TWO HUNDRED SEVENTY DEGREES",
     "mBISHOP ROTATED TWO HUNDRED SEVENTY DEGREES",
     "mKNIGHT ROTATED TWO HUNDRED SEVENTY DEGREES",
     "mPAWN ROTATED TWO HUNDRED SEVENTY DEGREES",
     "aNEUTRAL CHESS KING ROTATED TWO HUNDRED SEVENTY DEGREES",
     "oQUEEN ROTATED TWO HUNDRED SEVENTY DEGREES",
     "oROOK ROTATED TWO HUNDRED SEVENTY DEGREES",
     "oBISHOP ROTATED TWO HUNDRED SEVENTY DEGREES",
     "oKNIGHT ROTATED TWO HUNDRED SEVENTY DEGREES",
     "oPAWN ROTATED TWO HUNDRED SEVENTY DEGREES",
     "aWHITE CHESS KNIGHT ROTATED THREE HUNDRED FIFTEEN DEGREES",
     "aBLACK CHESS KNIGHT ROTATED THREE HUNDRED FIFTEEN DEGREES",
     "aNEUTRAL CHESS KNIGHT ROTATED THREE HUNDRED FIFTEEN DEGREES",
     "aWHITE CHESS EQUIHOPPERaBLACK CHESS EQUIHOPPERaNEUTRAL CHESS EQUIHOPPER",
     "aWHITE CHESS EQUIHOPPER ROTATED NINETY DEGREES",
     "aBLACK CHESS EQUIHOPPER ROTATED NINETY DEGREES",
     "aNEUTRAL CHESS EQUIHOPPER ROTATED NINETY DEGREESaWHITE CHESS KNIGHT-QUEEN",
     "tROOKtBISHOPaBLACK CHESS KNIGHT-QUEENtROOKtBISHOP"]⟩,
   ⟨0x1FA60, ["aXIANGQI RED GENERALmMANDARINmELEPHANTmHORSEmCHARIOTnANNONmSOLDIER",
     "iBLACK GENERALoMANDARINoELEPHANToHORSEoCHARIOTpANNONoSOLDIER"]⟩,
   ⟨0x1FA70, ["aBALLET SHOESaONE-PIECE SWIMSUITaBRIEFSaSHORTSaTHONG SANDAL"]⟩,
   ⟨0x1FA78, ["aDROP OF BLOODaADHESIVE BANDAGEaSTETHOSCOPEaX-RAYaCRUTCH"]⟩,
   ⟨0x1FA80, ["aYO-YOaKITEaPARACHUTEaBOOMERANGaMAGIC WANDaPINATAaNESTING DOLLS"]⟩,
   ⟨0x1FA90, ["aRINGED PLANETaCHAIRaRAZORaAXEaDIYA LAMPaBANJOaMILITARY HELMETaACCORDION",
     "aLONG DRUMaCOINbARPENTRY SAWaSCREWDRIVERaLADDERaHOOKaMIRRORaWINDOWaPLUNGER",
     "aSEWING NEEDLEaKNOTaBUCKETaMOUSE TRAPaTOOTHBRUSHaHEADSTONEaPLACARDaROCK",
     "aMIRROR BALLaIDENTIFICATION CARDaLOW BATTERYaHAMSA"]⟩,
   ⟨0x1FAB0, ["aFLYaWORMaBEETLEaCOCKROACHaPOTTED PLANTaWOODaFEATHERaLOTUSaCORALaEMPTY NEST",
     "aNEST WITH EGGS"]⟩,
   ⟨0x1FAC0, ["aANATOMICAL HEARTaLUNGSaPEOPLE HUGGINGbREGNANT MANjPERSONbERSON WITH CROWN"]⟩,
   ⟨0x1FAD0, ["aBLUEBERRIESbELL PEPPERaOLIVEaFLATBREADaTAMALEaFONDUEaTEAPOTaPOURING LIQUID",
     "aBEANSaJAR"]⟩,
   ⟨0x1FAE0, ["aMELTING FACEaSALUTING FACEaFACE WITH OPEN EYES AND HAND OVER MOUTH",
     "kPEEKING EYEkDIAGONAL MOUTHaDOTTED LINE FACEaBITING LIPbUBBLES"]⟩,
   ⟨0x1FAF0, ["aHAND WITH INDEX FINGER AND THUMB CROSSEDaRIGHTWARDS HANDaLEFTWARDS HAND",
     "aPALM DOWN HANDfUP HANDaINDEX POINTING AT THE VIEWERaHEART HANDS"]⟩,
   ⟨0x1FB00, ["aBLOCK SEXTANT-1o2o12o3o13o23o123o4o14o24o124o34o134o234o1234o5o15o25o125o35",
     "o235o1235o45o145o245o1245o345o1345o2345o12345o6o16o26o126o36o136o236o1236o46",
     "o146p246o346o1346o2346o12346o56o156o256o1256o356o1356o2356o12356o456o1456",
     "o2456o12456o3456o13456o23456",
     "aLOWER LEFT BLOCK DIAGONAL LOWER MIDDLE LEFT TO LOWER CENTRE",
     "z LOWER MIDDLE LEFT TO LOWER RIGHTz UPPER MIDDLE LEFT TO LOWER CENTRE",
     "z UPPER MIDDLE LEFT TO LOWER RIGHTz UPPER LEFT TO LOWER CENTRE",
     "gRIGHT BLOCK DIAGONAL UPPER MIDDLE LEFT TO UPPER CENTRE",
     "zL UPPER MIDDLE LEFT TO UPPER RIGHTzL LOWER MIDDLE LEFT TO UPPER CENTRE",
     "zL LOWER MIDDLE LEFT TO UPPER RIGHTzL LOWER LEFT TO UPPER CENTRE",
     "zL LOWER MIDDLE LEFT TO UPPER MIDDLE RIGHT",
     "zL LOWER CENTRE TO LOWER MIDDLE RIGHTzL LOWER LEFT TO LOWER MIDDLE RIGHT",
     "zL LOWER CENTRE TO UPPER MIDDLE RIGHTzL LOWER LEFT TO UPPER MIDDLE RIGHT",
     "zL LOWER CENTRE TO UPPER RIGHT",
     "gLEFT BLOCK DIAGONAL UPPER CENTRE TO UPPER MIDDLE RIGHT",
     "z UPPER LEFT TO UPPER MIDDLE RIGHTz UPPER CENTRE TO LOWER MIDDLE RIGHT",
     "z UPPER LEFT TO LOWER MIDDLE RIGHTz UPPER CENTRE TO LOWER RIGHT",
     "z UPPER MIDDLE LEFT TO LOWER MIDDLE RIGHT",
     "aUPPER RIGHT BLOCK DIAGONAL LOWER MIDDLE LEFT TO LOWER CENTRE",
     "zL LOWER MIDDLE LEFT TO LOWER RIGHTzL UPPER MIDDLE LEFT TO LOWER CENTRE",
     "zL UPPER MIDDLE LEFT TO LOWER RIGHTzL UPPER LEFT TO LOWER CENTRE",
     "gLEFT BLOCK DIAGONAL UPPER MIDDLE LEFT TO UPPER CENTRE",
     "z UPPER MIDDLE LEFT TO UPPER RIGHTz LOWER MIDDLE LEFT TO UPPER CENTRE",
     "z LOWER MIDDLE LEFT TO UPPER RIGHTz LOWER LEFT TO UPPER CENTRE",
     "z LOWER MIDDLE LEFT TO UPPER MIDDLE RIGHT",
     "z LOWER CENTRE TO LOWER MIDDLE RIGHTz LOWER LEFT TO LOWER MIDDLE RIGHT",
     "z LOWER CENTRE TO UPPER MIDDLE RIGHTz LOWER LEFT TO UPPER MIDDLE RIGHT",
     "z LOWER CENTRE TO UPPER RIGHT",
     "gRIGHT BLOCK DIAGONAL UPPER CENTRE TO UPPER MIDDLE RIGHT",
     "zL UPPER LEFT TO UPPER MIDDLE RIGHTzL UPPER CENTRE TO LOWER MIDDLE RIGHT",
     "zL UPPER LEFT TO LOWER MIDDLE RIGHTzL UPPER CENTRE TO LOWER RIGHT",
     "zL UPPER MIDDLE LEFT TO LOWER MIDDLE RIGHT",
     "gAND RIGHT AND LOWER TRIANGULAR THREE QUARTERS BLOCK",
     "aLEFT AND LOWER AND RIGHT TRIANGULAR THREE QUARTERS BLOCK",
     "aUPPER AND LEFT AND LOWER TRIANGULAR THREE QUARTERS BLOCK",
     "aLEFT AND UPPER AND RIGHT TRIANGULAR THREE QUARTERS BLOCK",
     "fTRIANGULAR ONE QUARTER BLOCKaUPPER TRIANGULAR ONE QUARTER BLOCK",
     "aRIGHT TRIANGULAR ONE QUARTER BLOCKaLOWER TRIANGULAR ONE QUARTER BLOCK",
     "aVERTICAL ONE EIGHTH BLOCK-2z-3z-4z-5z-6z-7aHORIZONTAL ONE EIGHTH BLOCK-2",
     "zCK-3zCK-4zCK-5zCK-6zCK-7aLEFT AND LOWER ONE EIGHTH BLOCK",
     "jUPPER ONE EIGHTH BLOCKaRIGHT AND UPPER ONE EIGHTH BLOCK",
     "kLOWER ONE EIGHTH BLOCKaUPPER AND LOWER ONE EIGHTH BLOCK",
     "aHORIZONTAL ONE EIGHTH BLOCK-1358aUPPER ONE QUARTER BLOCK",
     "gTHREE EIGHTHS BLOCKgFIVE EIGHTHS BLOCKgTHREE QUARTERS BLOCK",
     "gSEVEN EIGHTHS BLOCKaRIGHT ONE QUARTER BLOCKgTHREE EIGHTHS BLOCK",
     "gFIVE EIGHTHS BLOCKgTHREE QUARTERS BLOCKgSEVEN EIGHTHS BLOCK",
     "aLEFT HALF MEDIUM SHADEaRIGHT HALF MEDIUM SHADEaUPPER HALF MEDIUM SHADE",
     "aLOWER HALF MEDIUM SHADEaINVERSE MEDIUM SHADE",
     "aUPPER HALF BLOCK AND LOWER HALF INVERSE MEDIUM SHADE",
     "lINVERSE MEDIUM SHADE AND LOWER HALF BLOCK"]⟩,
   ⟨0x1FB94, ["aLEFT HALF INVERSE MEDIUM SHADE AND RIGHT HALF BLOCKaCHECKER BOARD FILL",
     "aINVERSE CHECKER BOARD FILLaHEAVY HORIZONTAL FILL",
     "aUPPER LEFT TO LOWER RIGHT FILLgRIGHT TO LOWER LEFT FILL",
     "gAND LOWER TRIANGULAR HALF BLOCKaLEFT AND RIGHT TRIANGULAR HALF BLOCK",
     "aUPPER LEFT TRIANGULAR MEDIUM SHADEgRIGHT TRIANGULAR MEDIUM SHADE",
     "aLOWER RIGHT TRIANGULAR MEDIUM SHADEgLEFT TRIANGULAR MEDIUM SHADE",
     "aBOX DRAWINGS LIGHT DIAGONAL UPPER CENTRE TO MIDDLE LEFT",
     "zAL UPPER CENTRE TO MIDDLE RIGHTzAL MIDDLE LEFT TO LOWER CENTRE",
     "zAL MIDDLE RIGHT TO LOWER CENTRE",
     "zAL UPPER CENTRE TO MIDDLE LEFT TO LOWER CENTRE",
     "zAL UPPER CENTRE TO MIDDLE RIGHT TO LOWER CENTRE",
     "zAL MIDDLE LEFT TO LOWER CENTRE TO MIDDLE RIGHT",
     "zAL MIDDLE LEFT TO UPPER CENTRE TO MIDDLE RIGHT",
     "zAL UPPER CENTRE TO MIDDLE LEFT AND MIDDLE RIGHT TO LOWER CENTRE",
     "zAL UPPER CENTRE TO MIDDLE RIGHT AND MIDDLE LEFT TO LOWER CENTRE",
     "zAL UPPER CENTRE TO MIDDLE RIGHT TO LOWER CENTRE TO MIDDLE LEFT",
     "zAL UPPER CENTRE TO MIDDLE LEFT TO LOWER CENTRE TO MIDDLE RIGHT",
     "zAL MIDDLE LEFT TO UPPER CENTRE TO MIDDLE RIGHT TO LOWER CENTRE",
     "zAL MIDDLE RIGHT TO UPPER CENTRE TO MIDDLE LEFT TO LOWER CENTREzAL DIAMOND",
     "tHORIZONTAL WITH VERTICAL STROKEaARROWHEAD-SHAPED POINTERaINVERSE CHECK MARK",
     "aLEFT HALF RUNNING MANaRIGHT HALF RUNNING MAN",
     "aINVERSE DOWNWARDS ARROW WITH TIP LEFTWARDS",
     "aLEFTWARDS ARROW AND UPPER AND LOWER ONE EIGHTH BLOCK",
     "aRIGHTWARDS ARROW AND UPPER AND LOWER ONE EIGHTH BLOCK",
     "aDOWNWARDS ARROW AND RIGHT ONE EIGHTH BLOCK",
     "aUPWARDS ARROW AND RIGHT ONE EIGHTH BLOCKaLEFT HALF FOLDERaRIGHT HALF FOLDER",
     "aVOIDED GREEK CROSSaRIGHT OPEN SQUARED DOTaNEGATIVE DIAGONAL CROSS",
     "sMIDDLE RIGHT TO LOWER CENTREsDIAMOND",
     "aWHITE HEAVY SALTIRE WITH ROUNDED CORNERS",
     "aLEFT THIRD WHITE RIGHT POINTING INDEX",
     "aMIDDLE THIRD WHITE RIGHT POINTING INDEX",
     "aRIGHT THIRD WHITE RIGHT POINTING INDEXaNEGATIVE SQUARED QUESTION MARK",
     "aSTICK FIGUREm WITH ARMS RAISEDnLEANING LEFTvRIGHTnWITH DRESS",
     "aWHITE UP-POINTING CHEVRON"]⟩,
   ⟨0x1FBF0, ["aSEGMENTED DIGIT ZEROqONEqTWOrHREEqFOURrIVEqSIXrEVENqEIGHTqNINE"]⟩,
   ⟨0xE0001, ["aLANGUAGE TAG"]⟩,
   ⟨0xE0020, ["aTAG SPACEeEXCLAMATION MARKeQUOTATION MARKeNUMBER SIGNeDOLLAR SIGN",
     "ePERCENT SIGNeAMPERSANDfPOSTROPHEeLEFT PARENTHESISeRIGHT PARENTHESIS",
     "eASTERISKePLUS SIGNeCOMMAeHYPHEN-MINUSeFULL STOPeSOLIDUSeDIGIT ZEROkONEkTWO",
     "lHREEkFOURlIVEkSIXlEVENkEIGHTkNINEeCOLONeSEMICOLONeLESS-THAN SIGN",
     "eEQUALS SIGNeGREATER-THAN SIGNeQUESTION MARKeCOMMERCIAL AT",
     "eLATIN CAPITAL LETTER AzBzCzDzEzFzGzHzIzJzKzLzMzNzOzPzQzRzSzTzUzVzWzXzYzZ",
     "fEFT SQUARE BRACKETeREVERSE SOLIDUSfIGHT SQUARE BRACKETeCIRCUMFLEX ACCENT",
     "eLOW LINEeGRAVE ACCENTeLATIN SMALL LETTER AxBxCxDxExFxGxHxIxJxKxLxMxNxOxPxQ",
     "xRxSxTxUxVxWxXxYxZfEFT CURLY BRACKETeVERTICAL LINEeRIGHT CURLY BRACKETeTILDE",
     "aCANCEL TAG"]⟩,
   ⟨0xE0100, ["aVARIATION SELECTOR-17u8u9t20u1u2u3u4u5u6u7u8u9t30u1u2u3u4u5u6u7u8u9t40u1u2",
     "u3u4u5u6u7u8u9t50u1u2u3u4u5u6u7u8u9t60u1u2u3u4u5u6u7u8u9t70u1u2u3u4u5u6u7u8",
     "u9t80u1u2u3u4u5u6u7u8u9t90u1u2u3u4u5u6u7u8u9t100v1v2v3v4v5v6v7v8v9u10v1v2v3",
     "v4v5v6v7v8v9u20v1v2v3v4v5v6v7v8v9u30v1v2v3v4v5v6v7v8v9u40v1v2v3v4v5v6v7v8v9",
     "u50v1v2v3v4v5v6v7v8v9u60v1v2v3v4v5v6v7v8v9u70v1v2v3v4v5v6v7v8v9u80v1v2v3v4v5",
     "v6v7v8v9u90v1v2v3v4v5v6v7v8v9t200v1v2v3v4v5v6v7v8v9u10v1v2v3v4v5v6v7v8v9u20",
     "v1v2v3v4v5v6v7v8v9u30v1v2v3v4v5v6v7v8v9u40v1v2v3v4v5v6v7v8v9u50v1v2v3v4v5v6"]⟩]

/-- Names of the characters beyond the basic plane. -/
def otherNames : List NameRun :=
  namesFrom10000 ++ namesFrom1D000 ++ namesFrom1F300

end Stencil.Text
