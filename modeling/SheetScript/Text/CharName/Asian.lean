namespace SheetScript.Text

def asianNames : List (Nat × List String) :=
  [(0x591, ["HEBREW ACCENT ETNAHTAcSEGOLcSHALSHELETcZAQEF QATANdGADOLcTIPEHAcREVIAcZARQAcPASHTA",
      "cYETIVcTEVIRcGERESHdMUQDAMcGERSHAYIMcQARNEY PARAcTELISHA GEDOLAcPAZERcATNAH HAFUKHcMUNAH",
      "cMAHAPAKHcMERKHAdKEFULAcDARGAcQADMAcTELISHA QETANAcYERAH BEN YOMOcOLEcILUYcDEHIcZINOR",
      "bMARK MASORA CIRCLEbPOINT SHEVAcHATAF SEGOLdPATAHdQAMATScHIRIQcTSEREcSEGOLcPATAHcQAMATS",
      "cHOLAMdHASER FOR VAVcQUBUTScDAGESH OR MAPIQcMETEGbPUNCTUATION MAQAFbPOINT RAFE",
      "bPUNCTUATION PASEQbPOINT SHIN DOTcSIN DOTbPUNCTUATION SOF PASUQbMARK UPPER DOTcLOWER DOT",
      "bPUNCTUATION NUN HAFUKHAbPOINT QAMATS QATAN"]),
    (0x5D0, ["HEBREW LETTER ALEFcBETcGIMELcDALETcHEcVAVcZAYINcHETcTETcYODcFINAL KAFcKAFcLAMED",
      "cFINAL MEMcMEMcFINAL NUNcNUNcSAMEKHcAYINcFINAL PEcPEcFINAL TSADIcTSADIcQOFcRESHcSHINcTAV"]),
    (0x5EF, ["HEBREW YOD TRIANGLEbLIGATURE YIDDISH DOUBLE VAVdVAV YODdDOUBLE YOD",
      "bPUNCTUATION GERESHcGERSHAYIM"]),
    (0x600, ["ARABIC NUMBER SIGNbSIGN SANAHbFOOTNOTE MARKERbSIGN SAFHAcSAMVATbNUMBER MARK ABOVE",
      "aARABIC-INDIC CUBE ROOTbFOURTH ROOTaARABIC RAYaARABIC-INDIC PER MILLE SIGN",
      "cTEN THOUSAND SIGNaAFGHANI SIGNaARABIC COMMAbDATE SEPARATORbPOETIC VERSE SIGNbSIGN MISRA",
      "cSALLALLAHOU ALAYHE WASSALLAMcALAYHE ASSALLAMcRAHMATULLAH ALAYHEcRADI ALLAHOU ANHU",
      "cTAKHALLUSbSMALL HIGH TAHdLIGATURE ALEF WITH LAM WITH YEHdZAINcFATHAcDAMMAcKASRAbSEMICOLON",
      "bLETTER MARKbEND OF TEXT MARKbTRIPLE DOT PUNCTUATION MARKbQUESTION MARKbLETTER KASHMIRI YEH",
      "cHAMZAcALEF WITH MADDA ABOVEeHAMZA ABOVEcWAW WITH HAMZA ABOVEcALEF WITH HAMZA BELOW",
      "cYEH WITH HAMZA ABOVEcALEFcBEHcTEH MARBUTAcTEHcTHEHcJEEMcHAHcKHAHcDALcTHALcREHcZAINcSEEN",
      "cSHEENcSADcDADcTAHcZAHcAINcGHAINcKEHEH WITH TWO DOTS ABOVEeTHREE DOTS BELOW",
      "cFARSI YEH WITH INVERTED VfTWO DOTS ABOVEfTHREE DOTS ABOVEbTATWEELbLETTER FEHcQAFcKAFcLAM",
      "cMEEMcNOONcHEHcWAWcALEF MAKSURAcYEHbFATHATANbDAMMATANbKASRATANbFATHAbDAMMAbKASRAbSHADDA",
      "bSUKUNbMADDAH ABOVEbHAMZA ABOVEcBELOWbSUBSCRIPT ALEFbINVERTED DAMMAbMARK NOON GHUNNA",
      "bZWARAKAYbVOWEL SIGN SMALL V ABOVEdINVERTED SMALL V ABOVEdDOT BELOWbREVERSED DAMMA",
      "bFATHA WITH TWO DOTSbWAVY HAMZA BELOWaARABIC-INDIC DIGIT ZEROcONEcTWOcTHREEcFOURcFIVEcSIX",
      "cSEVENcEIGHTcNINEaARABIC PERCENT SIGNbDECIMAL SEPARATORbTHOUSANDS SEPARATOR",
      "bFIVE POINTED STARbLETTER DOTLESS BEHdQAFcSUPERSCRIPT ALEFcALEF WASLAdWITH WAVY HAMZA ABOVE",
      "gBELOWcHIGH HAMZAeALEFeWAWcU WITH HAMZA ABOVEcHIGH HAMZA YEHcTTEHcTTEHEHcBEEHcTEH WITH RING",
      "eTHREE DOTS ABOVE DOWNWARDScPEHcTEHEHcBEHEHcHAH WITH HAMZA ABOVEeTWO DOTS VERTICAL ABOVE",
      "cNYEHcDYEHcHAH WITH THREE DOTS ABOVEcTCHEHcTCHEHEHcDDALcDAL WITH RINGeDOT BELOW",
      "gAND SMALL TAHcDAHALcDDAHALcDULcDAL WITH THREE DOTS ABOVE DOWNWARDSeFOUR DOTS ABOVEcRREH",
      "cREH WITH SMALL VeRINGeDOT BELOWeSMALL V BELOWeDOT BELOW AND DOT ABOVEeTWO DOTS ABOVEcJEH",
      "cREH WITH FOUR DOTS ABOVEcSEEN WITH DOT BELOW AND DOT ABOVEeTHREE DOTS BELOW",
      "hAND THREE DOTS ABOVEcSAD WITH TWO DOTS BELOWeTHREE DOTS ABOVEcTAH WITH THREE DOTS ABOVE",
      "cAIN WITH THREE DOTS ABOVEcDOTLESS FEHcFEH WITH DOT MOVED BELOWfBELOWcVEH",
      "cFEH WITH THREE DOTS BELOWcPEHEHcQAF WITH DOT ABOVEeTHREE DOTS ABOVEcKEHEHcSWASH KAF",
      "cKAF WITH RINGeDOT ABOVEcNGcKAF WITH THREE DOTS BELOWcGAFdWITH RINGcNGOEH",
      "cGAF WITH TWO DOTS BELOWcGUEHcGAF WITH THREE DOTS ABOVEcLAM WITH SMALL VeDOT ABOVE",
      "eTHREE DOTS ABOVEgBELOWcNOON WITH DOT BELOWdGHUNNAcRNOONcNOON WITH RINGeTHREE DOTS ABOVE",
      "cHEH DOACHASHMEEcTCHEH WITH DOT ABOVEcHEH WITH YEH ABOVEdGOALeWITH HAMZA ABOVE",
      "cTEH MARBUTA GOALcWAW WITH RINGcKIRGHIZ OEcOEcUcYUcKIRGHIZ YUcWAW WITH TWO DOTS ABOVEcVE",
      "cFARSI YEHcYEH WITH TAILeSMALL VcWAW WITH DOT ABOVEcEcYEH WITH THREE DOTS BELOWdBARREE",
      "eWITH HAMZA ABOVEbFULL STOPbLETTER AEbSMALL HIGH LIGATURE SAD WITH LAM WITH ALEF MAKSURA",
      "eQAF WITH LAM WITH ALEF MAKSURAdMEEM INITIAL FORMdLAM ALEFdJEEMdTHREE DOTSdSEENbEND OF AYAH",
      "bSTART OF RUB EL HIZBbSMALL HIGH ROUNDED ZEROdUPRIGHT RECTANGULAR ZEROdDOTLESS HEAD OF KHAH",
      "dMEEM ISOLATED FORMcLOW SEENcHIGH MADDAcWAWcYEHcHIGH YEHdNOONbPLACE OF SAJDAH",
      "bEMPTY CENTRE LOW STOPdHIGH STOPbROUNDED HIGH STOP WITH FILLED CENTREbSMALL LOW MEEM",
      "bLETTER DAL WITH INVERTED VcREH WITH INVERTED VaEXTENDED ARABIC-INDIC DIGIT ZEROdONEdTWO",
      "dTHREEdFOURdFIVEdSIXdSEVENdEIGHTdNINEaARABIC LETTER SHEEN WITH DOT BELOWcDAD WITH DOT BELOW",
      "cGHAIN WITH DOT BELOWbSIGN SINDHI AMPERSANDdPOSTPOSITION MENbLETTER HEH WITH INVERTED V",
      "aSYRIAC END OF PARAGRAPHbSUPRALINEAR FULL STOPbSUBLINEAR FULL STOPbSUPRALINEAR COLON",
      "bSUBLINEAR COLONbHORIZONTAL COLONbCOLON SKEWED LEFTdRIGHTbSUPRALINEAR COLON SKEWED LEFT",
      "bSUBLINEAR COLON SKEWED RIGHTbCONTRACTIONbHARKLEAN OBELUScMETOBELUScASTERISCUS"]),
    (0x70F, ["SYRIAC ABBREVIATION MARKbLETTER ALAPHcSUPERSCRIPT ALAPHcBETHcGAMALdGARSHUNIcDALATH",
      "cDOTLESS DALATH RISHcHEcWAWcZAINcHETHcTETHdGARSHUNIcYUDHdHEcKAPHcLAMADHcMIMcNUNcSEMKATH",
      "cFINAL SEMKATHcEcPEcREVERSED PEcSADHEcQAPHcRISHcSHINcTAWcPERSIAN BHETHdGHAMALdDHALATH",
      "bPTHAHA ABOVEcBELOWcDOTTEDbZQAPHA ABOVEcBELOWcDOTTEDbRBASA ABOVEcBELOW",
      "bDOTTED ZLAMA HORIZONTALdANGULARbHBASA ABOVEcBELOWbHBASA-ESASA DOTTEDbESASA ABOVEcBELOW",
      "bRWAHAbFEMININE DOTbQUSHSHAYAbRUKKAKHAbTWO VERTICAL DOTS ABOVEeBELOWbTHREE DOTS ABOVEdBELOW",
      "bOBLIQUE LINE ABOVEdBELOWbMUSICbBARREKH"]),
    (0x74D, ["SYRIAC LETTER SOGDIAN ZHAINdKHAPHdFE",
      "aARABIC LETTER BEH WITH THREE DOTS HORIZONTALLY BELOWeDOT BELOW AND THREE DOTS ABOVE",
      "eTHREE DOTS POINTING UPWARDS BELOWjAND TWO DOTS ABOVEeTWO DOTS BELOW AND DOT ABOVE",
      "eINVERTED SMALL V BELOWeSMALL VcHAH WITH TWO DOTS ABOVEeTHREE DOTS POINTING UPWARDS BELOW",
      "cDAL WITH TWO DOTS VERTICALLY BELOW AND SMALL TAHeINVERTED SMALL V BELOWcREH WITH STROKE",
      "cSEEN WITH FOUR DOTS ABOVEcAIN WITH TWO DOTS ABOVEeTHREE DOTS POINTING DOWNWARDS ABOVE",
      "eTWO DOTS VERTICALLY ABOVEcFEH WITH TWO DOTS BELOWeTHREE DOTS POINTING UPWARDS BELOW",
      "cKEHEH WITH DOT ABOVEeTHREE DOTS ABOVEgPOINTING UPWARDS BELOWcMEEM WITH DOT ABOVEfBELOW",
      "cNOON WITH TWO DOTS BELOWeSMALL TAHfVcLAM WITH BARcREH WITH TWO DOTS VERTICALLY ABOVE",
      "eHAMZA ABOVEcSEEN WITH TWO DOTS VERTICALLY ABOVEcHAH WITH SMALL ARABIC LETTER TAH BELOW",
      "iAND TWO DOTScSEEN WITH SMALL ARABIC LETTER TAH AND TWO DOTS",
      "cREH WITH SMALL ARABIC LETTER TAH AND TWO DOTScHAH WITH SMALL ARABIC LETTER TAH ABOVE",
      "cALEF WITH EXTENDED ARABIC-INDIC DIGIT TWO ABOVEhTHREE ABOVE",
      "cFARSI YEH WITH EXTENDED ARABIC-INDIC DIGIT TWO ABOVEiTHREE ABOVEiFOUR BELOW",
      "cWAW WITH EXTENDED ARABIC-INDIC DIGIT TWO ABOVEhTHREE ABOVE",
      "cYEH BARREE WITH EXTENDED ARABIC-INDIC DIGIT TWO ABOVEiTHREE ABOVE",
      "cHAH WITH EXTENDED ARABIC-INDIC DIGIT FOUR BELOW",
      "cSEEN WITH EXTENDED ARABIC-INDIC DIGIT FOUR ABOVEeINVERTED VcKAF WITH TWO DOTS ABOVE",
      "aTHAANA LETTER HAAcSHAVIYANIcNOONUcRAAcBAAcLHAVIYANIcKAAFUcALIFUcVAAVUcMEEMUcFAAFUcDHAALU",
      "cTHAAcLAAMUcGAAFUcGNAVIYANIcSEENUcDAVIYANIcZAVIYANIcTAVIYANIcYAAcPAVIYANIcJAVIYANI",
      "cCHAVIYANIcTTAAcHHAAcKHAAcTHAALUcZAAcSHEENUcSAADHUcDAADHUcTOcZOcAINUcGHAINUcQAAFUcWAAVU",
      "bABAFILIbAABAAFILIbIBIFILIbEEBEEFILIbUBUFILIbOOBOOFILIbEBEFILIbEYBEYFILIbOBOFILIbOABOAFILI",
      "bSUKUNbLETTER NAA"]),
    (0x7C0, ["NKO DIGIT ZEROcONEcTWOcTHREEcFOURcFIVEcSIXcSEVENcEIGHTcNINEbLETTER AcEEcIcEcUcOOcO",
      "cDAGBASINNAcNcBAcPAcTAcJAcCHAcDAcRAcRRAcSAcGBAcFAcKAcLAcNA WOLOSOcMAcNYAcNAcHAcWAcYA",
      "cNYA WOLOSOcJONA JAdCHAdRAbCOMBINING SHORT HIGH TONEdLOW TONEdRISING TONE",
      "cLONG DESCENDING TONEdHIGH TONEdLOW TONEdRISING TONEcNASALIZATION MARKcDOUBLE DOT ABOVE",
      "bHIGH TONE APOSTROPHEbLOW TONE APOSTROPHEbSYMBOL OO DENNENcGBAKURUNENbCOMMA",
      "bEXCLAMATION MARKbLAJANYALAN"]),
    (0x7FD, ["NKO DANTAYALANbDOROME SIGNbTAMAN SIGNaSAMARITAN LETTER ALAFcBITcGAMANcDALATcIYcBAA",
      "cZENcITcTITcYUTcKAAFcLABATcMIMcNUNcSINGAATcINcFIcTSAADIYcQUFcRISHcSHANcTAAFbMARK INcIN-ALAF",
      "cOCCLUSIONcDAGESHbMODIFIER LETTER EPENTHETIC YUTbMARK EPENTHETIC YUTbVOWEL SIGN LONG EdE",
      "dOVERLONG AAdLONG AAdAAdOVERLONG AdLONG AdAbMODIFIER LETTER SHORT AbVOWEL SIGN SHORT A",
      "dLONG UdUbMODIFIER LETTER IbVOWEL SIGN LONG IdIdOdSUKUNbMARK NEQUDAA"]),
    (0x830, ["SAMARITAN PUNCTUATION NEQUDAAcAFSAAQcANGEDcBAUcATMAAUcSHIYYAALAAbABBREVIATION MARK",
      "bPUNCTUATION MELODIC QITSAcZIQAAcQITSAcZAEFcTURUcARKAANUcSOF MASHFAATcANNAAU"]),
    (0x840, ["MANDAIC LETTER HALQAcABcAGcADcAHcUSHENNAcAZcITcATTcAKSAcAKcALcAMcANcAScINcAPcASZcAQ",
      "cARcASHcATcDUSHENNAcKADcAINbAFFRICATION MARKbVOCALIZATION MARKbGEMINATION MARK"]),
    (0x85E, ["MANDAIC PUNCTUATION"]),
    (0x860, ["SYRIAC LETTER MALAYALAM NGAdJAdNYAdTTAdNNAdNNNAdBHAdRAdLLAdLLLAdSSA"]),
    (0x870, ["ARABIC LETTER ALEF WITH ATTACHED FATHAfTOP RIGHT FATHAeRIGHT MIDDLE STROKE",
      "eLEFT MIDDLE STROKEeATTACHED KASRAfBOTTOM RIGHT KASRAfROUND DOT ABOVEfRIGHT ROUND DOT",
      "fLEFT ROUND DOTfROUND DOT BELOWeDOT ABOVEeATTACHED TOP RIGHT FATHA AND DOT ABOVE",
      "eRIGHT MIDDLE STROKE AND DOT ABOVEeATTACHED BOTTOM RIGHT KASRA AND DOT ABOVE",
      "fTOP RIGHT FATHA AND LEFT RINGeRIGHT MIDDLE STROKE AND LEFT RING",
      "eATTACHED BOTTOM RIGHT KASRA AND LEFT RINGfRIGHT HAMZAfLEFT HAMZA",
      "bTATWEEL WITH OVERSTRUCK HAMZAeWAWdTWO DOTS BELOWbLETTER THIN YEHbBASELINE ROUND DOT",
      "bRAISED ROUND DOTbLETTER NOON WITH INVERTED SMALL VcHAH WITH INVERTED SMALL V BELOW",
      "cTAH WITH DOT BELOWeTHREE DOTS BELOWcKEHEH WITH TWO DOTS VERTICALLY BELOWbVERTICAL TAIL"]),
    (0x890, ["ARABIC POUND MARK ABOVEbPIASTRE MARK ABOVE"]),
    (0x898, ["ARABIC SMALL HIGH WORD AL-JUZcLOW WORD ISHMAAMeIMAALAeTASHEELbMADDA WAAJIB",
      "bSUPERSCRIPT ALEF MOKHASSASbDOUBLED MADDAbHALF MADDA OVER MADDA",
      "bLETTER BEH WITH SMALL V BELOWeHAMZA ABOVEcJEEM WITH TWO DOTS ABOVEcTAH WITH TWO DOTS ABOVE",
      "cFEH WITH DOT BELOW AND THREE DOTS ABOVEcQAF WITH DOT BELOWcLAM WITH DOUBLE BAR",
      "cMEEM WITH THREE DOTS ABOVEcYEH WITH TWO DOTS BELOW AND HAMZA ABOVEiDOT ABOVEcREH WITH LOOP",
      "cWAW WITH DOT WITHINcROHINGYA YEHcLOW ALEFcDAL WITH THREE DOTS BELOW",
      "cSAD WITH THREE DOTS BELOWcGAF WITH INVERTED STROKEcSTRAIGHT WAWcZAIN WITH INVERTED V ABOVE",
      "cAIN WITH THREE DOTS BELOWcKAF WITH DOT BELOWcQAF WITH DOT BELOW AND NO DOTS ABOVE",
      "cBEH WITH SMALL MEEM ABOVEcPEH WITH SMALL MEEM ABOVEcTEH WITH SMALL TEH ABOVE",
      "cREH WITH SMALL NOON ABOVEcYEH WITH TWO DOTS BELOW AND SMALL NOON ABOVEcAFRICAN FEHdQAF",
      "dNOONcPEH WITH SMALL VcTEH WITH SMALL VcTTEH WITH SMALL VcTCHEH WITH SMALL V",
      "cKEHEH WITH SMALL VcGHAIN WITH THREE DOTS ABOVEcAFRICAN QAF WITH THREE DOTS ABOVE",
      "cJEEM WITH THREE DOTS ABOVEgBELOWcLAM WITH SMALL ARABIC LETTER TAH ABOVEcGRAF",
      "bSMALL FARSI YEHcHIGH FARSI YEHdYEH BARREE WITH TWO DOTS BELOWdWORD SAHdZAH",
      "bLARGE ROUND DOT ABOVEeBELOWbSUKUN BELOWbLARGE CIRCLE BELOWcROUND DOT INSIDE CIRCLE BELOW",
      "bSMALL LOW WAWcHIGH WORD AR-RUBdSADdAINdQAFdNOON WITH KASRAcLOW NOON WITH KASRA",
      "cHIGH WORD ATH-THALATHAeAS-SAJDAeAN-NISFeSAKTAeQIFeWAQFAdFOOTNOTE MARKERdSIGN SAFHA",
      "bDISPUTED END OF AYAHbTURNED DAMMA BELOWbCURLY FATHAcDAMMAcKASRAcFATHATANcDAMMATANcKASRATAN",
      "bTONE ONE DOT ABOVEcTWO DOTS ABOVEcLOOP ABOVEcONE DOT BELOWcTWO DOTS BELOWcLOOP BELOW",
      "bOPEN FATHATANcDAMMATANcKASRATANbSMALL HIGH WAWbFATHA WITH RINGdDOT ABOVE",
      "bKASRA WITH DOT BELOWbLEFT ARROWHEAD ABOVEbRIGHT ARROWHEAD ABOVEbLEFT ARROWHEAD BELOW",
      "bRIGHT ARROWHEAD BELOWbDOUBLE RIGHT ARROWHEAD ABOVEfWITH DOTbRIGHT ARROWHEAD ABOVE WITH DOT",
      "bDAMMA WITH DOTbMARK SIDEWAYS NOON GHUNNAaDEVANAGARI SIGN INVERTED CANDRABINDUcCANDRABINDU",
      "cANUSVARAcVISARGAbLETTER SHORT AcAcAAcIcIIcUcUUcVOCALIC RdLcCANDRA EcSHORT EcEcAIcCANDRA O",
      "cSHORT OcOcAUcKAcKHAcGAcGHAcNGAcCAcCHAcJAcJHAcNYAcTTAcTTHAcDDAcDDHAcNNAcTAcTHAcDAcDHAcNA",
      "cNNNAcPAcPHAcBAcBHAcMAcYAcRAcRRAcLAcLLAcLLLAcVAcSHAcSSAcSAcHAbVOWEL SIGN OEdOOEbSIGN NUKTA",
      "cAVAGRAHAbVOWEL SIGN AAdIdIIdUdUUdVOCALIC ReRRdCANDRA EdSHORT EdEdAIdCANDRA OdSHORT OdOdAU",
      "bSIGN VIRAMAbVOWEL SIGN PRISHTHAMATRA EdAWbOMbSTRESS SIGN UDATTAdANUDATTAbGRAVE ACCENT",
      "bACUTE ACCENTbVOWEL SIGN CANDRA LONG EdUEdUUEbLETTER QAcKHHAcGHHAcZAcDDDHAcRHAcFAcYYA",
      "cVOCALIC RRdLLbVOWEL SIGN VOCALIC LeLLbDANDAbDOUBLE DANDAbDIGIT ZEROcONEcTWOcTHREEcFOUR",
      "cFIVEcSIXcSEVENcEIGHTcNINEbABBREVIATION SIGNbSIGN HIGH SPACING DOTbLETTER CANDRA AcOEcOOE",
      "cAWcUEcUUEcMARWARI DDAcZHAcHEAVY YAcGGAcJJAcGLOTTAL STOPcDDDAcBBAaBENGALI ANJI",
      "bSIGN CANDRABINDUcANUSVARAcVISARGA"]),
    (0x985, ["BENGALI LETTER AcAAcIcIIcUcUUcVOCALIC RdL"]),
    (0x98F, ["BENGALI LETTER EcAI"]),
    (0x993, ["BENGALI LETTER OcAUcKAcKHAcGAcGHAcNGAcCAcCHAcJAcJHAcNYAcTTAcTTHAcDDAcDDHAcNNAcTAcTHA",
      "cDAcDHAcNA"]),
    (0x9AA, ["BENGALI LETTER PAcPHAcBAcBHAcMAcYAcRA"]),
    (0x9B2, ["BENGALI LETTER LA"]),
    (0x9B6, ["BENGALI LETTER SHAcSSAcSAcHA"]),
    (0x9BC, ["BENGALI SIGN NUKTAcAVAGRAHAbVOWEL SIGN AAdIdIIdUdUUdVOCALIC ReRR"]),
    (0x9C7, ["BENGALI VOWEL SIGN EdAI"]),
    (0x9CB, ["BENGALI VOWEL SIGN OdAUbSIGN VIRAMAbLETTER KHANDA TA"]),
    (0x9D7, ["BENGALI AU LENGTH MARK"]),
    (0x9DC, ["BENGALI LETTER RRAcRHA"]),
    (0x9DF, ["BENGALI LETTER YYAcVOCALIC RRdLLbVOWEL SIGN VOCALIC LeLL"]),
    (0x9E6, ["BENGALI DIGIT ZEROcONEcTWOcTHREEcFOURcFIVEcSIXcSEVENcEIGHTcNINE",
      "bLETTER RA WITH MIDDLE DIAGONALeLOWER DIAGONALbRUPEE MARKcSIGNbCURRENCY NUMERATOR ONEdTWO",
      "dTHREEdFOURdONE LESS THAN THE DENOMINATORcDENOMINATOR SIXTEENbISSHARbGANDA MARK",
      "bLETTER VEDIC ANUSVARAbABBREVIATION SIGNbSANDHI MARK"]),
    (0xA01, ["GURMUKHI SIGN ADAK BINDIcBINDIcVISARGA"]),
    (0xA05, ["GURMUKHI LETTER AcAAcIcIIcUcUU"]),
    (0xA0F, ["GURMUKHI LETTER EEcAI"]),
    (0xA13, ["GURMUKHI LETTER OOcAUcKAcKHAcGAcGHAcNGAcCAcCHAcJAcJHAcNYAcTTAcTTHAcDDAcDDHAcNNAcTA",
      "cTHAcDAcDHAcNA"]),
    (0xA2A, ["GURMUKHI LETTER PAcPHAcBAcBHAcMAcYAcRA"]),
    (0xA32, ["GURMUKHI LETTER LAcLLA"]),
    (0xA35, ["GURMUKHI LETTER VAcSHA"]),
    (0xA38, ["GURMUKHI LETTER SAcHA"]),
    (0xA3C, ["GURMUKHI SIGN NUKTA"]),
    (0xA3E, ["GURMUKHI VOWEL SIGN AAdIdIIdUdUU"]),
    (0xA47, ["GURMUKHI VOWEL SIGN EEdAI"]),
    (0xA4B, ["GURMUKHI VOWEL SIGN OOdAUbSIGN VIRAMA"]),
    (0xA51, ["GURMUKHI SIGN UDAAT"]),
    (0xA59, ["GURMUKHI LETTER KHHAcGHHAcZAcRRA"]),
    (0xA5E, ["GURMUKHI LETTER FA"]),
    (0xA66, ["GURMUKHI DIGIT ZEROcONEcTWOcTHREEcFOURcFIVEcSIXcSEVENcEIGHTcNINEbTIPPIbADDAKbIRIbURA",
      "bEK ONKARbSIGN YAKASHbABBREVIATION SIGN"]),
    (0xA81, ["GUJARATI SIGN CANDRABINDUcANUSVARAcVISARGA"]),
    (0xA85, ["GUJARATI LETTER AcAAcIcIIcUcUUcVOCALIC RdLbVOWEL CANDRA E"]),
    (0xA8F, ["GUJARATI LETTER EcAIbVOWEL CANDRA O"]),
    (0xA93, ["GUJARATI LETTER OcAUcKAcKHAcGAcGHAcNGAcCAcCHAcJAcJHAcNYAcTTAcTTHAcDDAcDDHAcNNAcTA",
      "cTHAcDAcDHAcNA"]),
    (0xAAA, ["GUJARATI LETTER PAcPHAcBAcBHAcMAcYAcRA"]),
    (0xAB2, ["GUJARATI LETTER LAcLLA"]),
    (0xAB5, ["GUJARATI LETTER VAcSHAcSSAcSAcHA"]),
    (0xABC, ["GUJARATI SIGN NUKTAcAVAGRAHAbVOWEL SIGN AAdIdIIdUdUUdVOCALIC ReRRdCANDRA E"]),
    (0xAC7, ["GUJARATI VOWEL SIGN EdAIdCANDRA O"]),
    (0xACB, ["GUJARATI VOWEL SIGN OdAUbSIGN VIRAMA"]),
    (0xAD0, ["GUJARATI OM"]),
    (0xAE0, ["GUJARATI LETTER VOCALIC RRdLLbVOWEL SIGN VOCALIC LeLL"]),
    (0xAE6, ["GUJARATI DIGIT ZEROcONEcTWOcTHREEcFOURcFIVEcSIXcSEVENcEIGHTcNINEbABBREVIATION SIGN",
      "bRUPEE SIGN"]),
    (0xAF9, ["GUJARATI LETTER ZHAbSIGN SUKUNcSHADDAcMADDAHcTHREE-DOT NUKTA ABOVE",
      "cCIRCLE NUKTA ABOVEcTWO-CIRCLE NUKTA ABOVE"]),
    (0xB01, ["ORIYA SIGN CANDRABINDUcANUSVARAcVISARGA"]),
    (0xB05, ["ORIYA LETTER AcAAcIcIIcUcUUcVOCALIC RdL"]),
    (0xB0F, ["ORIYA LETTER EcAI"]),
    (0xB13, ["ORIYA LETTER OcAUcKAcKHAcGAcGHAcNGAcCAcCHAcJAcJHAcNYAcTTAcTTHAcDDAcDDHAcNNAcTAcTHA",
      "cDAcDHAcNA"]),
    (0xB2A, ["ORIYA LETTER PAcPHAcBAcBHAcMAcYAcRA"]),
    (0xB32, ["ORIYA LETTER LAcLLA"]),
    (0xB35, ["ORIYA LETTER VAcSHAcSSAcSAcHA"]),
    (0xB3C, ["ORIYA SIGN NUKTAcAVAGRAHAbVOWEL SIGN AAdIdIIdUdUUdVOCALIC ReRR"]),
    (0xB47, ["ORIYA VOWEL SIGN EdAI"]),
    (0xB4B, ["ORIYA VOWEL SIGN OdAUbSIGN VIRAMA"]),
    (0xB55, ["ORIYA SIGN OVERLINEbAI LENGTH MARKbAU LENGTH MARK"]),
    (0xB5C, ["ORIYA LETTER RRAcRHA"]),
    (0xB5F, ["ORIYA LETTER YYAcVOCALIC RRdLLbVOWEL SIGN VOCALIC LeLL"]),
    (0xB66, ["ORIYA DIGIT ZEROcONEcTWOcTHREEcFOURcFIVEcSIXcSEVENcEIGHTcNINEbISSHARbLETTER WA",
      "bFRACTION ONE QUARTERdHALFcTHREE QUARTERScONE SIXTEENTHdEIGHTHcTHREE SIXTEENTHS"]),
    (0xB82, ["TAMIL SIGN ANUSVARAcVISARGA"]),
    (0xB85, ["TAMIL LETTER AcAAcIcIIcUcUU"]),
    (0xB8E, ["TAMIL LETTER EcEEcAI"]),
    (0xB92, ["TAMIL LETTER OcOOcAUcKA"]),
    (0xB99, ["TAMIL LETTER NGAcCA"]),
    (0xB9C, ["TAMIL LETTER JA"]),
    (0xB9E, ["TAMIL LETTER NYAcTTA"]),
    (0xBA3, ["TAMIL LETTER NNAcTA"]),
    (0xBA8, ["TAMIL LETTER NAcNNNAcPA"]),
    (0xBAE, ["TAMIL LETTER MAcYAcRAcRRAcLAcLLAcLLLAcVAcSHAcSSAcSAcHA"]),
    (0xBBE, ["TAMIL VOWEL SIGN AAdIdIIdUdUU"]),
    (0xBC6, ["TAMIL VOWEL SIGN EdEEdAI"]),
    (0xBCA, ["TAMIL VOWEL SIGN OdOOdAUbSIGN VIRAMA"]),
    (0xBD0, ["TAMIL OM"]),
    (0xBD7, ["TAMIL AU LENGTH MARK"]),
    (0xBE6, ["TAMIL DIGIT ZEROcONEcTWOcTHREEcFOURcFIVEcSIXcSEVENcEIGHTcNINEbNUMBER TENcONE HUNDRED",
      "dTHOUSANDbDAY SIGNbMONTH SIGNbYEAR SIGNbDEBIT SIGNbCREDIT SIGNbAS ABOVE SIGNbRUPEE SIGN",
      "bNUMBER SIGN"]),
    (0xC00, ["TELUGU SIGN COMBINING CANDRABINDU ABOVEcCANDRABINDUcANUSVARAcVISARGA",
      "cCOMBINING ANUSVARA ABOVEbLETTER AcAAcIcIIcUcUUcVOCALIC RdL"]),
    (0xC0E, ["TELUGU LETTER EcEEcAI"]),
    (0xC12, ["TELUGU LETTER OcOOcAUcKAcKHAcGAcGHAcNGAcCAcCHAcJAcJHAcNYAcTTAcTTHAcDDAcDDHAcNNAcTA",
      "cTHAcDAcDHAcNA"]),
    (0xC2A, ["TELUGU LETTER PAcPHAcBAcBHAcMAcYAcRAcRRAcLAcLLAcLLLAcVAcSHAcSSAcSAcHA"]),
    (0xC3C, ["TELUGU SIGN NUKTAcAVAGRAHAbVOWEL SIGN AAdIdIIdUdUUdVOCALIC ReRR"]),
    (0xC46, ["TELUGU VOWEL SIGN EdEEdAI"]),
    (0xC4A, ["TELUGU VOWEL SIGN OdOOdAUbSIGN VIRAMA"]),
    (0xC55, ["TELUGU LENGTH MARKbAI LENGTH MARK"]),
    (0xC58, ["TELUGU LETTER TSAcDZAcRRRA"]),
    (0xC5D, ["TELUGU LETTER NAKAARA POLLU"]),
    (0xC60, ["TELUGU LETTER VOCALIC RRdLLbVOWEL SIGN VOCALIC LeLL"]),
    (0xC66, ["TELUGU DIGIT ZEROcONEcTWOcTHREEcFOURcFIVEcSIXcSEVENcEIGHTcNINE"]),
    (0xC77, ["TELUGU SIGN SIDDHAMbFRACTION DIGIT ZERO FOR ODD POWERS OF FOUR",
      "dONE FOR ODD POWERS OF FOURdTWO FOR ODD POWERS OF FOURdTHREE FOR ODD POWERS OF FOUR",
      "dONE FOR EVEN POWERS OF FOURdTWO FOR EVEN POWERS OF FOURdTHREE FOR EVEN POWERS OF FOUR",
      "bSIGN TUUMUaKANNADA SIGN SPACING CANDRABINDUcCANDRABINDUcANUSVARAcVISARGAcSIDDHAMbLETTER A",
      "cAAcIcIIcUcUUcVOCALIC RdL"]),
    (0xC8E, ["KANNADA LETTER EcEEcAI"]),
    (0xC92, ["KANNADA LETTER OcOOcAUcKAcKHAcGAcGHAcNGAcCAcCHAcJAcJHAcNYAcTTAcTTHAcDDAcDDHAcNNAcTA",
      "cTHAcDAcDHAcNA"]),
    (0xCAA, ["KANNADA LETTER PAcPHAcBAcBHAcMAcYAcRAcRRAcLAcLLA"]),
    (0xCB5, ["KANNADA LETTER VAcSHAcSSAcSAcHA"]),
    (0xCBC, ["KANNADA SIGN NUKTAcAVAGRAHAbVOWEL SIGN AAdIdIIdUdUUdVOCALIC ReRR"]),
    (0xCC6, ["KANNADA VOWEL SIGN EdEEdAI"]),
    (0xCCA, ["KANNADA VOWEL SIGN OdOOdAUbSIGN VIRAMA"]),
    (0xCD5, ["KANNADA LENGTH MARKbAI LENGTH MARK"]),
    (0xCDD, ["KANNADA LETTER NAKAARA POLLUcFA"]),
    (0xCE0, ["KANNADA LETTER VOCALIC RRdLLbVOWEL SIGN VOCALIC LeLL"]),
    (0xCE6, ["KANNADA DIGIT ZEROcONEcTWOcTHREEcFOURcFIVEcSIXcSEVENcEIGHTcNINE"]),
    (0xCF1, ["KANNADA SIGN JIHVAMULIYAcUPADHMANIYA"]),
    (0xD00, ["MALAYALAM SIGN COMBINING ANUSVARA ABOVEcCANDRABINDUcANUSVARAcVISARGA",
      "bLETTER VEDIC ANUSVARAcAcAAcIcIIcUcUUcVOCALIC RdL"]),
    (0xD0E, ["MALAYALAM LETTER EcEEcAI"]),
    (0xD12, ["MALAYALAM LETTER OcOOcAUcKAcKHAcGAcGHAcNGAcCAcCHAcJAcJHAcNYAcTTAcTTHAcDDAcDDHAcNNA",
      "cTAcTHAcDAcDHAcNAcNNNAcPAcPHAcBAcBHAcMAcYAcRAcRRAcLAcLLAcLLLAcVAcSHAcSSAcSAcHAcTTTA",
      "bSIGN VERTICAL BAR VIRAMAcCIRCULAR VIRAMAcAVAGRAHAbVOWEL SIGN AAdIdIIdUdUUdVOCALIC ReRR"]),
    (0xD46, ["MALAYALAM VOWEL SIGN EdEEdAI"]),
    (0xD4A, ["MALAYALAM VOWEL SIGN OdOOdAUbSIGN VIRAMAbLETTER DOT REPHbSIGN PARA"]),
    (0xD54, ["MALAYALAM LETTER CHILLU MdYdLLLbAU LENGTH MARKbFRACTION ONE ONE-HUNDRED-AND-SIXTIETH",
      "dFORTIETHcTHREE EIGHTIETHScONE TWENTIETHdTENTHcTHREE TWENTIETHScONE FIFTHbLETTER ARCHAIC II",
      "cVOCALIC RRdLLbVOWEL SIGN VOCALIC LeLL"]),
    (0xD66, ["MALAYALAM DIGIT ZEROcONEcTWOcTHREEcFOURcFIVEcSIXcSEVENcEIGHTcNINEbNUMBER TEN",
      "cONE HUNDREDdTHOUSANDbFRACTION ONE QUARTERdHALFcTHREE QUARTERScONE SIXTEENTHdEIGHTH",
      "cTHREE SIXTEENTHSbDATE MARKbLETTER CHILLU NNdNdRRdLdLLdK"]),
    (0xD81, ["SINHALA SIGN CANDRABINDUcANUSVARAYAcVISARGAYA"]),
    (0xD85, ["SINHALA LETTER AYANNAcAAYANNAcAEYANNAcAEEYANNAcIYANNAcIIYANNAcUYANNAcUUYANNA",
      "cIRUYANNAcIRUUYANNAcILUYANNAcILUUYANNAcEYANNAcEEYANNAcAIYANNAcOYANNAcOOYANNAcAUYANNA"]),
    (0xD9A, ["SINHALA LETTER ALPAPRAANA KAYANNAcMAHAAPRAANA KAYANNAcALPAPRAANA GAYANNA",
      "cMAHAAPRAANA GAYANNAcKANTAJA NAASIKYAYAcSANYAKA GAYANNAcALPAPRAANA CAYANNA",
      "cMAHAAPRAANA CAYANNAcALPAPRAANA JAYANNAcMAHAAPRAANA JAYANNAcTAALUJA NAASIKYAYA",
      "dSANYOOGA NAAKSIKYAYAcSANYAKA JAYANNAcALPAPRAANA TTAYANNAcMAHAAPRAANA TTAYANNA",
      "cALPAPRAANA DDAYANNAcMAHAAPRAANA DDAYANNAcMUURDHAJA NAYANNAcSANYAKA DDAYANNA",
      "cALPAPRAANA TAYANNAcMAHAAPRAANA TAYANNAcALPAPRAANA DAYANNAcMAHAAPRAANA DAYANNA",
      "cDANTAJA NAYANNA"]),
    (0xDB3, ["SINHALA LETTER SANYAKA DAYANNAcALPAPRAANA PAYANNAcMAHAAPRAANA PAYANNA",
      "cALPAPRAANA BAYANNAcMAHAAPRAANA BAYANNAcMAYANNAcAMBA BAYANNAcYAYANNAcRAYANNA"]),
    (0xDBD, ["SINHALA LETTER DANTAJA LAYANNA"]),
    (0xDC0, ["SINHALA LETTER VAYANNAcTAALUJA SAYANNAcMUURDHAJA SAYANNAcDANTAJA SAYANNAcHAYANNA",
      "cMUURDHAJA LAYANNAcFAYANNA"]),
    (0xDCA, ["SINHALA SIGN AL-LAKUNA"]),
    (0xDCF, ["SINHALA VOWEL SIGN AELA-PILLAdKETTI AEDA-PILLAdDIGA AEDA-PILLAdKETTI IS-PILLA",
      "dDIGA IS-PILLAdKETTI PAA-PILLA"]),
    (0xDD6, ["SINHALA VOWEL SIGN DIGA PAA-PILLA"]),
    (0xDD8, ["SINHALA VOWEL SIGN GAETTA-PILLAdKOMBUVAdDIGA KOMBUVAdKOMBU DEKA",
      "dKOMBUVA HAA AELA-PILLAfDIGA AELA-PILLAfGAYANUKITTAdGAYANUKITTA"]),
    (0xDE6, ["SINHALA LITH DIGIT ZEROdONEdTWOdTHREEdFOURdFIVEdSIXdSEVENdEIGHTdNINE"]),
    (0xDF2, ["SINHALA VOWEL SIGN DIGA GAETTA-PILLAeGAYANUKITTAbPUNCTUATION KUNDDALIYA"]),
    (0xE01, ["THAI CHARACTER KO KAIcKHO KHAIdKHUATdKHWAIdKHONdRAKHANGcNGO NGUcCHO CHANdCHINGdCHANG",
      "cSO SOcCHO CHOEcYO YINGcDO CHADAcTO PATAKcTHO THANdNANGMONTHOdPHUTHAOcNO NENcDO DEKcTO TAO",
      "cTHO THUNGdTHAHANdTHONGcNO NUcBO BAIMAIcPO PLAcPHO PHUNGcFO FAcPHO PHANcFO FANcPHO SAMPHAO",
      "cMO MAcYO YAKcRO RUAcRUcLO LINGcLUcWO WAENcSO SALAdRUSIdSUAcHO HIPcLO CHULAcO ANGcHO NOKHUK",
      "cPAIYANNOIcSARA AcMAI HAN-AKATcSARA AAdAMdIdIIdUEdUEEdUdUUcPHINTHU"]),
    (0xE3F, ["THAI CURRENCY SYMBOL BAHTbCHARACTER SARA EdAEdOdAI MAIMUANeMAIMALAIcLAKKHANGYAO",
      "cMAIYAMOKcMAITAIKHUcMAI EKdTHOdTRIdCHATTAWAcTHANTHAKHATcNIKHAHITcYAMAKKANcFONGMAN",
      "bDIGIT ZEROcONEcTWOcTHREEcFOURcFIVEcSIXcSEVENcEIGHTcNINEbCHARACTER ANGKHANKHUcKHOMUT"]),
    (0xE81, ["LAO LETTER KOcKHO SUNG"]),
    (0xE84, ["LAO LETTER KHO TAM"]),
    (0xE86, ["LAO LETTER PALI GHAcNGOcCOcPALI CHAcSO TAM"]),
    (0xE8C, ["LAO LETTER PALI JHAcNYOcPALI NYAdTTAdTTHAdDDAdDDHAdNNAcDOcTOcTHO SUNGdTAMcPALI DHA",
      "cNOcBOcPOcPHO SUNGcFO TAMcPHO TAMcFO SUNGcPALI BHAcMOcYOcLO LING"]),
    (0xEA5, ["LAO LETTER LO LOOT"]),
    (0xEA7, ["LAO LETTER WOcSANSKRIT SHAdSSAcSO SUNGcHO SUNGcPALI LLAcOcHO TAMbELLIPSIS",
      "bVOWEL SIGN AdMAI KANdAAdAMdIdIIdYdYYdUdUUbSIGN PALI VIRAMAbVOWEL SIGN MAI KON",
      "bSEMIVOWEL SIGN LOdNYO"]),
    (0xEC0, ["LAO VOWEL SIGN EdEIdOdAYdAI"]),
    (0xEC6, ["LAO KO LA"]),
    (0xEC8, ["LAO TONE MAI EKdTHOdTIdCATAWAbCANCELLATION MARKbNIGGAHITA"]),
    (0xED0, ["LAO DIGIT ZEROcONEcTWOcTHREEcFOURcFIVEcSIXcSEVENcEIGHTcNINE"]),
    (0xEDC, ["LAO HO NOcMObLETTER KHMU GOdNYO"]),
    (0xF00, ["TIBETAN SYLLABLE OMbMARK GTER YIG MGO TRUNCATED Af-UM RNAM BCAD MAgGTER TSHEG MA",
      "cINITIAL YIG MGO MDUN MAcCLOSING YIG MGO SGAB MAcCARET YIG MGO PHUR SHAD MA",
      "cYIG MGO TSHEG SHAD MAcSBRUL SHADcBSKUR YIG MGOcBKA- SHOG YIG MGOcINTERSYLLABIC TSHEG",
      "cDELIMITER TSHEG BSTARcSHADcNYIS SHADcTSHEG SHADcNYIS TSHEG SHADcRIN CHEN SPUNGS SHAD",
      "cRGYA GRAM SHADcCARET -DZUD RTAGS ME LONG CANcGTER TSHEGbLOGOTYPE SIGN CHAD RTAGS",
      "dLHAG RTAGSbASTROLOGICAL SIGN SGRA GCAN -CHAR RTAGSd-KHYUD PAdSDONG TSHUGS",
      "bSIGN RDEL DKAR GCIGeGNYISeGSUMdNAG GCIGeGNYISdDKAR RDEL NAGbDIGIT ZEROcONEcTWOcTHREEcFOUR",
      "cFIVEcSIXcSEVENcEIGHTcNINEcHALF ONEdTWOdTHREEdFOURdFIVEdSIXdSEVENdEIGHTdNINEdZERO",
      "bMARK BSDUS RTAGScNGAS BZUNG NYI ZLAcCARET -DZUD RTAGS BZHI MIG CANcNGAS BZUNG SGOR RTAGS",
      "cCHE MGOcTSA -PHRUcGUG RTAGS GYONeGYAScANG KHANG GYONeGYASbSIGN YAR TSHEScMAR TSHES",
      "bLETTER KAcKHAcGAcGHAcNGAcCAcCHAcJA"]),
    (0xF49, ["TIBETAN LETTER NYAcTTAcTTHAcDDAcDDHAcNNAcTAcTHAcDAcDHAcNAcPAcPHAcBAcBHAcMAcTSAcTSHA",
      "cDZAcDZHAcWAcZHAcZAc-AcYAcRAcLAcSHAcSSAcSAcHAcAcKSSAcFIXED-FORM RAcKKAcRRA"]),
    (0xF71, ["TIBETAN VOWEL SIGN AAdIdIIdUdUUdVOCALIC ReRReLeLLdEdEEdOdOObSIGN RJES SU NGA RO",
      "cRNAM BCADbVOWEL SIGN REVERSED IeIIbSIGN NYI ZLA NAA DAcSNA LDANbMARK HALANTAcPALUTA",
      "bSIGN LCI RTAGScYANG RTAGScLCE TSA CANcMCHU CANcGRU CAN RGYINGSdMED RGYINGS",
      "cINVERTED MCHU CANbSUBJOINED SIGN LCE TSA CANdMCHU CANdINVERTED MCHU CANcLETTER KAdKHAdGA",
      "dGHAdNGAdCAdCHAdJA"]),
    (0xF99, ["TIBETAN SUBJOINED LETTER NYAdTTAdTTHAdDDAdDDHAdNNAdTAdTHAdDAdDHAdNAdPAdPHAdBAdBHAdMA",
      "dTSAdTSHAdDZAdDZHAdWAdZHAdZAd-AdYAdRAdLAdSHAdSSAdSAdHAdAdKSSAdFIXED-FORM WAeYAeRA"]),
    (0xFBE, ["TIBETAN KU RU KHAeBZHI MIG CANbCANTILLATION SIGN HEAVY BEATdLIGHT BEATdCANG TE-U",
      "dSBUB -CHALbSYMBOL DRIL BUcRDO RJEcPADMA GDANcRDO RJE RGYA GRAMcPHUR PAcNOR BUeNYIS -KHYIL",
      "eGSUM -KHYILeBZHI -KHYIL"]),
    (0xFCE, ["TIBETAN SIGN RDEL NAG RDEL DKAReGSUMbMARK BSKA- SHOG GI MGO RGYAN",
      "cMNYAM YIG GI MGO RGYANcNYIS TSHEGcINITIAL BRDA RNYING YIG MGO MDUN MA",
      "cCLOSING BRDA RNYING YIG MGO SGAB MAaRIGHT-FACING SVASTI SIGNaLEFT-FACING SVASTI SIGN",
      "aRIGHT-FACING SVASTI SIGN WITH DOTSaLEFT-FACING SVASTI SIGN WITH DOTS",
      "aTIBETAN MARK LEADING MCHAN RTAGScTRAILING MCHAN RTAGS"]),
    (0x1000, ["MYANMAR LETTER KAcKHAcGAcGHAcNGAcCAcCHAcJAcJHAcNYAcNNYAcTTAcTTHAcDDAcDDHAcNNAcTA",
      "cTHAcDAcDHAcNAcPAcPHAcBAcBHAcMAcYAcRAcLAcWAcSAcHAcLLAcAcSHAN AcIcIIcUcUUcEcMON EcOcAU",
      "bVOWEL SIGN TALL AAdAAdIdIIdUdUUdEdAIdMON IIeOdE ABOVEbSIGN ANUSVARAcDOT BELOWcVISARGA",
      "cVIRAMAcASATbCONSONANT SIGN MEDIAL YAeRAeWAeHAbLETTER GREAT SAbDIGIT ZEROcONEcTWOcTHREE",
      "cFOURcFIVEcSIXcSEVENcEIGHTcNINEbSIGN LITTLE SECTIONcSECTIONbSYMBOL LOCATIVEcCOMPLETED",
      "cAFOREMENTIONEDcGENITIVEbLETTER SHAcSSAcVOCALIC RdRRdLdLLbVOWEL SIGN VOCALIC ReRReLeLL",
      "bLETTER MON NGAdJHAdBBAdBBEbCONSONANT SIGN MON MEDIAL NAfMAfLAbLETTER SGAW KAREN SHA",
      "bVOWEL SIGN SGAW KAREN EUbTONE MARK SGAW KAREN HATHIfKE PHObLETTER WESTERN PWO KAREN THA",
      "fPWAbVOWEL SIGN WESTERN PWO KAREN EUgUEbSIGN WESTERN PWO KAREN TONE-1fTONE-2fTONE-3fTONE-4",
      "fTONE-5bLETTER EASTERN PWO KAREN NNAfYWAfGHWAbVOWEL SIGN GEBA KAREN IdKAYAH OEeUeEE",
      "bLETTER SHAN KAdKHAdGAdCAdZAdNYAdDAdNAdPHAdFAdBAdTHAdHAbCONSONANT SIGN SHAN MEDIAL WA",
      "bVOWEL SIGN SHAN AAeEfABOVEeFINAL YbSIGN SHAN TONE-2dTONE-3dTONE-5dTONE-6dCOUNCIL TONE-2",
      "eTONE-3eEMPHATIC TONEbLETTER RUMAI PALAUNG FAbSIGN RUMAI PALAUNG TONE-5bSHAN DIGIT ZEROdONE",
      "dTWOdTHREEdFOURdFIVEdSIXdSEVENdEIGHTdNINEbSIGN KHAMTI TONE-1dTONE-3bVOWEL SIGN AITON AeAI",
      "bSYMBOL SHAN ONEdEXCLAMATIONaGEORGIAN CAPITAL LETTER ANdBANdGANdDONdENdVINdZENdTANdINdKAN",
      "dLASdMANdNARdONdPARdZHARdRAEdSANdTARdUNdPHARdKHARdGHANdQARdSHINdCHINdCANdJILdCILdCHARdXAN",
      "dJHANdHAEdHEdHIEdWEdHARdHOE"]),
    (0x10C7, ["GEORGIAN CAPITAL LETTER YN"]),
    (0x10CD, ["GEORGIAN CAPITAL LETTER AEN"]),
    (0x10D0, ["GEORGIAN LETTER ANcBANcGANcDONcENcVINcZENcTANcINcKANcLAScMANcNARcONcPARcZHARcRAE",
      "cSANcTARcUNcPHARcKHARcGHANcQARcSHINcCHINcCANcJILcCILcCHARcXANcJHANcHAEcHEcHIEcWEcHARcHOEcFI",
      "cYNcELIFIcTURNED GANcAINbPARAGRAPH SEPARATORaMODIFIER LETTER GEORGIAN NAR",
      "aGEORGIAN LETTER AENcHARD SIGNcLABIAL SIGNaHANGUL CHOSEONG KIYEOKcSSANGKIYEOKcNIEUNcTIKEUT",
      "cSSANGTIKEUTcRIEULcMIEUMcPIEUPcSSANGPIEUPcSIOScSSANGSIOScIEUNGcCIEUCcSSANGCIEUCcCHIEUCH",
      "cKHIEUKHcTHIEUTHcPHIEUPHcHIEUHcNIEUN-KIYEOKcSSANGNIEUNcNIEUN-TIKEUTcNIEUN-PIEUP",
      "cTIKEUT-KIYEOKcRIEUL-NIEUNcSSANGRIEULcRIEUL-HIEUHcKAPYEOUNRIEULcMIEUM-PIEUPcKAPYEOUNMIEUM",
      "cPIEUP-KIYEOKcPIEUP-NIEUNcPIEUP-TIKEUTcPIEUP-SIOScPIEUP-SIOS-KIYEOKcPIEUP-SIOS-TIKEUT",
      "cPIEUP-SIOS-PIEUPcPIEUP-SSANGSIOScPIEUP-SIOS-CIEUCcPIEUP-CIEUCcPIEUP-CHIEUCHcPIEUP-THIEUTH",
      "cPIEUP-PHIEUPHcKAPYEOUNPIEUPcKAPYEOUNSSANGPIEUPcSIOS-KIYEOKcSIOS-NIEUNcSIOS-TIKEUT",
      "cSIOS-RIEULcSIOS-MIEUMcSIOS-PIEUPcSIOS-PIEUP-KIYEOKcSIOS-SSANGSIOScSIOS-IEUNGcSIOS-CIEUC",
      "cSIOS-CHIEUCHcSIOS-KHIEUKHcSIOS-THIEUTHcSIOS-PHIEUPHcSIOS-HIEUHcCHITUEUMSIOS",
      "cCHITUEUMSSANGSIOScCEONGCHIEUMSIOScCEONGCHIEUMSSANGSIOScPANSIOScIEUNG-KIYEOKcIEUNG-TIKEUT",
      "cIEUNG-MIEUMcIEUNG-PIEUPcIEUNG-SIOScIEUNG-PANSIOScSSANGIEUNGcIEUNG-CIEUCcIEUNG-CHIEUCH",
      "cIEUNG-THIEUTHcIEUNG-PHIEUPHcYESIEUNGcCIEUC-IEUNGcCHITUEUMCIEUCcCHITUEUMSSANGCIEUC",
      "cCEONGCHIEUMCIEUCcCEONGCHIEUMSSANGCIEUCcCHIEUCH-KHIEUKHcCHIEUCH-HIEUHcCHITUEUMCHIEUCH",
      "cCEONGCHIEUMCHIEUCHcPHIEUPH-PIEUPcKAPYEOUNPHIEUPHcSSANGHIEUHcYEORINHIEUHcKIYEOK-TIKEUT",
      "cNIEUN-SIOScNIEUN-CIEUCcNIEUN-HIEUHcTIKEUT-RIEULcFILLERbJUNGSEONG FILLERcAcAEcYAcYAEcEOcE",
      "cYEOcYEcOcWAcWAEcOEcYOcUcWEOcWEcWIcYUcEUcYIcIcA-OcA-UcYA-OcYA-YOcEO-OcEO-UcEO-EUcYEO-O",
      "cYEO-UcO-EOcO-EcO-YEcO-OcO-UcYO-YAcYO-YAEcYO-YEOcYO-OcYO-IcU-AcU-AEcU-EO-EUcU-YEcU-UcYU-A",
      "cYU-EOcYU-EcYU-YEOcYU-YEcYU-UcYU-IcEU-UcEU-EUcYI-UcI-AcI-YAcI-OcI-UcI-EUcI-ARAEAcARAEA",
      "cARAEA-EOcARAEA-UcARAEA-IcSSANGARAEAcA-EUcYA-UcYEO-YAcO-YAcO-YAEbJONGSEONG KIYEOK",
      "cSSANGKIYEOKcKIYEOK-SIOScNIEUNcNIEUN-CIEUCcNIEUN-HIEUHcTIKEUTcRIEULcRIEUL-KIYEOK",
      "cRIEUL-MIEUMcRIEUL-PIEUPcRIEUL-SIOScRIEUL-THIEUTHcRIEUL-PHIEUPHcRIEUL-HIEUHcMIEUMcPIEUP",
      "cPIEUP-SIOScSIOScSSANGSIOScIEUNGcCIEUCcCHIEUCHcKHIEUKHcTHIEUTHcPHIEUPHcHIEUHcKIYEOK-RIEUL",
      "cKIYEOK-SIOS-KIYEOKcNIEUN-KIYEOKcNIEUN-TIKEUTcNIEUN-SIOScNIEUN-PANSIOScNIEUN-THIEUTH",
      "cTIKEUT-KIYEOKcTIKEUT-RIEULcRIEUL-KIYEOK-SIOScRIEUL-NIEUNcRIEUL-TIKEUTcRIEUL-TIKEUT-HIEUH",
      "cSSANGRIEULcRIEUL-MIEUM-KIYEOKcRIEUL-MIEUM-SIOScRIEUL-PIEUP-SIOScRIEUL-PIEUP-HIEUH",
      "cRIEUL-KAPYEOUNPIEUPcRIEUL-SSANGSIOScRIEUL-PANSIOScRIEUL-KHIEUKHcRIEUL-YEORINHIEUH",
      "cMIEUM-KIYEOKcMIEUM-RIEULcMIEUM-PIEUPcMIEUM-SIOScMIEUM-SSANGSIOScMIEUM-PANSIOS",
      "cMIEUM-CHIEUCHcMIEUM-HIEUHcKAPYEOUNMIEUMcPIEUP-RIEULcPIEUP-PHIEUPHcPIEUP-HIEUH",
      "cKAPYEOUNPIEUPcSIOS-KIYEOKcSIOS-TIKEUTcSIOS-RIEULcSIOS-PIEUPcPANSIOScIEUNG-KIYEOK",
      "cIEUNG-SSANGKIYEOKcSSANGIEUNGcIEUNG-KHIEUKHcYESIEUNGcYESIEUNG-SIOScYESIEUNG-PANSIOS",
      "cPHIEUPH-PIEUPcKAPYEOUNPHIEUPHcHIEUH-NIEUNcHIEUH-RIEULcHIEUH-MIEUMcHIEUH-PIEUPcYEORINHIEUH",
      "cKIYEOK-NIEUNcKIYEOK-PIEUPcKIYEOK-CHIEUCHcKIYEOK-KHIEUKHcKIYEOK-HIEUHcSSANGNIEUN",
      "aETHIOPIC SYLLABLE HAcHUcHIcHAAcHEEcHEcHOcHOAcLAcLUcLIcLAAcLEEcLEcLOcLWAcHHAcHHUcHHIcHHAA",
      "cHHEEcHHEcHHOcHHWAcMAcMUcMIcMAAcMEEcMEcMOcMWAcSZAcSZUcSZIcSZAAcSZEEcSZEcSZOcSZWAcRAcRUcRI",
      "cRAAcREEcREcROcRWAcSAcSUcSIcSAAcSEEcSEcSOcSWAcSHAcSHUcSHIcSHAAcSHEEcSHEcSHOcSHWAcQAcQUcQI",
      "cQAAcQEEcQEcQOcQOAcQWA"]),
    (0x124A, ["ETHIOPIC SYLLABLE QWIcQWAAcQWEEcQWE"]),
    (0x1250, ["ETHIOPIC SYLLABLE QHAcQHUcQHIcQHAAcQHEEcQHEcQHO"]),
    (0x1258, ["ETHIOPIC SYLLABLE QHWA"]),
    (0x125A, ["ETHIOPIC SYLLABLE QHWIcQHWAAcQHWEEcQHWE"]),
    (0x1260, ["ETHIOPIC SYLLABLE BAcBUcBIcBAAcBEEcBEcBOcBWAcVAcVUcVIcVAAcVEEcVEcVOcVWAcTAcTUcTI",
      "cTAAcTEEcTEcTOcTWAcCAcCUcCIcCAAcCEEcCEcCOcCWAcXAcXUcXIcXAAcXEEcXEcXOcXOAcXWA"]),
    (0x128A, ["ETHIOPIC SYLLABLE XWIcXWAAcXWEEcXWE"]),
    (0x1290, ["ETHIOPIC SYLLABLE NAcNUcNIcNAAcNEEcNEcNOcNWAcNYAcNYUcNYIcNYAAcNYEEcNYEcNYOcNYWA",
      "cGLOTTAL AdUdIdAAdEEdEdOdWAcKAcKUcKIcKAAcKEEcKEcKOcKOAcKWA"]),
    (0x12B2, ["ETHIOPIC SYLLABLE KWIcKWAAcKWEEcKWE"]),
    (0x12B8, ["ETHIOPIC SYLLABLE KXAcKXUcKXIcKXAAcKXEEcKXEcKXO"]),
    (0x12C0, ["ETHIOPIC SYLLABLE KXWA"]),
    (0x12C2, ["ETHIOPIC SYLLABLE KXWIcKXWAAcKXWEEcKXWE"]),
    (0x12C8, ["ETHIOPIC SYLLABLE WAcWUcWIcWAAcWEEcWEcWOcWOAcPHARYNGEAL AdUdIdAAdEEdEdO"]),
    (0x12D8, ["ETHIOPIC SYLLABLE ZAcZUcZIcZAAcZEEcZEcZOcZWAcZHAcZHUcZHIcZHAAcZHEEcZHEcZHOcZHWAcYA",
      "cYUcYIcYAAcYEEcYEcYOcYOAcDAcDUcDIcDAAcDEEcDEcDOcDWAcDDAcDDUcDDIcDDAAcDDEEcDDEcDDOcDDWAcJA",
      "cJUcJIcJAAcJEEcJEcJOcJWAcGAcGUcGIcGAAcGEEcGEcGOcGOAcGWA"]),
    (0x1312, ["ETHIOPIC SYLLABLE GWIcGWAAcGWEEcGWE"]),
    (0x1318, ["ETHIOPIC SYLLABLE GGAcGGUcGGIcGGAAcGGEEcGGEcGGOcGGWAAcTHAcTHUcTHIcTHAAcTHEEcTHEcTHO",
      "cTHWAcCHAcCHUcCHIcCHAAcCHEEcCHEcCHOcCHWAcPHAcPHUcPHIcPHAAcPHEEcPHEcPHOcPHWAcTSAcTSUcTSI",
      "cTSAAcTSEEcTSEcTSOcTSWAcTZAcTZUcTZIcTZAAcTZEEcTZEcTZOcTZOAcFAcFUcFIcFAAcFEEcFEcFOcFWAcPAcPU",
      "cPIcPAAcPEEcPEcPOcPWAcRYAcMYAcFYA"]),
    (0x135D, ["ETHIOPIC COMBINING GEMINATION AND VOWEL LENGTH MARKcVOWEL LENGTH MARK",
      "cGEMINATION MARKbSECTION MARKbWORDSPACEbFULL STOPbCOMMAbSEMICOLONbCOLONbPREFACE COLON",
      "bQUESTION MARKbPARAGRAPH SEPARATORbDIGIT ONEcTWOcTHREEcFOURcFIVEcSIXcSEVENcEIGHTcNINE",
      "bNUMBER TENcTWENTYcTHIRTYcFORTYcFIFTYcSIXTYcSEVENTYcEIGHTYcNINETYcHUNDREDcTEN THOUSAND"]),
    (0x1380, ["ETHIOPIC SYLLABLE SEBATBEIT MWAcMWIcMWEEcMWEcSEBATBEIT BWAcBWIcBWEEcBWE",
      "cSEBATBEIT FWAcFWIcFWEEcFWEcSEBATBEIT PWAcPWIcPWEEcPWEbTONAL MARK YIZETdDERETdRIKRIK",
      "dSHORT RIKRIKdDIFATdKENATdCHIRETdHIDETdDERET-HIDETdKURT"]),
    (0x13A0, ["CHEROKEE LETTER AcEcIcOcUcVcGAcKAcGEcGIcGOcGUcGVcHAcHEcHIcHOcHUcHVcLAcLEcLIcLOcLU",
      "cLVcMAcMEcMIcMOcMUcNAcHNAcNAHcNEcNIcNOcNUcNVcQUAcQUEcQUIcQUOcQUUcQUVcSAcScSEcSIcSOcSUcSVcDA",
      "cTAcDEcTEcDIcTIcDOcDUcDVcDLAcTLAcTLEcTLIcTLOcTLUcTLVcTSAcTSEcTSIcTSOcTSUcTSVcWAcWEcWIcWOcWU",
      "cWVcYAcYEcYIcYOcYUcYVcMV"]),
    (0x13F8, ["CHEROKEE SMALL LETTER YEdYIdYOdYUdYVdMV"]),
    (0x1400, ["CANADIAN SYLLABICS HYPHENcEcAAIcIcIIcOcOOcY-CREE OOcCARRIER EEdIcAcAAcWE",
      "cWEST-CREE WEcWIcWEST-CREE WIcWIIcWEST-CREE WIIcWOcWEST-CREE WOcWOOcWEST-CREE WOO",
      "cNASKAPI WOOcWAcWEST-CREE WAcWAAcWEST-CREE WAAcNASKAPI WAAcAIcY-CREE WcGLOTTAL STOP",
      "cFINAL ACUTEdGRAVEdBOTTOM HALF RINGdTOP HALF RINGdRIGHT HALF RINGdRINGdDOUBLE ACUTE",
      "eSHORT VERTICAL STROKESdMIDDLE DOTdSHORT HORIZONTAL STROKEdPLUSdDOWN TACKcENcINcONcANcPE",
      "cPAAIcPIcPIIcPOcPOOcY-CREE POOcCARRIER HEEdHIcPAcPAAcPWEcWEST-CREE PWEcPWIcWEST-CREE PWI",
      "cPWIIcWEST-CREE PWIIcPWOcWEST-CREE PWOcPWOOcWEST-CREE PWOOcPWAcWEST-CREE PWAcPWAA",
      "cWEST-CREE PWAAcY-CREE PWAAcPcWEST-CREE PcCARRIER HcTEcTAAIcTIcTIIcTOcTOOcY-CREE TOO",
      "cCARRIER DEEdDIcTAcTAAcTWEcWEST-CREE TWEcTWIcWEST-CREE TWIcTWIIcWEST-CREE TWIIcTWO",
      "cWEST-CREE TWOcTWOOcWEST-CREE TWOOcTWAcWEST-CREE TWAcTWAAcWEST-CREE TWAAcNASKAPI TWAAcTcTTE",
      "cTTIcTTOcTTAcKEcKAAIcKIcKIIcKOcKOOcY-CREE KOOcKAcKAAcKWEcWEST-CREE KWEcKWIcWEST-CREE KWI",
      "cKWIIcWEST-CREE KWIIcKWOcWEST-CREE KWOcKWOOcWEST-CREE KWOOcKWAcWEST-CREE KWAcKWAA",
      "cWEST-CREE KWAAcNASKAPI KWAAcKcKWcSOUTH-SLAVEY KEHdKIHdKOHdKAHcCEcCAAIcCIcCIIcCOcCOO",
      "cY-CREE COOcCAcCAAcCWEcWEST-CREE CWEcCWIcWEST-CREE CWIcCWIIcWEST-CREE CWIIcCWO",
      "cWEST-CREE CWOcCWOOcWEST-CREE CWOOcCWAcWEST-CREE CWAcCWAAcWEST-CREE CWAAcNASKAPI CWAAcC",
      "cSAYISI THcMEcMAAIcMIcMIIcMOcMOOcY-CREE MOOcMAcMAAcMWEcWEST-CREE MWEcMWIcWEST-CREE MWIcMWII",
      "cWEST-CREE MWIIcMWOcWEST-CREE MWOcMWOOcWEST-CREE MWOOcMWAcWEST-CREE MWAcMWAAcWEST-CREE MWAA",
      "cNASKAPI MWAAcMcWEST-CREE McMHcATHAPASCAN McSAYISI McNEcNAAIcNIcNIIcNOcNOOcY-CREE NOOcNA",
      "cNAAcNWEcWEST-CREE NWEcNWAcWEST-CREE NWAcNWAAcWEST-CREE NWAAcNASKAPI NWAAcNcCARRIER NGcNH",
      "cLEcLAAIcLIcLIIcLOcLOOcY-CREE LOOcLAcLAAcLWEcWEST-CREE LWEcLWIcWEST-CREE LWIcLWII",
      "cWEST-CREE LWIIcLWOcWEST-CREE LWOcLWOOcWEST-CREE LWOOcLWAcWEST-CREE LWAcLWAAcWEST-CREE LWAA",
      "cLcWEST-CREE LcMEDIAL LcSEcSAAIcSIcSIIcSOcSOOcY-CREE SOOcSAcSAAcSWEcWEST-CREE SWEcSWI",
      "cWEST-CREE SWIcSWIIcWEST-CREE SWIIcSWOcWEST-CREE SWOcSWOOcWEST-CREE SWOOcSWAcWEST-CREE SWA",
      "cSWAAcWEST-CREE SWAAcNASKAPI SWAAcScATHAPASCAN ScSWcBLACKFOOT ScMOOSE-CREE SKcNASKAPI SKW",
      "dS-WdSPWAdSTWAdSKWAdSCWAcSHEcSHIcSHIIcSHOcSHOOcSHAcSHAAcSHWEcWEST-CREE SHWEcSHWI",
      "cWEST-CREE SHWIcSHWIIcWEST-CREE SHWIIcSHWOcWEST-CREE SHWOcSHWOOcWEST-CREE SHWOOcSHWA",
      "cWEST-CREE SHWAcSHWAAcWEST-CREE SHWAAcSHcYEcYAAIcYIcYIIcYOcYOOcY-CREE YOOcYAcYAAcYWE",
      "cWEST-CREE YWEcYWIcWEST-CREE YWIcYWIIcWEST-CREE YWIIcYWOcWEST-CREE YWOcYWOOcWEST-CREE YWOO",
      "cYWAcWEST-CREE YWAcYWAAcWEST-CREE YWAAcNASKAPI YWAAcYcBIBLE-CREE YcWEST-CREE YcSAYISI YIcRE",
      "cR-CREE REcWEST-CREE LEcRAAIcRIcRIIcROcROOcWEST-CREE LOcRAcRAAcWEST-CREE LAcRWAA",
      "cWEST-CREE RWAAcRcWEST-CREE RcMEDIAL RcFEcFAAIcFIcFIIcFOcFOOcFAcFAAcFWAAcWEST-CREE FWAAcF",
      "cTHEcN-CREE THEcTHIcN-CREE THIcTHIIcN-CREE THIIcTHOcTHOOcTHAcTHAAcTHWAAcWEST-CREE THWAAcTH",
      "cTTHEcTTHIcTTHOcTTHAcTTHcTYEcTYIcTYOcTYAcNUNAVIK HEdHIdHIIdHOdHOOdHAdHAAdHcNUNAVUT HcHK",
      "cQAAIcQIcQIIcQOcQOOcQAcQAAcQcTLHEcTLHIcTLHOcTLHAcWEST-CREE REdRIdROdRAcNGAAIcNGIcNGIIcNGO",
      "cNGOOcNGAcNGAAcNGcNNGcSAYISI SHEdSHIdSHOdSHAcWOODS-CREE THEdTHIdTHOdTHAdTHcLHIcLHIIcLHO",
      "cLHOOcLHAcLHAAcLHcTH-CREE THEdTHIdTHIIdTHOdTHOOdTHAdTHAAdTHcAIVILIK BcBLACKFOOT EdIdOdAdWE",
      "dWIdWOdWAdNEdNIdNOdNAdKEdKIdKOdKAcSAYISI HEdHIdHOdHAcCARRIER GHUdGHOdGHEdGHEEdGHIdGHAdRUdRO",
      "dREdREEdRIdRAdWUdWOdWEdWEEdWIdWAdHWUdHWOdHWEdHWEEdHWIdHWAdTHUdTHOdTHEdTHEEdTHIdTHAdTTUdTTO",
      "dTTEdTTEEdTTIdTTAdPUdPOdPEdPEEdPIdPAdPdGUdGOdGEdGEEdGIdGAdKHUdKHOdKHEdKHEEdKHIdKHAdKKUdKKO",
      "dKKEdKKEEdKKIdKKAdKKdNUdNOdNEdNEEdNIdNAdMUdMOdMEdMEEdMIdMAdYUdYOdYEdYEEdYIdYAdJUcSAYISI JU",
      "cCARRIER JOdJEdJEEdJIcSAYISI JIcCARRIER JAdJJUdJJOdJJEdJJEEdJJIdJJAdLUdLOdLEdLEEdLIdLAdDLU",
      "dDLOdDLEdDLEEdDLIdDLAdLHUdLHOdLHEdLHEEdLHIdLHAdTLHUdTLHOdTLHEdTLHEEdTLHIdTLHAdTLUdTLOdTLE",
      "dTLEEdTLIdTLAdZUdZOdZEdZEEdZIdZAdZdINITIAL ZdDZUdDZOdDZEdDZEEdDZIdDZAdSUdSOdSEdSEEdSIdSA",
      "dSHUdSHOdSHEdSHEEdSHIdSHAdSHdTSUdTSOdTSEdTSEEdTSIdTSAdCHUdCHOdCHEdCHEEdCHIdCHAdTTSUdTTSO",
      "dTTSEdTTSEEdTTSIdTTSAcCHI SIGNcFULL STOPcQAIcNGAIcNNGIcNNGIIcNNGOcNNGOOcNNGAcNNGAA",
      "cWOODS-CREE THWEEdTHWIdTHWIIdTHWOdTHWOOdTHWAdTHWAAdFINAL THcBLACKFOOT WaOGHAM SPACE MARK",
      "bLETTER BEITHcLUIScFEARNcSAILcNIONcUATHcDAIRcTINNEcCOLLcCEIRTcMUINcGORTcNGEADALcSTRAIFcRUIS",
      "cAILMcONNcURcEADHADHcIODHADHcEABHADHcORcUILLEANNcIFINcEAMHANCHOLLcPEITHbFEATHER MARK",
      "bREVERSED FEATHER MARK"]),
    (0x16A0, ["RUNIC LETTER FEHU FEOH FE FcVcURUZ UR UcYRcYcWcTHURISAZ THURS THORNcETHcANSUZ A",
      "cOS OcAC AcAESCcLONG-BRANCH-OSS OcSHORT-TWIG-OSS OcOcOEcONcRAIDO RAD REID RcKAUNAcCEN",
      "cKAUN KcGcENGcGEBO GYFU GcGARcWUNJO WYNN WcHAGLAZ HcHAEGL HcLONG-BRANCH-HAGALL H",
      "cSHORT-TWIG-HAGALL HcNAUDIZ NYD NAUD NcSHORT-TWIG-NAUD NcDOTTED-NcISAZ IS ISS IcEcJERAN J",
      "cGERcLONG-BRANCH-AR AEcSHORT-TWIG-AR AcIWAZ EOHcPERTHO PEORTH PcALGIZ EOLHXcSOWILO S",
      "cSIGEL LONG-BRANCH-SOL ScSHORT-TWIG-SOL ScCcZcTIWAZ TIR TYR TcSHORT-TWIG-TYR TcD",
      "cBERKANAN BEORC BJARKAN BcSHORT-TWIG-BJARKAN BcDOTTED-PcOPEN-PcEHWAZ EH EcMANNAZ MAN M",
      "cLONG-BRANCH-MADR McSHORT-TWIG-MADR McLAUKAZ LAGU LOGR LcDOTTED-LcINGWAZcINGcDAGAZ DAEG D",
      "cOTHALAN ETHEL OcEARcIORcCWEORTHcCALCcCEALCcSTANcLONG-BRANCH-YRcSHORT-TWIG-YRcICELANDIC-YR",
      "cQcXbSINGLE PUNCTUATIONbMULTIPLE PUNCTUATIONbCROSS PUNCTUATIONbARLAUG SYMBOL",
      "bTVIMADUR SYMBOLbBELGTHOR SYMBOLbLETTER KcSHcOOcFRANKS CASKET OSeISeEHeACeAESC"]),
    (0x1700, ["TAGALOG LETTER AcIcUcKAcGAcNGAcTAcDAcNAcPAcBAcMAcYAcRAcLAcWAcSAcHAbVOWEL SIGN IdU",
      "bSIGN VIRAMAcPAMUDPOD"]),
    (0x171F, ["TAGALOG LETTER ARCHAIC RAaHANUNOO LETTER AcIcUcKAcGAcNGAcTAcDAcNAcPAcBAcMAcYAcRAcLA",
      "cWAcSAcHAbVOWEL SIGN IdUbSIGN PAMUDPODaPHILIPPINE SINGLE PUNCTUATIONbDOUBLE PUNCTUATION"]),
    (0x1740, ["BUHID LETTER AcIcUcKAcGAcNGAcTAcDAcNAcPAcBAcMAcYAcRAcLAcWAcSAcHAbVOWEL SIGN IdU"]),
    (0x1760, ["TAGBANWA LETTER AcIcUcKAcGAcNGAcTAcDAcNAcPAcBAcMAcYA"]),
    (0x176E, ["TAGBANWA LETTER LAcWAcSA"]),
    (0x1772, ["TAGBANWA VOWEL SIGN IdU"]),
    (0x1780, ["KHMER LETTER KAcKHAcKOcKHOcNGOcCAcCHAcCOcCHOcNYOcDAcTTHAcDOcTTHOcNNOcTAcTHAcTOcTHO",
      "cNOcBAcPHAcPOcPHOcMOcYOcROcLOcVOcSHAcSSOcSAcHAcLAcQAbINDEPENDENT VOWEL QAQdQAAdQIdQIIdQU",
      "dQUKdQUUdQUUVdRYdRYYdLYdLYYdQEdQAIdQOO TYPE ONEfTWOdQAUbVOWEL INHERENT AQdAAcSIGN AAdIdIIdY",
      "dYYdUdUUdUAdOEdYAdIEdEdAEdAIdOOdAUbSIGN NIKAHITcREAHMUKcYUUKALEAPINTUcMUUSIKATOANcTRIISAP",
      "cBANTOCcROBATcTOANDAKHIATcKAKABATcAHSDAcSAMYOK SANNYAcVIRIAMcCOENGcBATHAMASATcKHAN",
      "cBARIYOOSANcCAMNUC PII KUUHcLEK TOOcBEYYALcPHNAEK MUANcKOOMUUTbCURRENCY SYMBOL RIEL",
      "bSIGN AVAKRAHASANYAcATTHACAN"]),
    (0x17E0, ["KHMER DIGIT ZEROcONEcTWOcTHREEcFOURcFIVEcSIXcSEVENcEIGHTcNINE"]),
    (0x17F0, ["KHMER SYMBOL LEK ATTAK SONeMUOYePIIeBEIeBUONePRAMePRAM-MUOYePRAM-PIIePRAM-BEI",
      "ePRAM-BUON"]),
    (0x1800, ["MONGOLIAN BIRGAbELLIPSISbCOMMAbFULL STOPbCOLONbFOUR DOTSbTODO SOFT HYPHEN",
      "bSIBE SYLLABLE BOUNDARY MARKERbMANCHU COMMAcFULL STOPbNIRUGUbFREE VARIATION SELECTOR ONE",
      "eTWOeTHREEbVOWEL SEPARATORbFREE VARIATION SELECTOR FOURbDIGIT ZEROcONEcTWOcTHREEcFOURcFIVE",
      "cSIXcSEVENcEIGHTcNINE"]),
    (0x1820, ["MONGOLIAN LETTER AcEcIcOcUcOEcUEcEEcNAcANGcBAcPAcQAcGAcMAcLAcSAcSHAcTAcDAcCHAcJAcYA",
      "cRAcWAcFAcKAcKHAcTSAcZAcHAAcZRAcLHAcZHIcCHIcTODO LONG VOWEL SIGNdEdIdOdUdOEdUEdANGdBAdPAdQA",
      "dGAdMAdTAdDAdCHAdJAdTSAdYAdWAdKAdGAAdHAAdJIAdNIAdDZAcSIBE EdIdIYdUEdUdANGdKAdGAdHAdPAdSHA",
      "dTAdDAdJAdFAdGAAdHAAdTSAdZAdRAAdCHAdZHAcMANCHU IdKAdRAdFAdZHAcCHA WITH TWO DOTS"]),
    (0x1880, ["MONGOLIAN LETTER ALI GALI ANUSVARA ONEeVISARGA ONEeDAMARUeUBADAMAeINVERTED UBADAMA",
      "eBALUDAeTHREE BALUDAeAeIeKAeNGAeCAeTTAeTTHAeDDAeNNAeTAeDAePAePHAeSSAeZHAeZAeAH",
      "cTODO ALI GALI TAfZHAcMANCHU ALI GALI GHAfNGAfCAfJHAfTTAfDDHAfTAfDHAfSSAfCYAfZHAfZA",
      "cALI GALI HALF UfYAcMANCHU ALI GALI BHAcALI GALI DAGALGAcMANCHU ALI GALI LHA"]),
    (0x18B0, ["CANADIAN SYLLABICS OYcAYcAAYcWAYcPOYcPAYcPWOYcTAYcKAYcKWAYcMAYcNOYcNAYcLAYcSOYcSAY",
      "cSHOYcSHAYcSHWOYcYOYcYAYcRAYcNWIcOJIBWAY NWIcNWIIcOJIBWAY NWIIcNWOcOJIBWAY NWOcNWOO",
      "cOJIBWAY NWOOcRWEEcRWIcRWIIcRWOcRWOOcRWAcOJIBWAY PdTdKdCdMdNdSdSHcEASTERN WcWESTERN W",
      "cFINAL SMALL RINGdRAISED DOTcR-CREE RWEcWEST-CREE LOOdLAAcTHWEcTHWAcTTHWEcTTHOOcTTHAAcTLHWE",
      "cTLHOOcSAYISI SHWEdSHOOdHOOcCARRIER GWUdDENE GEEdGAAdGWAcSAYISI JUUcCARRIER JWA",
      "cBEAVER DENE LeRcCARRIER DENTAL S"]),
    (0x1900, ["LIMBU VOWEL-CARRIER LETTERbLETTER KAcKHAcGAcGHAcNGAcCAcCHAcJAcJHAcYANcTAcTHAcDAcDHA",
      "cNAcPAcPHAcBAcBHAcMAcYAcRAcLAcWAcSHAcSSAcSAcHAcGYANcTRA"]),
    (0x1920, ["LIMBU VOWEL SIGN AdIdUdEEdAIdOOdAUdEdObSUBJOINED LETTER YAdRAdWA"]),
    (0x1930, ["LIMBU SMALL LETTER KAdNGAdANUSVARAdTAdNAdPAdMAdRAdLAbSIGN MUKPHRENGcKEMPHRENG",
      "cSA-I"]),
    (0x1940, ["LIMBU SIGN LOO"]),
    (0x1944, ["LIMBU EXCLAMATION MARKbQUESTION MARKbDIGIT ZEROcONEcTWOcTHREEcFOURcFIVEcSIXcSEVEN",
      "cEIGHTcNINEaTAI LE LETTER KAdXAdNGAdTSAdSAdYAdTAdTHAdLAdPAdPHAdMAdFAdVAdHAdQAdKHAdTSHAdNAdA",
      "dIdEEdEHdUdOOdOdUEdEdAUEdAI"]),
    (0x1970, ["TAI LE LETTER TONE-2dTONE-3dTONE-4dTONE-5dTONE-6"]),
    (0x1980, ["NEW TAI LUE LETTER HIGH QAeLOW QAeHIGH KAfXAfNGAeLOW KAfXAfNGAeHIGH TSAfSAfYA",
      "eLOW TSAfSAfYAeHIGH TAfTHAfNAeLOW TAfTHAfNAeHIGH PAfPHAfMAeLOW PAfPHAfMAeHIGH FAfVAfLA",
      "eLOW FAfVAfLAeHIGH HAfDAfBAeLOW HAfDAfBAeHIGH KVAfXVAeLOW KVAfXVAeHIGH SUAeLOW SUA"]),
    (0x19B0, ["NEW TAI LUE VOWEL SIGN VOWEL SHORTENERfAAfIIfUfUUfEfAEfOfOAfUEfAYfAAYfUYfOYfOAYfUEY",
      "fIYdLETTER FINAL VfNGfNfMfKfDfBdTONE MARK-1eMARK-2"]),
    (0x19D0, ["NEW TAI LUE DIGIT ZEROeONEeTWOeTHREEeFOUReFIVEeSIXeSEVENeEIGHTeNINE",
      "dTHAM DIGIT ONE"]),
    (0x19DE, ["NEW TAI LUE SIGN LAEeLAEVaKHMER SYMBOL PATHAMASATcMUOY KOETcPII KOETcBEI KOET",
      "cBUON KOETcPRAM KOETcPRAM-MUOY KOETcPRAM-PII KOETcPRAM-BEI KOETcPRAM-BUON KOETcDAP KOET",
      "cDAP-MUOY KOETcDAP-PII KOETcDAP-BEI KOETcDAP-BUON KOETcDAP-PRAM KOETcTUTEYASATcMUOY ROC",
      "cPII ROCcBEI ROCcBUON ROCcPRAM ROCcPRAM-MUOY ROCcPRAM-PII ROCcPRAM-BEI ROCcPRAM-BUON ROC",
      "cDAP ROCcDAP-MUOY ROCcDAP-PII ROCcDAP-BEI ROCcDAP-BUON ROCcDAP-PRAM ROCaBUGINESE LETTER KA",
      "cGAcNGAcNGKAcPAcBAcMAcMPAcTAcDAcNAcNRAcCAcJAcNYAcNYCAcYAcRAcLAcVAcSAcAcHAbVOWEL SIGN IdUdE",
      "dOdAE"]),
    (0x1A1E, ["BUGINESE PALLAWAbEND OF SECTIONaTAI THAM LETTER HIGH KAeKHAeKXAdLOW KAeKXAeKHAdNGA",
      "dHIGH CAeCHAdLOW CAeSAeCHAdNYAdRATAdHIGH RATHAdDAdLOW RATHAdRANAdHIGH TAeTHAdLOW TAeTHAdNA",
      "dBAdHIGH PAePHAeFAdLOW PAeFAePHAdMAdLOW YAdHIGH YAdRAdRUEdLAdLUEdWAdHIGH SHAeSSAeSAeHAdLLA",
      "dAdLOW HAdIdIIdUdUUdEEdOOdLAEdGREAT SAcCONSONANT SIGN MEDIAL RAfLAeLA TANG LAI",
      "cSIGN MAI KANG LAIcCONSONANT SIGN FINAL NGAeLOW PAeHIGH RATHA OR LOW PAeMAeBAeSA"]),
    (0x1A60, ["TAI THAM SIGN SAKOTcVOWEL SIGN AeMAI SATeAAeTALL AAeIeIIeUEeUUEeUeUUeOeOA BELOWeOY",
      "eEeAEeOOeAIeTHAM AIeOA ABOVEcSIGN MAI KANGdTONE-1dTONE-2dKHUEN TONE-3eTONE-4eTONE-5dRA HAAM",
      "dMAI SAMdKHUEN-LUE KARAN"]),
    (0x1A7F, ["TAI THAM COMBINING CRYPTOGRAMMIC DOTcHORA DIGIT ZEROeONEeTWOeTHREEeFOUReFIVEeSIX",
      "eSEVENeEIGHTeNINE"]),
    (0x1A90, ["TAI THAM THAM DIGIT ZEROeONEeTWOeTHREEeFOUReFIVEeSIXeSEVENeEIGHTeNINE"]),
    (0x1AA0, ["TAI THAM SIGN WIANGdWIANGWAAKdSAWANdKEOWdHOYdDOKMAIdREVERSED ROTATED RANAdMAI YAMOK",
      "dKAANdKAANKUUdSATKAANdSATKAANKUUdHANGdCAANG"]),
    (0x1AB0, ["COMBINING DOUBLED CIRCUMFLEX ACCENTbDIAERESIS-RINGbINFINITYbDOWNWARDS ARROW",
      "bTRIPLE DOTbX-X BELOWbWIGGLY LINE BELOWbOPEN MARK BELOWbDOUBLE OPEN MARK BELOW",
      "bLIGHT CENTRALIZATION STROKE BELOWbSTRONG CENTRALIZATION STROKE BELOWbPARENTHESES ABOVE",
      "bDOUBLE PARENTHESES ABOVEbPARENTHESES BELOWcOVERLAYbLATIN SMALL LETTER W BELOW",
      "eTURNED W BELOWbLEFT PARENTHESIS ABOVE LEFTbRIGHT PARENTHESIS ABOVE RIGHT",
      "bLEFT PARENTHESIS BELOW LEFTbRIGHT PARENTHESIS BELOW RIGHTbSQUARE BRACKETS ABOVE",
      "bNUMBER SIGN ABOVEbINVERTED DOUBLE ARCH ABOVEbPLUS SIGN ABOVEbDOUBLE PLUS SIGN ABOVEeBELOW",
      "bTRIPLE ACUTE ACCENTbLATIN SMALL LETTER INSULAR GfRfT"]),
    (0x1B00, ["BALINESE SIGN ULU RICEMdCANDRAcCECEKcSURANGcBISAHbLETTER AKARAdTEDUNGcIKARAdTEDUNG",
      "cUKARAdTEDUNGcRA REPAeTEDUNGcLA LENGAeTEDUNGcEKARAcAIKARAcOKARAdTEDUNGcKAdMAHAPRANAcGAdGORA",
      "cNGAcCAdLACAcJAdJERAcNYAcTA LATIKdMURDA MAHAPRANAcDA MURDA ALPAPRANAeMAHAPRANAcNA RAMBATcTA",
      "dTAWAcDAdMADUcNAcPAdKAPALcBAdKEMBANGcMAcYAcRAcLAcWAcSA SAGAdSAPAcSAcHAbSIGN REREKAN",
      "bVOWEL SIGN TEDUNGdULUeSARIdSUKUeILUTdRA REPAfTEDUNGdLA LENGAfTEDUNGdTALINGeREPAeTEDUNG",
      "eREPA TEDUNGdPEPETeTEDUNGbADEG ADEGbLETTER KAF SASAKcKHOT SASAKcTZIR SASAKcEF SASAK",
      "cVE SASAKcZAL SASAKcASYURA SASAKcARCHAIC JNYA"]),
    (0x1B50, ["BALINESE DIGIT ZEROcONEcTWOcTHREEcFOURcFIVEcSIXcSEVENcEIGHTcNINEbPANTIbPAMADAbWINDU",
      "bCARIK PAMUNGKAHcSIKIcPARERENbPAMENENGbMUSICAL SYMBOL DONGdDENGdDUNGdDANGeSURANGdDINGdDAENG",
      "dDEUNGdDAINGdDANG GEDEdCOMBINING TEGEHeENDEPeKEMPULeKEMPLIeJEGOGANeKEMPUL WITH JEGOGAN",
      "eKEMPLI WITH JEGOGANeBENDEeGONGdRIGHT-HAND OPEN DUGfDAGeCLOSED TUKfTAKdLEFT-HAND OPEN PANG",
      "fPUNGeCLOSED PLAKfPLUKeOPEN PINGbPANTI LANTANGbPAMADA LANTANG"]),
    (0x1B80, ["SUNDANESE SIGN PANYECEKcPANGLAYARcPANGWISADbLETTER AcIcUcAEcOcEcEUcKAcQAcGAcNGAcCA",
      "cJAcZAcNYAcTAcDAcNAcPAcFAcVAcBAcMAcYAcRAcLAcWAcSAcXAcHAbCONSONANT SIGN PAMINGKALdPANYAKRA",
      "dPANYIKUbVOWEL SIGN PANGHULUdPANYUKUdPANAELAENGdPANOLONGdPAMEPETdPANEULEUNGbSIGN PAMAAEH",
      "cVIRAMAbCONSONANT SIGN PASANGAN MAeWAbLETTER KHAcSYAbDIGIT ZEROcONEcTWOcTHREEcFOURcFIVEcSIX",
      "cSEVENcEIGHTcNINEbAVAGRAHAbLETTER REUcLEUcBHAcFINAL KdMaBATAK LETTER AcSIMALUNGUN AcHA",
      "cSIMALUNGUN HAcMANDAILING HAcBAcKARO BAcPAcSIMALUNGUN PAcNAcMANDAILING NAcWAcSIMALUNGUN WA",
      "cPAKPAK WAcGAcSIMALUNGUN GAcJAcDAcRAcSIMALUNGUN RAcMAcSIMALUNGUN MAcSOUTHERN TAcNORTHERN TA",
      "cSAcSIMALUNGUN SAcMANDAILING SAcYAcSIMALUNGUN YAcNGAcLAcSIMALUNGUN LAcNYAcCAcNDAcMBAcIcU",
      "bSIGN TOMPIbVOWEL SIGN EdPAKPAK EdEEdIdKARO IdOdKARO OdUeFOR SIMALUNGUN SA",
      "bCONSONANT SIGN NGdHbPANGOLATbPANONGONAN"]),
    (0x1BFC, ["BATAK SYMBOL BINDU NA METEKdPINARBORASdJUDULdPANGOLATaLEPCHA LETTER KAcKLAcKHAcGA",
      "cGLAcNGAcCAcCHAcJAcNYAcTAcTHAcDAcNAcPAcPLAcPHAcFAcFLAcBAcBLAcMAcMLAcTSAcTSHAcDZAcYAcRAcLA",
      "cHAcHLAcVAcSAcSHAcWAcAbSUBJOINED LETTER YAdRAbVOWEL SIGN AAdIdOdOOdUdUUdEbCONSONANT SIGN K",
      "dMdLdNdPdRdTdNYIN-DOdKANGbSIGN RANcNUKTA"]),
    (0x1C3B, ["LEPCHA PUNCTUATION TA-ROLcNYET THYOOM TA-ROLcCER-WAcTSHOOK CER-WAcTSHOOKbDIGIT ZERO",
      "cONEcTWOcTHREEcFOURcFIVEcSIXcSEVENcEIGHTcNINE"]),
    (0x1C4D, ["LEPCHA LETTER TTAcTTHAcDDAaOL CHIKI DIGIT ZEROdONEdTWOdTHREEdFOURdFIVEdSIXdSEVEN",
      "dEIGHTdNINEcLETTER LAdATdAGdANGdALdLAAdAAKdAAJdAAMdAAWdLIdISdIHdINYdIRdLUdUCdUDdUNNdUYdLE",
      "dEPdEDDdENdERRdLOdOTTdOBdOVdOHcMU TTUDDAGcGAAHLAA TTUDDAAGcMU-GAAHLAA TTUDDAAGcRELAA",
      "cPHAARKAAcAHADcPUNCTUATION MUCAADdDOUBLE MUCAADaCYRILLIC SMALL LETTER ROUNDED VE",
      "dLONG-LEGGED DEdNARROW OdWIDE ESdTALL TEdTHREE-LEGGED TEdTALL HARD SIGNeYATdUNBLENDED UK"]),
    (0x1C90, ["GEORGIAN MTAVRULI CAPITAL LETTER ANeBANeGANeDONeENeVINeZENeTANeINeKANeLASeMANeNAR",
      "eONePAReZHAReRAEeSANeTAReUNePHAReKHAReGHANeQAReSHINeCHINeCANeJILeCILeCHAReXANeJHANeHAEeHE",
      "eHIEeWEeHAReHOEeFIeYNeELIFIeTURNED GANeAIN"]),
    (0x1CBD, ["GEORGIAN MTAVRULI CAPITAL LETTER AENeHARD SIGNeLABIAL SIGN",
      "aSUNDANESE PUNCTUATION BINDU SURYAdPANGLONGdPURNAMAdCAKRAdLEU SATANGAdKA SATANGAdDA SATANGA",
      "dBA SATANGA"]),
    (0x1CD0, ["VEDIC TONE KARSHANAcSHARAcPRENKHAbSIGN NIHSHVASAcYAJURVEDIC MIDLINE SVARITA",
      "bTONE YAJURVEDIC AGGRAVATED INDEPENDENT SVARITAdINDEPENDENT SVARITA",
      "dKATHAKA INDEPENDENT SVARITAcCANDRA BELOWcYAJURVEDIC KATHAKA INDEPENDENT SVARITA SCHROEDER",
      "cDOUBLE SVARITAcTRIPLE SVARITAcKATHAKA ANUDATTAcDOT BELOWcTWO DOTS BELOWcTHREE DOTS BELOW",
      "cRIGVEDIC KASHMIRI INDEPENDENT SVARITAcATHARVAVEDIC INDEPENDENT SVARITA",
      "bSIGN VISARGA SVARITAdUDATTAcREVERSED VISARGA UDATTAcVISARGA ANUDATTA",
      "cREVERSED VISARGA ANUDATTAcVISARGA UDATTA WITH TAILdANUDATTA WITH TAIL",
      "cANUSVARA ANTARGOMUKHAdBAHIRGOMUKHAdVAMAGOMUKHAeWITH TAILcTIRYAKcHEXIFORM LONG ANUSVARA",
      "cLONG ANUSVARAcRTHANG LONG ANUSVARAcANUSVARA UBHAYATO MUKHAcARDHAVISARGA",
      "cROTATED ARDHAVISARGAbTONE CANDRA ABOVEbSIGN JIHVAMULIYAcUPADHMANIYAcATIKRAMA",
      "bTONE RING ABOVEcDOUBLE RING ABOVEbSIGN DOUBLE ANUSVARA ANTARGOMUKHA"])]

end SheetScript.Text
