namespace SheetScript.Text

def presentationNames : List (Nat × List String) :=
  [(0xFB00, ["LATIN SMALL LIGATURE FFdFIdFLdFFIdFFLdLONG S TdST"]),
    (0xFB13, ["ARMENIAN SMALL LIGATURE MEN NOWeECHeINIdVEW NOWdMEN XEH"]),
    (0xFB1D, ["HEBREW LETTER YOD WITH HIRIQbPOINT JUDEO-SPANISH VARIKA",
      "bLIGATURE YIDDISH YOD YOD PATAHbLETTER ALTERNATIVE AYINcWIDE ALEFdDALETdHEdKAFdLAMED",
      "dFINAL MEMdRESHdTAVcALTERNATIVE PLUS SIGNcSHIN WITH SHIN DOTeSIN DOTeDAGESH AND SHIN DOT",
      "gSIN DOTcALEF WITH PATAHeQAMATSeMAPIQcBET WITH DAGESHcGIMEL WITH DAGESHcDALET WITH DAGESH",
      "cHE WITH MAPIQcVAV WITH DAGESHcZAYIN WITH DAGESH"]),
    (0xFB38, ["HEBREW LETTER TET WITH DAGESHcYOD WITH DAGESHcFINAL KAF WITH DAGESHcKAF WITH DAGESH",
      "cLAMED WITH DAGESH"]),
    (0xFB3E, ["HEBREW LETTER MEM WITH DAGESH"]),
    (0xFB40, ["HEBREW LETTER NUN WITH DAGESHcSAMEKH WITH DAGESH"]),
    (0xFB43, ["HEBREW LETTER FINAL PE WITH DAGESHcPE WITH DAGESH"]),
    (0xFB46, ["HEBREW LETTER TSADI WITH DAGESHcQOF WITH DAGESHcRESH WITH DAGESHcSHIN WITH DAGESH",
      "cTAV WITH DAGESHcVAV WITH HOLAMcBET WITH RAFEcKAF WITH RAFEcPE WITH RAFE",
      "bLIGATURE ALEF LAMEDaARABIC LETTER ALEF WASLA ISOLATED FORMeFINAL FORMcBEEH ISOLATED FORM",
      "dFINAL FORMdINITIAL FORMdMEDIAL FORMcPEH ISOLATED FORMdFINAL FORMdINITIAL FORMdMEDIAL FORM",
      "cBEHEH ISOLATED FORMdFINAL FORMdINITIAL FORMdMEDIAL FORMcTTEHEH ISOLATED FORMdFINAL FORM",
      "dINITIAL FORMdMEDIAL FORMcTEHEH ISOLATED FORMdFINAL FORMdINITIAL FORMdMEDIAL FORM",
      "cTTEH ISOLATED FORMdFINAL FORMdINITIAL FORMdMEDIAL FORMcVEH ISOLATED FORMdFINAL FORM",
      "dINITIAL FORMdMEDIAL FORMcPEHEH ISOLATED FORMdFINAL FORMdINITIAL FORMdMEDIAL FORM",
      "cDYEH ISOLATED FORMdFINAL FORMdINITIAL FORMdMEDIAL FORMcNYEH ISOLATED FORMdFINAL FORM",
      "dINITIAL FORMdMEDIAL FORMcTCHEH ISOLATED FORMdFINAL FORMdINITIAL FORMdMEDIAL FORM",
      "cTCHEHEH ISOLATED FORMdFINAL FORMdINITIAL FORMdMEDIAL FORMcDDAHAL ISOLATED FORMdFINAL FORM",
      "cDAHAL ISOLATED FORMdFINAL FORMcDUL ISOLATED FORMdFINAL FORMcDDAL ISOLATED FORMdFINAL FORM",
      "cJEH ISOLATED FORMdFINAL FORMcRREH ISOLATED FORMdFINAL FORMcKEHEH ISOLATED FORMdFINAL FORM",
      "dINITIAL FORMdMEDIAL FORMcGAF ISOLATED FORMdFINAL FORMdINITIAL FORMdMEDIAL FORM",
      "cGUEH ISOLATED FORMdFINAL FORMdINITIAL FORMdMEDIAL FORMcNGOEH ISOLATED FORMdFINAL FORM",
      "dINITIAL FORMdMEDIAL FORMcNOON GHUNNA ISOLATED FORMeFINAL FORMcRNOON ISOLATED FORM",
      "dFINAL FORMdINITIAL FORMdMEDIAL FORMcHEH WITH YEH ABOVE ISOLATED FORMgFINAL FORM",
      "dGOAL ISOLATED FORMeFINAL FORMeINITIAL FORMeMEDIAL FORMdDOACHASHMEE ISOLATED FORM",
      "eFINAL FORMeINITIAL FORMeMEDIAL FORMcYEH BARREE ISOLATED FORMeFINAL FORM",
      "eWITH HAMZA ABOVE ISOLATED FORMhFINAL FORMbSYMBOL DOT ABOVEdBELOWcTWO DOTS ABOVEeBELOW",
      "cTHREE DOTS ABOVEeBELOWePOINTING DOWNWARDS ABOVEgBELOWcFOUR DOTS ABOVEeBELOW",
      "cDOUBLE VERTICAL BAR BELOWcTWO DOTS VERTICALLY ABOVEfBELOWcRINGcSMALL TAH ABOVEeBELOW",
      "cWASLA ABOVE"]),
    (0xFBD3, ["ARABIC LETTER NG ISOLATED FORMdFINAL FORMdINITIAL FORMdMEDIAL FORMcU ISOLATED FORM",
      "dFINAL FORMcOE ISOLATED FORMdFINAL FORMcYU ISOLATED FORMdFINAL FORM",
      "cU WITH HAMZA ABOVE ISOLATED FORMcVE ISOLATED FORMdFINAL FORMcKIRGHIZ OE ISOLATED FORM",
      "eFINAL FORMdYU ISOLATED FORMeFINAL FORMcE ISOLATED FORMdFINAL FORMdINITIAL FORMdMEDIAL FORM",
      "cUIGHUR KAZAKH KIRGHIZ ALEF MAKSURA INITIAL FORMhMEDIAL FORM",
      "bLIGATURE YEH WITH HAMZA ABOVE WITH ALEF ISOLATED FORMiFINAL FORMhAE ISOLATED FORM",
      "iFINAL FORMhWAW ISOLATED FORMiFINAL FORMhU ISOLATED FORMiFINAL FORMhOE ISOLATED FORM",
      "iFINAL FORMhYU ISOLATED FORMiFINAL FORMhE ISOLATED FORMiFINAL FORMiINITIAL FORM",
      "cUIGHUR KIRGHIZ YEH WITH HAMZA ABOVE WITH ALEF MAKSURA ISOLATED FORMlFINAL FORM",
      "lINITIAL FORMbLETTER FARSI YEH ISOLATED FORMeFINAL FORMeINITIAL FORMeMEDIAL FORM",
      "bLIGATURE YEH WITH HAMZA ABOVE WITH JEEM ISOLATED FORMhHAH ISOLATED FORMhMEEM ISOLATED FORM",
      "hALEF MAKSURA ISOLATED FORMhYEH ISOLATED FORMcBEH WITH JEEM ISOLATED FORMeHAH ISOLATED FORM",
      "eKHAH ISOLATED FORMeMEEM ISOLATED FORMeALEF MAKSURA ISOLATED FORMeYEH ISOLATED FORM",
      "cTEH WITH JEEM ISOLATED FORMeHAH ISOLATED FORMeKHAH ISOLATED FORMeMEEM ISOLATED FORM",
      "eALEF MAKSURA ISOLATED FORMeYEH ISOLATED FORMcTHEH WITH JEEM ISOLATED FORM",
      "eMEEM ISOLATED FORMeALEF MAKSURA ISOLATED FORMeYEH ISOLATED FORM",
      "cJEEM WITH HAH ISOLATED FORMeMEEM ISOLATED FORMcHAH WITH JEEM ISOLATED FORM",
      "eMEEM ISOLATED FORMcKHAH WITH JEEM ISOLATED FORMeHAH ISOLATED FORMeMEEM ISOLATED FORM",
      "cSEEN WITH JEEM ISOLATED FORMeHAH ISOLATED FORMeKHAH ISOLATED FORMeMEEM ISOLATED FORM",
      "cSAD WITH HAH ISOLATED FORMeMEEM ISOLATED FORMcDAD WITH JEEM ISOLATED FORM",
      "eHAH ISOLATED FORMeKHAH ISOLATED FORMeMEEM ISOLATED FORMcTAH WITH HAH ISOLATED FORM",
      "eMEEM ISOLATED FORMcZAH WITH MEEM ISOLATED FORMcAIN WITH JEEM ISOLATED FORM",
      "eMEEM ISOLATED FORMcGHAIN WITH JEEM ISOLATED FORMeMEEM ISOLATED FORM",
      "cFEH WITH JEEM ISOLATED FORMeHAH ISOLATED FORMeKHAH ISOLATED FORMeMEEM ISOLATED FORM",
      "eALEF MAKSURA ISOLATED FORMeYEH ISOLATED FORMcQAF WITH HAH ISOLATED FORMeMEEM ISOLATED FORM",
      "eALEF MAKSURA ISOLATED FORMeYEH ISOLATED FORMcKAF WITH ALEF ISOLATED FORM",
      "eJEEM ISOLATED FORMeHAH ISOLATED FORMeKHAH ISOLATED FORMeLAM ISOLATED FORM",
      "eMEEM ISOLATED FORMeALEF MAKSURA ISOLATED FORMeYEH ISOLATED FORM",
      "cLAM WITH JEEM ISOLATED FORMeHAH ISOLATED FORMeKHAH ISOLATED FORMeMEEM ISOLATED FORM",
      "eALEF MAKSURA ISOLATED FORMeYEH ISOLATED FORMcMEEM WITH JEEM ISOLATED FORM",
      "eHAH ISOLATED FORMeKHAH ISOLATED FORMeMEEM ISOLATED FORMeALEF MAKSURA ISOLATED FORM",
      "eYEH ISOLATED FORMcNOON WITH JEEM ISOLATED FORMeHAH ISOLATED FORMeKHAH ISOLATED FORM",
      "eMEEM ISOLATED FORMeALEF MAKSURA ISOLATED FORMeYEH ISOLATED FORM",
      "cHEH WITH JEEM ISOLATED FORMeMEEM ISOLATED FORMeALEF MAKSURA ISOLATED FORM",
      "eYEH ISOLATED FORMcYEH WITH JEEM ISOLATED FORMeHAH ISOLATED FORMeKHAH ISOLATED FORM",
      "eMEEM ISOLATED FORMeALEF MAKSURA ISOLATED FORMeYEH ISOLATED FORM",
      "cTHAL WITH SUPERSCRIPT ALEF ISOLATED FORMcREH WITH SUPERSCRIPT ALEF ISOLATED FORM",
      "cALEF MAKSURA WITH SUPERSCRIPT ALEF ISOLATED FORMcSHADDA WITH DAMMATAN ISOLATED FORM",
      "eKASRATAN ISOLATED FORMeFATHA ISOLATED FORMeDAMMA ISOLATED FORMeKASRA ISOLATED FORM",
      "eSUPERSCRIPT ALEF ISOLATED FORMcYEH WITH HAMZA ABOVE WITH REH FINAL FORMhZAIN FINAL FORM",
      "hMEEM FINAL FORMhNOON FINAL FORMhALEF MAKSURA FINAL FORMhYEH FINAL FORM",
      "cBEH WITH REH FINAL FORMeZAIN FINAL FORMeMEEM FINAL FORMeNOON FINAL FORM",
      "eALEF MAKSURA FINAL FORMeYEH FINAL FORMcTEH WITH REH FINAL FORMeZAIN FINAL FORM",
      "eMEEM FINAL FORMeNOON FINAL FORMeALEF MAKSURA FINAL FORMeYEH FINAL FORM",
      "cTHEH WITH REH FINAL FORMeZAIN FINAL FORMeMEEM FINAL FORMeNOON FINAL FORM",
      "eALEF MAKSURA FINAL FORMeYEH FINAL FORMcFEH WITH ALEF MAKSURA FINAL FORMeYEH FINAL FORM",
      "cQAF WITH ALEF MAKSURA FINAL FORMeYEH FINAL FORMcKAF WITH ALEF FINAL FORMeLAM FINAL FORM",
      "eMEEM FINAL FORMeALEF MAKSURA FINAL FORMeYEH FINAL FORMcLAM WITH MEEM FINAL FORM",
      "eALEF MAKSURA FINAL FORMeYEH FINAL FORMcMEEM WITH ALEF FINAL FORMeMEEM FINAL FORM",
      "cNOON WITH REH FINAL FORMeZAIN FINAL FORMeMEEM FINAL FORMeNOON FINAL FORM",
      "eALEF MAKSURA FINAL FORMeYEH FINAL FORMcALEF MAKSURA WITH SUPERSCRIPT ALEF FINAL FORM",
      "cYEH WITH REH FINAL FORMeZAIN FINAL FORMeMEEM FINAL FORMeNOON FINAL FORM",
      "eALEF MAKSURA FINAL FORMeYEH FINAL FORMeHAMZA ABOVE WITH JEEM INITIAL FORMhHAH INITIAL FORM",
      "hKHAH INITIAL FORMhMEEM INITIAL FORMhHEH INITIAL FORMcBEH WITH JEEM INITIAL FORM",
      "eHAH INITIAL FORMeKHAH INITIAL FORMeMEEM INITIAL FORMeHEH INITIAL FORM",
      "cTEH WITH JEEM INITIAL FORMeHAH INITIAL FORMeKHAH INITIAL FORMeMEEM INITIAL FORM",
      "eHEH INITIAL FORMcTHEH WITH MEEM INITIAL FORMcJEEM WITH HAH INITIAL FORMeMEEM INITIAL FORM",
      "cHAH WITH JEEM INITIAL FORMeMEEM INITIAL FORMcKHAH WITH JEEM INITIAL FORMeMEEM INITIAL FORM",
      "cSEEN WITH JEEM INITIAL FORMeHAH INITIAL FORMeKHAH INITIAL FORMeMEEM INITIAL FORM",
      "cSAD WITH HAH INITIAL FORMeKHAH INITIAL FORMeMEEM INITIAL FORMcDAD WITH JEEM INITIAL FORM",
      "eHAH INITIAL FORMeKHAH INITIAL FORMeMEEM INITIAL FORMcTAH WITH HAH INITIAL FORM",
      "cZAH WITH MEEM INITIAL FORMcAIN WITH JEEM INITIAL FORMeMEEM INITIAL FORM",
      "cGHAIN WITH JEEM INITIAL FORMeMEEM INITIAL FORMcFEH WITH JEEM INITIAL FORMeHAH INITIAL FORM",
      "eKHAH INITIAL FORMeMEEM INITIAL FORMcQAF WITH HAH INITIAL FORMeMEEM INITIAL FORM",
      "cKAF WITH JEEM INITIAL FORMeHAH INITIAL FORMeKHAH INITIAL FORMeLAM INITIAL FORM",
      "eMEEM INITIAL FORMcLAM WITH JEEM INITIAL FORMeHAH INITIAL FORMeKHAH INITIAL FORM",
      "eMEEM INITIAL FORMeHEH INITIAL FORMcMEEM WITH JEEM INITIAL FORMeHAH INITIAL FORM",
      "eKHAH INITIAL FORMeMEEM INITIAL FORMcNOON WITH JEEM INITIAL FORMeHAH INITIAL FORM",
      "eKHAH INITIAL FORMeMEEM INITIAL FORMeHEH INITIAL FORMcHEH WITH JEEM INITIAL FORM",
      "eMEEM INITIAL FORMeSUPERSCRIPT ALEF INITIAL FORMcYEH WITH JEEM INITIAL FORM",
      "eHAH INITIAL FORMeKHAH INITIAL FORMeMEEM INITIAL FORMeHEH INITIAL FORM",
      "eHAMZA ABOVE WITH MEEM MEDIAL FORMhHEH MEDIAL FORMcBEH WITH MEEM MEDIAL FORM",
      "eHEH MEDIAL FORMcTEH WITH MEEM MEDIAL FORMeHEH MEDIAL FORMcTHEH WITH MEEM MEDIAL FORM",
      "eHEH MEDIAL FORMcSEEN WITH MEEM MEDIAL FORMeHEH MEDIAL FORMcSHEEN WITH MEEM MEDIAL FORM",
      "eHEH MEDIAL FORMcKAF WITH LAM MEDIAL FORMeMEEM MEDIAL FORMcLAM WITH MEEM MEDIAL FORM",
      "cNOON WITH MEEM MEDIAL FORMeHEH MEDIAL FORMcYEH WITH MEEM MEDIAL FORMeHEH MEDIAL FORM",
      "cSHADDA WITH FATHA MEDIAL FORMeDAMMA MEDIAL FORMeKASRA MEDIAL FORM",
      "cTAH WITH ALEF MAKSURA ISOLATED FORMeYEH ISOLATED FORMcAIN WITH ALEF MAKSURA ISOLATED FORM",
      "eYEH ISOLATED FORMcGHAIN WITH ALEF MAKSURA ISOLATED FORMeYEH ISOLATED FORM",
      "cSEEN WITH ALEF MAKSURA ISOLATED FORMeYEH ISOLATED FORM",
      "cSHEEN WITH ALEF MAKSURA ISOLATED FORMeYEH ISOLATED FORM",
      "cHAH WITH ALEF MAKSURA ISOLATED FORMeYEH ISOLATED FORMcJEEM WITH ALEF MAKSURA ISOLATED FORM",
      "eYEH ISOLATED FORMcKHAH WITH ALEF MAKSURA ISOLATED FORMeYEH ISOLATED FORM",
      "cSAD WITH ALEF MAKSURA ISOLATED FORMeYEH ISOLATED FORMcDAD WITH ALEF MAKSURA ISOLATED FORM",
      "eYEH ISOLATED FORMcSHEEN WITH JEEM ISOLATED FORMeHAH ISOLATED FORMeKHAH ISOLATED FORM",
      "eMEEM ISOLATED FORMeREH ISOLATED FORMcSEEN WITH REH ISOLATED FORM",
      "cSAD WITH REH ISOLATED FORMcDAD WITH REH ISOLATED FORMcTAH WITH ALEF MAKSURA FINAL FORM",
      "eYEH FINAL FORMcAIN WITH ALEF MAKSURA FINAL FORMeYEH FINAL FORM",
      "cGHAIN WITH ALEF MAKSURA FINAL FORMeYEH FINAL FORMcSEEN WITH ALEF MAKSURA FINAL FORM",
      "eYEH FINAL FORMcSHEEN WITH ALEF MAKSURA FINAL FORMeYEH FINAL FORM",
      "cHAH WITH ALEF MAKSURA FINAL FORMeYEH FINAL FORMcJEEM WITH ALEF MAKSURA FINAL FORM",
      "eYEH FINAL FORMcKHAH WITH ALEF MAKSURA FINAL FORMeYEH FINAL FORM",
      "cSAD WITH ALEF MAKSURA FINAL FORMeYEH FINAL FORMcDAD WITH ALEF MAKSURA FINAL FORM",
      "eYEH FINAL FORMcSHEEN WITH JEEM FINAL FORMeHAH FINAL FORMeKHAH FINAL FORMeMEEM FINAL FORM",
      "eREH FINAL FORMcSEEN WITH REH FINAL FORMcSAD WITH REH FINAL FORMcDAD WITH REH FINAL FORM",
      "cSHEEN WITH JEEM INITIAL FORMeHAH INITIAL FORMeKHAH INITIAL FORMeMEEM INITIAL FORM",
      "cSEEN WITH HEH INITIAL FORMcSHEEN WITH HEH INITIAL FORMcTAH WITH MEEM INITIAL FORM",
      "cSEEN WITH JEEM MEDIAL FORMeHAH MEDIAL FORMeKHAH MEDIAL FORMcSHEEN WITH JEEM MEDIAL FORM",
      "eHAH MEDIAL FORMeKHAH MEDIAL FORMcTAH WITH MEEM MEDIAL FORMcZAH WITH MEEM MEDIAL FORM",
      "cALEF WITH FATHATAN FINAL FORMfISOLATED FORMaORNATE LEFT PARENTHESISbRIGHT PARENTHESIS",
      "aARABIC LIGATURE RAHIMAHU ALLAAHcRADI ALLAAHU ANHeANHAAeANHUMeANHUMAAeANHUNNA",
      "cSALLALLAAHU ALAYHI WA-AALIHcALAYHI AS-SALAAMcALAYHIM AS-SALAAMcALAYHIMAA AS-SALAAM",
      "cALAYHI AS-SALAATU WAS-SALAAMcQUDDISA SIRRAHcSALLALLAHU ALAYHI WAAALIHEE WA-SALLAM",
      "cALAYHAA AS-SALAAMcTABAARAKA WA-TAAALAAcRAHIMAHUM ALLAAH",
      "cTEH WITH JEEM WITH MEEM INITIAL FORMeHAH WITH JEEM FINAL FORMhINITIAL FORM",
      "gMEEM INITIAL FORMeKHAH WITH MEEM INITIAL FORMeMEEM WITH JEEM INITIAL FORMgHAH INITIAL FORM",
      "gKHAH INITIAL FORMcJEEM WITH MEEM WITH HAH FINAL FORMhINITIAL FORM",
      "cHAH WITH MEEM WITH YEH FINAL FORMgALEF MAKSURA FINAL FORM",
      "cSEEN WITH HAH WITH JEEM INITIAL FORMeJEEM WITH HAH INITIAL FORMgALEF MAKSURA FINAL FORM",
      "eMEEM WITH HAH FINAL FORMhINITIAL FORMgJEEM INITIAL FORMgMEEM FINAL FORMhINITIAL FORM",
      "cSAD WITH HAH WITH HAH FINAL FORMhINITIAL FORMeMEEM WITH MEEM FINAL FORM",
      "cSHEEN WITH HAH WITH MEEM FINAL FORMhINITIAL FORMeJEEM WITH YEH FINAL FORM",
      "eMEEM WITH KHAH FINAL FORMhINITIAL FORMgMEEM FINAL FORMhINITIAL FORM",
      "cDAD WITH HAH WITH ALEF MAKSURA FINAL FORMeKHAH WITH MEEM FINAL FORMhINITIAL FORM",
      "cTAH WITH MEEM WITH HAH FINAL FORMhINITIAL FORMgMEEM INITIAL FORMgYEH FINAL FORM",
      "cAIN WITH JEEM WITH MEEM FINAL FORMeMEEM WITH MEEM FINAL FORMhINITIAL FORM",
      "gALEF MAKSURA FINAL FORMcGHAIN WITH MEEM WITH MEEM FINAL FORMgYEH FINAL FORM",
      "gALEF MAKSURA FINAL FORMcFEH WITH KHAH WITH MEEM FINAL FORMhINITIAL FORM",
      "cQAF WITH MEEM WITH HAH FINAL FORMgMEEM FINAL FORMcLAM WITH HAH WITH MEEM FINAL FORM",
      "gYEH FINAL FORMgALEF MAKSURA FINAL FORMeJEEM WITH JEEM INITIAL FORMhFINAL FORM",
      "eKHAH WITH MEEM FINAL FORMhINITIAL FORMeMEEM WITH HAH FINAL FORMhINITIAL FORM",
      "cMEEM WITH HAH WITH JEEM INITIAL FORMgMEEM INITIAL FORMgYEH FINAL FORM",
      "eJEEM WITH HAH INITIAL FORMgMEEM INITIAL FORMeKHAH WITH JEEM INITIAL FORM",
      "gMEEM INITIAL FORM"]),
    (0xFD92, ["ARABIC LIGATURE MEEM WITH JEEM WITH KHAH INITIAL FORM",
      "cHEH WITH MEEM WITH JEEM INITIAL FORMgMEEM INITIAL FORM",
      "cNOON WITH HAH WITH MEEM INITIAL FORMgALEF MAKSURA FINAL FORMeJEEM WITH MEEM FINAL FORM",
      "hINITIAL FORMgALEF MAKSURA FINAL FORMeMEEM WITH YEH FINAL FORMgALEF MAKSURA FINAL FORM",
      "cYEH WITH MEEM WITH MEEM FINAL FORMhINITIAL FORMcBEH WITH KHAH WITH YEH FINAL FORM",
      "cTEH WITH JEEM WITH YEH FINAL FORMgALEF MAKSURA FINAL FORMeKHAH WITH YEH FINAL FORM",
      "gALEF MAKSURA FINAL FORMeMEEM WITH YEH FINAL FORMgALEF MAKSURA FINAL FORM",
      "cJEEM WITH MEEM WITH YEH FINAL FORMeHAH WITH ALEF MAKSURA FINAL FORM",
      "eMEEM WITH ALEF MAKSURA FINAL FORMcSEEN WITH KHAH WITH ALEF MAKSURA FINAL FORM",
      "cSAD WITH HAH WITH YEH FINAL FORMcSHEEN WITH HAH WITH YEH FINAL FORM",
      "cDAD WITH HAH WITH YEH FINAL FORMcLAM WITH JEEM WITH YEH FINAL FORM",
      "eMEEM WITH YEH FINAL FORMcYEH WITH HAH WITH YEH FINAL FORMeJEEM WITH YEH FINAL FORM",
      "eMEEM WITH YEH FINAL FORMcMEEM WITH MEEM WITH YEH FINAL FORM",
      "cQAF WITH MEEM WITH YEH FINAL FORMcNOON WITH HAH WITH YEH FINAL FORM",
      "cQAF WITH MEEM WITH HAH INITIAL FORMcLAM WITH HAH WITH MEEM INITIAL FORM",
      "cAIN WITH MEEM WITH YEH FINAL FORMcKAF WITH MEEM WITH YEH FINAL FORM",
      "cNOON WITH JEEM WITH HAH INITIAL FORMcMEEM WITH KHAH WITH YEH FINAL FORM",
      "cLAM WITH JEEM WITH MEEM INITIAL FORMcKAF WITH MEEM WITH MEEM FINAL FORM",
      "cLAM WITH JEEM WITH MEEM FINAL FORMcNOON WITH JEEM WITH HAH FINAL FORM",
      "cJEEM WITH HAH WITH YEH FINAL FORMcHAH WITH JEEM WITH YEH FINAL FORM",
      "cMEEM WITH JEEM WITH YEH FINAL FORMcFEH WITH MEEM WITH YEH FINAL FORM",
      "cBEH WITH HAH WITH YEH FINAL FORMcKAF WITH MEEM WITH MEEM INITIAL FORM",
      "cAIN WITH JEEM WITH MEEM INITIAL FORMcSAD WITH MEEM WITH MEEM INITIAL FORM",
      "cSEEN WITH KHAH WITH YEH FINAL FORMcNOON WITH JEEM WITH YEH FINAL FORM"]),
    (0xFDCF, ["ARABIC LIGATURE SALAAMUHU ALAYNAA"]),
    (0xFDF0, ["ARABIC LIGATURE SALLA USED AS KORANIC STOP SIGN ISOLATED FORM",
      "cQALA USED AS KORANIC STOP SIGN ISOLATED FORMcALLAH ISOLATED FORMcAKBAR ISOLATED FORM",
      "cMOHAMMAD ISOLATED FORMcSALAM ISOLATED FORMcRASOUL ISOLATED FORMcALAYHE ISOLATED FORM",
      "cWASALLAM ISOLATED FORMcSALLA ISOLATED FORMcSALLALLAHOU ALAYHE WASALLAMcJALLAJALALOUHOU",
      "aRIAL SIGNaARABIC LIGATURE BISMILLAH AR-RAHMAN AR-RAHEEMcSUBHAANAHU WA TAAALAAcAZZA WA JALL",
      "aVARIATION SELECTOR-1bSELECTOR-2bSELECTOR-3bSELECTOR-4bSELECTOR-5bSELECTOR-6bSELECTOR-7",
      "bSELECTOR-8bSELECTOR-9bSELECTOR-10bSELECTOR-11bSELECTOR-12bSELECTOR-13bSELECTOR-14",
      "bSELECTOR-15bSELECTOR-16aPRESENTATION FORM FOR VERTICAL COMMAeIDEOGRAPHIC COMMAfFULL STOP",
      "eCOLONeSEMICOLONeEXCLAMATION MARKeQUESTION MARKeLEFT WHITE LENTICULAR BRACKET",
      "eRIGHT WHITE LENTICULAR BRAKCETeHORIZONTAL ELLIPSIS"]),
    (0xFE20, ["COMBINING LIGATURE LEFT HALFcRIGHT HALFbDOUBLE TILDE LEFT HALFdRIGHT HALF",
      "bMACRON LEFT HALFcRIGHT HALFbCONJOINING MACRONbLIGATURE LEFT HALF BELOWcRIGHT HALF BELOW",
      "bTILDE LEFT HALF BELOWcRIGHT HALF BELOWbMACRON LEFT HALF BELOWcRIGHT HALF BELOW",
      "bCONJOINING MACRON BELOWbCYRILLIC TITLO LEFT HALFdRIGHT HALF",
      "aPRESENTATION FORM FOR VERTICAL TWO DOT LEADEReEM DASHeEN DASHeLOW LINEeWAVY LOW LINE",
      "eLEFT PARENTHESISeRIGHT PARENTHESISeLEFT CURLY BRACKETeRIGHT CURLY BRACKET",
      "eLEFT TORTOISE SHELL BRACKETeRIGHT TORTOISE SHELL BRACKETeLEFT BLACK LENTICULAR BRACKET",
      "eRIGHT BLACK LENTICULAR BRACKETeLEFT DOUBLE ANGLE BRACKETeRIGHT DOUBLE ANGLE BRACKET",
      "eLEFT ANGLE BRACKETeRIGHT ANGLE BRACKETeLEFT CORNER BRACKETeRIGHT CORNER BRACKET",
      "eLEFT WHITE CORNER BRACKETeRIGHT WHITE CORNER BRACKETaSESAME DOTaWHITE SESAME DOT",
      "aPRESENTATION FORM FOR VERTICAL LEFT SQUARE BRACKETeRIGHT SQUARE BRACKETaDASHED OVERLINE",
      "aCENTRELINE OVERLINEaWAVY OVERLINEaDOUBLE WAVY OVERLINEaDASHED LOW LINEaCENTRELINE LOW LINE",
      "aWAVY LOW LINEaSMALL COMMAbIDEOGRAPHIC COMMAbFULL STOP"]),
    (0xFE54, ["SMALL SEMICOLONbCOLONbQUESTION MARKbEXCLAMATION MARKbEM DASHbLEFT PARENTHESIS",
      "bRIGHT PARENTHESISbLEFT CURLY BRACKETbRIGHT CURLY BRACKETbLEFT TORTOISE SHELL BRACKET",
      "bRIGHT TORTOISE SHELL BRACKETbNUMBER SIGNbAMPERSANDbASTERISKbPLUS SIGNbHYPHEN-MINUS",
      "bLESS-THAN SIGNbGREATER-THAN SIGNbEQUALS SIGN"]),
    (0xFE68, ["SMALL REVERSE SOLIDUSbDOLLAR SIGNbPERCENT SIGNbCOMMERCIAL AT"]),
    (0xFE70, ["ARABIC FATHATAN ISOLATED FORMbTATWEEL WITH FATHATAN ABOVEbDAMMATAN ISOLATED FORM",
      "bTAIL FRAGMENTbKASRATAN ISOLATED FORM"]),
    (0xFE76, ["ARABIC FATHA ISOLATED FORMcMEDIAL FORMbDAMMA ISOLATED FORMcMEDIAL FORM",
      "bKASRA ISOLATED FORMcMEDIAL FORMbSHADDA ISOLATED FORMcMEDIAL FORMbSUKUN ISOLATED FORM",
      "cMEDIAL FORMbLETTER HAMZA ISOLATED FORMcALEF WITH MADDA ABOVE ISOLATED FORMgFINAL FORM",
      "eHAMZA ABOVE ISOLATED FORMgFINAL FORMcWAW WITH HAMZA ABOVE ISOLATED FORMgFINAL FORM",
      "cALEF WITH HAMZA BELOW ISOLATED FORMgFINAL FORMcYEH WITH HAMZA ABOVE ISOLATED FORM",
      "gFINAL FORMgINITIAL FORMgMEDIAL FORMcALEF ISOLATED FORMdFINAL FORMcBEH ISOLATED FORM",
      "dFINAL FORMdINITIAL FORMdMEDIAL FORMcTEH MARBUTA ISOLATED FORMeFINAL FORMdISOLATED FORM",
      "dFINAL FORMdINITIAL FORMdMEDIAL FORMcTHEH ISOLATED FORMdFINAL FORMdINITIAL FORMdMEDIAL FORM",
      "cJEEM ISOLATED FORMdFINAL FORMdINITIAL FORMdMEDIAL FORMcHAH ISOLATED FORMdFINAL FORM",
      "dINITIAL FORMdMEDIAL FORMcKHAH ISOLATED FORMdFINAL FORMdINITIAL FORMdMEDIAL FORM",
      "cDAL ISOLATED FORMdFINAL FORMcTHAL ISOLATED FORMdFINAL FORMcREH ISOLATED FORMdFINAL FORM",
      "cZAIN ISOLATED FORMdFINAL FORMcSEEN ISOLATED FORMdFINAL FORMdINITIAL FORMdMEDIAL FORM",
      "cSHEEN ISOLATED FORMdFINAL FORMdINITIAL FORMdMEDIAL FORMcSAD ISOLATED FORMdFINAL FORM",
      "dINITIAL FORMdMEDIAL FORMcDAD ISOLATED FORMdFINAL FORMdINITIAL FORMdMEDIAL FORM",
      "cTAH ISOLATED FORMdFINAL FORMdINITIAL FORMdMEDIAL FORMcZAH ISOLATED FORMdFINAL FORM",
      "dINITIAL FORMdMEDIAL FORMcAIN ISOLATED FORMdFINAL FORMdINITIAL FORMdMEDIAL FORM",
      "cGHAIN ISOLATED FORMdFINAL FORMdINITIAL FORMdMEDIAL FORMcFEH ISOLATED FORMdFINAL FORM",
      "dINITIAL FORMdMEDIAL FORMcQAF ISOLATED FORMdFINAL FORMdINITIAL FORMdMEDIAL FORM",
      "cKAF ISOLATED FORMdFINAL FORMdINITIAL FORMdMEDIAL FORMcLAM ISOLATED FORMdFINAL FORM",
      "dINITIAL FORMdMEDIAL FORMcMEEM ISOLATED FORMdFINAL FORMdINITIAL FORMdMEDIAL FORM",
      "cNOON ISOLATED FORMdFINAL FORMdINITIAL FORMdMEDIAL FORMcHEH ISOLATED FORMdFINAL FORM",
      "dINITIAL FORMdMEDIAL FORMcWAW ISOLATED FORMdFINAL FORMcALEF MAKSURA ISOLATED FORM",
      "eFINAL FORMcYEH ISOLATED FORMdFINAL FORMdINITIAL FORMdMEDIAL FORM",
      "bLIGATURE LAM WITH ALEF WITH MADDA ABOVE ISOLATED FORMiFINAL FORMgHAMZA ABOVE ISOLATED FORM",
      "iFINAL FORMhBELOW ISOLATED FORMiFINAL FORMfISOLATED FORMfFINAL FORM"]),
    (0xFEFF, ["ZERO WIDTH NO-BREAK SPACE"]),
    (0xFF01, ["FULLWIDTH EXCLAMATION MARKbQUOTATION MARKbNUMBER SIGNbDOLLAR SIGNbPERCENT SIGN",
      "bAMPERSANDbAPOSTROPHEbLEFT PARENTHESISbRIGHT PARENTHESISbASTERISKbPLUS SIGNbCOMMA",
      "bHYPHEN-MINUSbFULL STOPbSOLIDUSbDIGIT ZEROcONEcTWOcTHREEcFOURcFIVEcSIXcSEVENcEIGHTcNINE",
      "bCOLONbSEMICOLONbLESS-THAN SIGNbEQUALS SIGNbGREATER-THAN SIGNbQUESTION MARKbCOMMERCIAL AT",
      "bLATIN CAPITAL LETTER AeBeCeDeEeFeGeHeIeJeKeLeMeNeOePeQeReSeTeUeVeWeXeYeZ",
      "bLEFT SQUARE BRACKETbREVERSE SOLIDUSbRIGHT SQUARE BRACKETbCIRCUMFLEX ACCENTbLOW LINE",
      "bGRAVE ACCENTbLATIN SMALL LETTER AeBeCeDeEeFeGeHeIeJeKeLeMeNeOePeQeReSeTeUeVeWeXeYeZ",
      "bLEFT CURLY BRACKETbVERTICAL LINEbRIGHT CURLY BRACKETbTILDEbLEFT WHITE PARENTHESIS",
      "bRIGHT WHITE PARENTHESISaHALFWIDTH IDEOGRAPHIC FULL STOPbLEFT CORNER BRACKET",
      "bRIGHT CORNER BRACKETbIDEOGRAPHIC COMMAbKATAKANA MIDDLE DOTcLETTER WOdSMALL AeIeUeEeOeYAeYU",
      "eYOeTUbKATAKANA-HIRAGANA PROLONGED SOUND MARKbKATAKANA LETTER AdIdUdEdOdKAdKIdKUdKEdKOdSA",
      "dSIdSUdSEdSOdTAdTIdTUdTEdTOdNAdNIdNUdNEdNOdHAdHIdHUdHEdHOdMAdMIdMUdMEdMOdYAdYUdYOdRAdRIdRU",
      "dREdROdWAdNcVOICED SOUND MARKcSEMI-VOICED SOUND MARKbHANGUL FILLERcLETTER KIYEOK",
      "dSSANGKIYEOKdKIYEOK-SIOSdNIEUNdNIEUN-CIEUCdNIEUN-HIEUHdTIKEUTdSSANGTIKEUTdRIEUL",
      "dRIEUL-KIYEOKdRIEUL-MIEUMdRIEUL-PIEUPdRIEUL-SIOSdRIEUL-THIEUTHdRIEUL-PHIEUPHdRIEUL-HIEUH",
      "dMIEUMdPIEUPdSSANGPIEUPdPIEUP-SIOSdSIOSdSSANGSIOSdIEUNGdCIEUCdSSANGCIEUCdCHIEUCHdKHIEUKH",
      "dTHIEUTHdPHIEUPHdHIEUH"]),
    (0xFFC2, ["HALFWIDTH HANGUL LETTER AdAEdYAdYAEdEOdE"]),
    (0xFFCA, ["HALFWIDTH HANGUL LETTER YEOdYEdOdWAdWAEdOE"]),
    (0xFFD2, ["HALFWIDTH HANGUL LETTER YOdUdWEOdWEdWIdYU"]),
    (0xFFDA, ["HALFWIDTH HANGUL LETTER EUdYIdI"]),
    (0xFFE0, ["FULLWIDTH CENT SIGNbPOUND SIGNbNOT SIGNbMACRONbBROKEN BARbYEN SIGNbWON SIGN"]),
    (0xFFE8, ["HALFWIDTH FORMS LIGHT VERTICALbLEFTWARDS ARROWbUPWARDS ARROWbRIGHTWARDS ARROW",
      "bDOWNWARDS ARROWbBLACK SQUAREbWHITE CIRCLE"]),
    (0xFFF9, ["INTERLINEAR ANNOTATION ANCHORcSEPARATORcTERMINATORaOBJECT REPLACEMENT CHARACTER",
      "aREPLACEMENT CHARACTER"])]

end SheetScript.Text
