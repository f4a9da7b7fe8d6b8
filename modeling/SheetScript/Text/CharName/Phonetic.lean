namespace SheetScript.Text

def phoneticNames : List (Nat × List String) :=
  [(0x1D00, ["LATIN LETTER SMALL CAPITAL AeAEbSMALL LETTER TURNED AEbLETTER SMALL CAPITAL BARRED B",
      "eCeDeETHeEbSMALL LETTER TURNED OPEN EeIbLETTER SMALL CAPITAL JeKeL WITH STROKEeMeREVERSED N",
      "eOeOPEN ObSMALL LETTER SIDEWAYS OeOPEN OeO WITH STROKEdTURNED OEbLETTER SMALL CAPITAL OU",
      "bSMALL LETTER TOP HALF OdBOTTOM HALF ObLETTER SMALL CAPITAL PeREVERSED ReTURNED ReTeU",
      "bSMALL LETTER SIDEWAYS UeDIAERESIZED UeTURNED MbLETTER SMALL CAPITAL VeWeZeEZH",
      "cVOICED LARYNGEAL SPIRANTcAINaGREEK LETTER SMALL CAPITAL GAMMAeLAMDAePIeRHOePSI",
      "aCYRILLIC LETTER SMALL CAPITAL ELaMODIFIER LETTER CAPITAL AdAEdBdBARRED BdDdEdREVERSED EdG",
      "dHdIdJdKdLdMdNdREVERSED NdOdOUdPdRdTdUdWcSMALL AdTURNED AdALPHAdTURNED AEdBdDdEdSCHWA",
      "dOPEN EdTURNED OPEN EdGdTURNED IdKdMdENGdOdOPEN OdTOP HALF OdBOTTOM HALF OdPdTdUdSIDEWAYS U",
      "dTURNED MdVdAINdBETAdGREEK GAMMAdDELTAdGREEK PHIdCHIaLATIN SUBSCRIPT SMALL LETTER IeReUeV",
      "aGREEK SUBSCRIPT SMALL LETTER BETAeGAMMAeRHOePHIeCHIaLATIN SMALL LETTER UE",
      "dB WITH MIDDLE TILDEdD WITH MIDDLE TILDEdF WITH MIDDLE TILDEdM WITH MIDDLE TILDE",
      "dN WITH MIDDLE TILDEdP WITH MIDDLE TILDEdR WITH MIDDLE TILDEfFISHHOOK AND MIDDLE TILDE",
      "dS WITH MIDDLE TILDEdT WITH MIDDLE TILDEdZ WITH MIDDLE TILDEdTURNED G",
      "aMODIFIER LETTER CYRILLIC ENaLATIN SMALL LETTER INSULAR GdTH WITH STRIKETHROUGH",
      "cCAPITAL LETTER I WITH STROKEcLETTER IOTA WITH STROKEdP WITH STROKE",
      "cCAPITAL LETTER U WITH STROKEcLETTER UPSILON WITH STROKEdB WITH PALATAL HOOK",
      "dD WITH PALATAL HOOKdF WITH PALATAL HOOKdG WITH PALATAL HOOKdK WITH PALATAL HOOK",
      "dL WITH PALATAL HOOKdM WITH PALATAL HOOKdN WITH PALATAL HOOKdP WITH PALATAL HOOK",
      "dR WITH PALATAL HOOKdS WITH PALATAL HOOKdESH WITH PALATAL HOOKdV WITH PALATAL HOOK",
      "dX WITH PALATAL HOOKdZ WITH PALATAL HOOKdA WITH RETROFLEX HOOKdALPHA WITH RETROFLEX HOOK",
      "dD WITH HOOK AND TAILdE WITH RETROFLEX HOOKdOPEN E WITH RETROFLEX HOOK",
      "dREVERSED OPEN E WITH RETROFLEX HOOKdSCHWA WITH RETROFLEX HOOKdI WITH RETROFLEX HOOK",
      "dOPEN O WITH RETROFLEX HOOKdESH WITH RETROFLEX HOOKdU WITH RETROFLEX HOOK",
      "dEZH WITH RETROFLEX HOOKaMODIFIER LETTER SMALL TURNED ALPHAdCeWITH CURLdETHdREVERSED OPEN E",
      "dFdDOTLESS J WITH STROKEdSCRIPT GdTURNED HdI WITH STROKEdIOTAdCAPITAL IfWITH STROKE",
      "dJ WITH CROSSED-TAILdL WITH RETROFLEX HOOKfPALATAL HOOKdCAPITAL LdM WITH HOOK",
      "dTURNED M WITH LONG LEGdN WITH LEFT HOOKfRETROFLEX HOOKdCAPITAL NdBARRED OdPHIdS WITH HOOK",
      "dESHdT WITH PALATAL HOOKdU BARdUPSILONdCAPITAL UdV WITH HOOKdTURNED VdZeWITH RETROFLEX HOOK",
      "fCURLdEZHdTHETAaCOMBINING DOTTED GRAVE ACCENTcACUTE ACCENTbSNAKE BELOWbSUSPENSION MARK",
      "bMACRON-ACUTEbGRAVE-MACRONbMACRON-GRAVEbACUTE-MACRONbGRAVE-ACUTE-GRAVEbACUTE-GRAVE-ACUTE",
      "bLATIN SMALL LETTER R BELOWbBREVE-MACRONbMACRON-BREVEbDOUBLE CIRCUMFLEX ABOVEbOGONEK ABOVE",
      "bZIGZAG BELOWbIS BELOWbUR ABOVEbUS ABOVEbLATIN SMALL LETTER FLATTENED OPEN A ABOVEeAEeAOeAV",
      "eC CEDILLAeINSULAR DeETHeGcLETTER SMALL CAPITAL GcSMALL LETTER KeLcLETTER SMALL CAPITAL LfM",
      "cSMALL LETTER NcLETTER SMALL CAPITAL NfRcSMALL LETTER R ROTUNDAeSeLONG SeZeALPHAeBeBETA",
      "eSCHWAeFeL WITH DOUBLE MIDDLE TILDEeO WITH LIGHT CENTRALIZATION STROKEePeESH",
      "eU WITH LIGHT CENTRALIZATION STROKEeWeA WITH DIAERESISeO WITH DIAERESISeU WITH DIAERESIS",
      "bUP TACK ABOVEbKAVYKA ABOVE RIGHTdLEFTbDOT ABOVE LEFTbWIDE INVERTED BRIDGE BELOW",
      "bDOT BELOW LEFTbDELETION MARKbDOUBLE INVERTED BREVE BELOWbALMOST EQUAL TO BELOW",
      "bLEFT ARROWHEAD ABOVEbRIGHT ARROWHEAD AND DOWN ARROWHEAD BELOW",
      "aLATIN CAPITAL LETTER A WITH RING BELOWbSMALL LETTER A WITH RING BELOW",
      "bCAPITAL LETTER B WITH DOT ABOVEbSMALL LETTER B WITH DOT ABOVE",
      "bCAPITAL LETTER B WITH DOT BELOWbSMALL LETTER B WITH DOT BELOW",
      "bCAPITAL LETTER B WITH LINE BELOWbSMALL LETTER B WITH LINE BELOW",
      "bCAPITAL LETTER C WITH CEDILLA AND ACUTEbSMALL LETTER C WITH CEDILLA AND ACUTE",
      "bCAPITAL LETTER D WITH DOT ABOVEbSMALL LETTER D WITH DOT ABOVE",
      "bCAPITAL LETTER D WITH DOT BELOWbSMALL LETTER D WITH DOT BELOW",
      "bCAPITAL LETTER D WITH LINE BELOWbSMALL LETTER D WITH LINE BELOW",
      "bCAPITAL LETTER D WITH CEDILLAbSMALL LETTER D WITH CEDILLA",
      "bCAPITAL LETTER D WITH CIRCUMFLEX BELOWbSMALL LETTER D WITH CIRCUMFLEX BELOW",
      "bCAPITAL LETTER E WITH MACRON AND GRAVEbSMALL LETTER E WITH MACRON AND GRAVE",
      "bCAPITAL LETTER E WITH MACRON AND ACUTEbSMALL LETTER E WITH MACRON AND ACUTE",
      "bCAPITAL LETTER E WITH CIRCUMFLEX BELOWbSMALL LETTER E WITH CIRCUMFLEX BELOW",
      "bCAPITAL LETTER E WITH TILDE BELOWbSMALL LETTER E WITH TILDE BELOW",
      "bCAPITAL LETTER E WITH CEDILLA AND BREVEbSMALL LETTER E WITH CEDILLA AND BREVE",
      "bCAPITAL LETTER F WITH DOT ABOVEbSMALL LETTER F WITH DOT ABOVEbCAPITAL LETTER G WITH MACRON",
      "bSMALL LETTER G WITH MACRONbCAPITAL LETTER H WITH DOT ABOVEbSMALL LETTER H WITH DOT ABOVE",
      "bCAPITAL LETTER H WITH DOT BELOWbSMALL LETTER H WITH DOT BELOW",
      "bCAPITAL LETTER H WITH DIAERESISbSMALL LETTER H WITH DIAERESIS",
      "bCAPITAL LETTER H WITH CEDILLAbSMALL LETTER H WITH CEDILLA",
      "bCAPITAL LETTER H WITH BREVE BELOWbSMALL LETTER H WITH BREVE BELOW",
      "bCAPITAL LETTER I WITH TILDE BELOWbSMALL LETTER I WITH TILDE BELOW",
      "bCAPITAL LETTER I WITH DIAERESIS AND ACUTEbSMALL LETTER I WITH DIAERESIS AND ACUTE",
      "bCAPITAL LETTER K WITH ACUTEbSMALL LETTER K WITH ACUTEbCAPITAL LETTER K WITH DOT BELOW",
      "bSMALL LETTER K WITH DOT BELOWbCAPITAL LETTER K WITH LINE BELOW",
      "bSMALL LETTER K WITH LINE BELOWbCAPITAL LETTER L WITH DOT BELOW",
      "bSMALL LETTER L WITH DOT BELOWbCAPITAL LETTER L WITH DOT BELOW AND MACRON",
      "bSMALL LETTER L WITH DOT BELOW AND MACRONbCAPITAL LETTER L WITH LINE BELOW",
      "bSMALL LETTER L WITH LINE BELOWbCAPITAL LETTER L WITH CIRCUMFLEX BELOW",
      "bSMALL LETTER L WITH CIRCUMFLEX BELOWbCAPITAL LETTER M WITH ACUTEbSMALL LETTER M WITH ACUTE",
      "bCAPITAL LETTER M WITH DOT ABOVEbSMALL LETTER M WITH DOT ABOVE",
      "bCAPITAL LETTER M WITH DOT BELOWbSMALL LETTER M WITH DOT BELOW",
      "bCAPITAL LETTER N WITH DOT ABOVEbSMALL LETTER N WITH DOT ABOVE",
      "bCAPITAL LETTER N WITH DOT BELOWbSMALL LETTER N WITH DOT BELOW",
      "bCAPITAL LETTER N WITH LINE BELOWbSMALL LETTER N WITH LINE BELOW",
      "bCAPITAL LETTER N WITH CIRCUMFLEX BELOWbSMALL LETTER N WITH CIRCUMFLEX BELOW",
      "bCAPITAL LETTER O WITH TILDE AND ACUTEbSMALL LETTER O WITH TILDE AND ACUTE",
      "bCAPITAL LETTER O WITH TILDE AND DIAERESISbSMALL LETTER O WITH TILDE AND DIAERESIS",
      "bCAPITAL LETTER O WITH MACRON AND GRAVEbSMALL LETTER O WITH MACRON AND GRAVE",
      "bCAPITAL LETTER O WITH MACRON AND ACUTEbSMALL LETTER O WITH MACRON AND ACUTE",
      "bCAPITAL LETTER P WITH ACUTEbSMALL LETTER P WITH ACUTEbCAPITAL LETTER P WITH DOT ABOVE",
      "bSMALL LETTER P WITH DOT ABOVEbCAPITAL LETTER R WITH DOT ABOVE",
      "bSMALL LETTER R WITH DOT ABOVEbCAPITAL LETTER R WITH DOT BELOW",
      "bSMALL LETTER R WITH DOT BELOWbCAPITAL LETTER R WITH DOT BELOW AND MACRON",
      "bSMALL LETTER R WITH DOT BELOW AND MACRONbCAPITAL LETTER R WITH LINE BELOW",
      "bSMALL LETTER R WITH LINE BELOWbCAPITAL LETTER S WITH DOT ABOVE",
      "bSMALL LETTER S WITH DOT ABOVEbCAPITAL LETTER S WITH DOT BELOW",
      "bSMALL LETTER S WITH DOT BELOWbCAPITAL LETTER S WITH ACUTE AND DOT ABOVE",
      "bSMALL LETTER S WITH ACUTE AND DOT ABOVEbCAPITAL LETTER S WITH CARON AND DOT ABOVE",
      "bSMALL LETTER S WITH CARON AND DOT ABOVEbCAPITAL LETTER S WITH DOT BELOW AND DOT ABOVE",
      "bSMALL LETTER S WITH DOT BELOW AND DOT ABOVEbCAPITAL LETTER T WITH DOT ABOVE",
      "bSMALL LETTER T WITH DOT ABOVEbCAPITAL LETTER T WITH DOT BELOW",
      "bSMALL LETTER T WITH DOT BELOWbCAPITAL LETTER T WITH LINE BELOW",
      "bSMALL LETTER T WITH LINE BELOWbCAPITAL LETTER T WITH CIRCUMFLEX BELOW",
      "bSMALL LETTER T WITH CIRCUMFLEX BELOWbCAPITAL LETTER U WITH DIAERESIS BELOW",
      "bSMALL LETTER U WITH DIAERESIS BELOWbCAPITAL LETTER U WITH TILDE BELOW",
      "bSMALL LETTER U WITH TILDE BELOWbCAPITAL LETTER U WITH CIRCUMFLEX BELOW",
      "bSMALL LETTER U WITH CIRCUMFLEX BELOWbCAPITAL LETTER U WITH TILDE AND ACUTE",
      "bSMALL LETTER U WITH TILDE AND ACUTEbCAPITAL LETTER U WITH MACRON AND DIAERESIS",
      "bSMALL LETTER U WITH MACRON AND DIAERESISbCAPITAL LETTER V WITH TILDE",
      "bSMALL LETTER V WITH TILDEbCAPITAL LETTER V WITH DOT BELOWbSMALL LETTER V WITH DOT BELOW",
      "bCAPITAL LETTER W WITH GRAVEbSMALL LETTER W WITH GRAVEbCAPITAL LETTER W WITH ACUTE",
      "bSMALL LETTER W WITH ACUTEbCAPITAL LETTER W WITH DIAERESISbSMALL LETTER W WITH DIAERESIS",
      "bCAPITAL LETTER W WITH DOT ABOVEbSMALL LETTER W WITH DOT ABOVE",
      "bCAPITAL LETTER W WITH DOT BELOWbSMALL LETTER W WITH DOT BELOW",
      "bCAPITAL LETTER X WITH DOT ABOVEbSMALL LETTER X WITH DOT ABOVE",
      "bCAPITAL LETTER X WITH DIAERESISbSMALL LETTER X WITH DIAERESIS",
      "bCAPITAL LETTER Y WITH DOT ABOVEbSMALL LETTER Y WITH DOT ABOVE",
      "bCAPITAL LETTER Z WITH CIRCUMFLEXbSMALL LETTER Z WITH CIRCUMFLEX",
      "bCAPITAL LETTER Z WITH DOT BELOWbSMALL LETTER Z WITH DOT BELOW",
      "bCAPITAL LETTER Z WITH LINE BELOWbSMALL LETTER Z WITH LINE BELOWdH WITH LINE BELOW",
      "dT WITH DIAERESISdW WITH RING ABOVEdY WITH RING ABOVEdA WITH RIGHT HALF RING",
      "dLONG S WITH DOT ABOVEgDIAGONAL STROKEgHIGH STROKEbCAPITAL LETTER SHARP S",
      "bSMALL LETTER DELTAbCAPITAL LETTER A WITH DOT BELOWbSMALL LETTER A WITH DOT BELOW",
      "bCAPITAL LETTER A WITH HOOK ABOVEbSMALL LETTER A WITH HOOK ABOVE",
      "bCAPITAL LETTER A WITH CIRCUMFLEX AND ACUTEbSMALL LETTER A WITH CIRCUMFLEX AND ACUTE",
      "bCAPITAL LETTER A WITH CIRCUMFLEX AND GRAVEbSMALL LETTER A WITH CIRCUMFLEX AND GRAVE",
      "bCAPITAL LETTER A WITH CIRCUMFLEX AND HOOK ABOVE",
      "bSMALL LETTER A WITH CIRCUMFLEX AND HOOK ABOVEbCAPITAL LETTER A WITH CIRCUMFLEX AND TILDE",
      "bSMALL LETTER A WITH CIRCUMFLEX AND TILDEbCAPITAL LETTER A WITH CIRCUMFLEX AND DOT BELOW",
      "bSMALL LETTER A WITH CIRCUMFLEX AND DOT BELOWbCAPITAL LETTER A WITH BREVE AND ACUTE",
      "bSMALL LETTER A WITH BREVE AND ACUTEbCAPITAL LETTER A WITH BREVE AND GRAVE",
      "bSMALL LETTER A WITH BREVE AND GRAVEbCAPITAL LETTER A WITH BREVE AND HOOK ABOVE",
      "bSMALL LETTER A WITH BREVE AND HOOK ABOVEbCAPITAL LETTER A WITH BREVE AND TILDE",
      "bSMALL LETTER A WITH BREVE AND TILDEbCAPITAL LETTER A WITH BREVE AND DOT BELOW",
      "bSMALL LETTER A WITH BREVE AND DOT BELOWbCAPITAL LETTER E WITH DOT BELOW",
      "bSMALL LETTER E WITH DOT BELOWbCAPITAL LETTER E WITH HOOK ABOVE",
      "bSMALL LETTER E WITH HOOK ABOVEbCAPITAL LETTER E WITH TILDEbSMALL LETTER E WITH TILDE",
      "bCAPITAL LETTER E WITH CIRCUMFLEX AND ACUTEbSMALL LETTER E WITH CIRCUMFLEX AND ACUTE",
      "bCAPITAL LETTER E WITH CIRCUMFLEX AND GRAVEbSMALL LETTER E WITH CIRCUMFLEX AND GRAVE",
      "bCAPITAL LETTER E WITH CIRCUMFLEX AND HOOK ABOVE",
      "bSMALL LETTER E WITH CIRCUMFLEX AND HOOK ABOVEbCAPITAL LETTER E WITH CIRCUMFLEX AND TILDE",
      "bSMALL LETTER E WITH CIRCUMFLEX AND TILDEbCAPITAL LETTER E WITH CIRCUMFLEX AND DOT BELOW",
      "bSMALL LETTER E WITH CIRCUMFLEX AND DOT BELOWbCAPITAL LETTER I WITH HOOK ABOVE",
      "bSMALL LETTER I WITH HOOK ABOVEbCAPITAL LETTER I WITH DOT BELOW",
      "bSMALL LETTER I WITH DOT BELOWbCAPITAL LETTER O WITH DOT BELOW",
      "bSMALL LETTER O WITH DOT BELOWbCAPITAL LETTER O WITH HOOK ABOVE",
      "bSMALL LETTER O WITH HOOK ABOVEbCAPITAL LETTER O WITH CIRCUMFLEX AND ACUTE",
      "bSMALL LETTER O WITH CIRCUMFLEX AND ACUTEbCAPITAL LETTER O WITH CIRCUMFLEX AND GRAVE",
      "bSMALL LETTER O WITH CIRCUMFLEX AND GRAVEbCAPITAL LETTER O WITH CIRCUMFLEX AND HOOK ABOVE",
      "bSMALL LETTER O WITH CIRCUMFLEX AND HOOK ABOVEbCAPITAL LETTER O WITH CIRCUMFLEX AND TILDE",
      "bSMALL LETTER O WITH CIRCUMFLEX AND TILDEbCAPITAL LETTER O WITH CIRCUMFLEX AND DOT BELOW",
      "bSMALL LETTER O WITH CIRCUMFLEX AND DOT BELOWbCAPITAL LETTER O WITH HORN AND ACUTE",
      "bSMALL LETTER O WITH HORN AND ACUTEbCAPITAL LETTER O WITH HORN AND GRAVE",
      "bSMALL LETTER O WITH HORN AND GRAVEbCAPITAL LETTER O WITH HORN AND HOOK ABOVE",
      "bSMALL LETTER O WITH HORN AND HOOK ABOVEbCAPITAL LETTER O WITH HORN AND TILDE",
      "bSMALL LETTER O WITH HORN AND TILDEbCAPITAL LETTER O WITH HORN AND DOT BELOW",
      "bSMALL LETTER O WITH HORN AND DOT BELOWbCAPITAL LETTER U WITH DOT BELOW",
      "bSMALL LETTER U WITH DOT BELOWbCAPITAL LETTER U WITH HOOK ABOVE",
      "bSMALL LETTER U WITH HOOK ABOVEbCAPITAL LETTER U WITH HORN AND ACUTE",
      "bSMALL LETTER U WITH HORN AND ACUTEbCAPITAL LETTER U WITH HORN AND GRAVE",
      "bSMALL LETTER U WITH HORN AND GRAVEbCAPITAL LETTER U WITH HORN AND HOOK ABOVE",
      "bSMALL LETTER U WITH HORN AND HOOK ABOVEbCAPITAL LETTER U WITH HORN AND TILDE",
      "bSMALL LETTER U WITH HORN AND TILDEbCAPITAL LETTER U WITH HORN AND DOT BELOW",
      "bSMALL LETTER U WITH HORN AND DOT BELOWbCAPITAL LETTER Y WITH GRAVE",
      "bSMALL LETTER Y WITH GRAVEbCAPITAL LETTER Y WITH DOT BELOWbSMALL LETTER Y WITH DOT BELOW",
      "bCAPITAL LETTER Y WITH HOOK ABOVEbSMALL LETTER Y WITH HOOK ABOVE",
      "bCAPITAL LETTER Y WITH TILDEbSMALL LETTER Y WITH TILDEbCAPITAL LETTER MIDDLE-WELSH LL",
      "bSMALL LETTER MIDDLE-WELSH LLbCAPITAL LETTER MIDDLE-WELSH VbSMALL LETTER MIDDLE-WELSH V",
      "bCAPITAL LETTER Y WITH LOOPbSMALL LETTER Y WITH LOOPaGREEK SMALL LETTER ALPHA WITH PSILI",
      "fDASIAfPSILI AND VARIAfDASIA AND VARIAfPSILI AND OXIAfDASIA AND OXIAfPSILI AND PERISPOMENI",
      "fDASIA AND PERISPOMENIbCAPITAL LETTER ALPHA WITH PSILIfDASIAfPSILI AND VARIA",
      "fDASIA AND VARIAfPSILI AND OXIAfDASIA AND OXIAfPSILI AND PERISPOMENIfDASIA AND PERISPOMENI",
      "bSMALL LETTER EPSILON WITH PSILIfDASIAfPSILI AND VARIAfDASIA AND VARIAfPSILI AND OXIA",
      "fDASIA AND OXIA"]),
    (0x1F18, ["GREEK CAPITAL LETTER EPSILON WITH PSILIfDASIAfPSILI AND VARIAfDASIA AND VARIA",
      "fPSILI AND OXIAfDASIA AND OXIA"]),
    (0x1F20, ["GREEK SMALL LETTER ETA WITH PSILIfDASIAfPSILI AND VARIAfDASIA AND VARIA",
      "fPSILI AND OXIAfDASIA AND OXIAfPSILI AND PERISPOMENIfDASIA AND PERISPOMENI",
      "bCAPITAL LETTER ETA WITH PSILIfDASIAfPSILI AND VARIAfDASIA AND VARIAfPSILI AND OXIA",
      "fDASIA AND OXIAfPSILI AND PERISPOMENIfDASIA AND PERISPOMENIbSMALL LETTER IOTA WITH PSILI",
      "fDASIAfPSILI AND VARIAfDASIA AND VARIAfPSILI AND OXIAfDASIA AND OXIAfPSILI AND PERISPOMENI",
      "fDASIA AND PERISPOMENIbCAPITAL LETTER IOTA WITH PSILIfDASIAfPSILI AND VARIAfDASIA AND VARIA",
      "fPSILI AND OXIAfDASIA AND OXIAfPSILI AND PERISPOMENIfDASIA AND PERISPOMENI",
      "bSMALL LETTER OMICRON WITH PSILIfDASIAfPSILI AND VARIAfDASIA AND VARIAfPSILI AND OXIA",
      "fDASIA AND OXIA"]),
    (0x1F48, ["GREEK CAPITAL LETTER OMICRON WITH PSILIfDASIAfPSILI AND VARIAfDASIA AND VARIA",
      "fPSILI AND OXIAfDASIA AND OXIA"]),
    (0x1F50, ["GREEK SMALL LETTER UPSILON WITH PSILIfDASIAfPSILI AND VARIAfDASIA AND VARIA",
      "fPSILI AND OXIAfDASIA AND OXIAfPSILI AND PERISPOMENIfDASIA AND PERISPOMENI"]),
    (0x1F59, ["GREEK CAPITAL LETTER UPSILON WITH DASIA"]),
    (0x1F5B, ["GREEK CAPITAL LETTER UPSILON WITH DASIA AND VARIA"]),
    (0x1F5D, ["GREEK CAPITAL LETTER UPSILON WITH DASIA AND OXIA"]),
    (0x1F5F, ["GREEK CAPITAL LETTER UPSILON WITH DASIA AND PERISPOMENI",
      "bSMALL LETTER OMEGA WITH PSILIfDASIAfPSILI AND VARIAfDASIA AND VARIAfPSILI AND OXIA",
      "fDASIA AND OXIAfPSILI AND PERISPOMENIfDASIA AND PERISPOMENIbCAPITAL LETTER OMEGA WITH PSILI",
      "fDASIAfPSILI AND VARIAfDASIA AND VARIAfPSILI AND OXIAfDASIA AND OXIAfPSILI AND PERISPOMENI",
      "fDASIA AND PERISPOMENIbSMALL LETTER ALPHA WITH VARIAfOXIAdEPSILON WITH VARIAfOXIA",
      "dETA WITH VARIAfOXIAdIOTA WITH VARIAfOXIAdOMICRON WITH VARIAfOXIAdUPSILON WITH VARIAfOXIA",
      "dOMEGA WITH VARIAfOXIA"]),
    (0x1F80, ["GREEK SMALL LETTER ALPHA WITH PSILI AND YPOGEGRAMMENIfDASIA AND YPOGEGRAMMENI",
      "fPSILI AND VARIA AND YPOGEGRAMMENIfDASIA AND VARIA AND YPOGEGRAMMENI",
      "fPSILI AND OXIA AND YPOGEGRAMMENIfDASIA AND OXIA AND YPOGEGRAMMENI",
      "fPSILI AND PERISPOMENI AND YPOGEGRAMMENIfDASIA AND PERISPOMENI AND YPOGEGRAMMENI",
      "bCAPITAL LETTER ALPHA WITH PSILI AND PROSGEGRAMMENIfDASIA AND PROSGEGRAMMENI",
      "fPSILI AND VARIA AND PROSGEGRAMMENIfDASIA AND VARIA AND PROSGEGRAMMENI",
      "fPSILI AND OXIA AND PROSGEGRAMMENIfDASIA AND OXIA AND PROSGEGRAMMENI",
      "fPSILI AND PERISPOMENI AND PROSGEGRAMMENIfDASIA AND PERISPOMENI AND PROSGEGRAMMENI",
      "bSMALL LETTER ETA WITH PSILI AND YPOGEGRAMMENIfDASIA AND YPOGEGRAMMENI",
      "fPSILI AND VARIA AND YPOGEGRAMMENIfDASIA AND VARIA AND YPOGEGRAMMENI",
      "fPSILI AND OXIA AND YPOGEGRAMMENIfDASIA AND OXIA AND YPOGEGRAMMENI",
      "fPSILI AND PERISPOMENI AND YPOGEGRAMMENIfDASIA AND PERISPOMENI AND YPOGEGRAMMENI",
      "bCAPITAL LETTER ETA WITH PSILI AND PROSGEGRAMMENIfDASIA AND PROSGEGRAMMENI",
      "fPSILI AND VARIA AND PROSGEGRAMMENIfDASIA AND VARIA AND PROSGEGRAMMENI",
      "fPSILI AND OXIA AND PROSGEGRAMMENIfDASIA AND OXIA AND PROSGEGRAMMENI",
      "fPSILI AND PERISPOMENI AND PROSGEGRAMMENIfDASIA AND PERISPOMENI AND PROSGEGRAMMENI",
      "bSMALL LETTER OMEGA WITH PSILI AND YPOGEGRAMMENIfDASIA AND YPOGEGRAMMENI",
      "fPSILI AND VARIA AND YPOGEGRAMMENIfDASIA AND VARIA AND YPOGEGRAMMENI",
      "fPSILI AND OXIA AND YPOGEGRAMMENIfDASIA AND OXIA AND YPOGEGRAMMENI",
      "fPSILI AND PERISPOMENI AND YPOGEGRAMMENIfDASIA AND PERISPOMENI AND YPOGEGRAMMENI",
      "bCAPITAL LETTER OMEGA WITH PSILI AND PROSGEGRAMMENIfDASIA AND PROSGEGRAMMENI",
      "fPSILI AND VARIA AND PROSGEGRAMMENIfDASIA AND VARIA AND PROSGEGRAMMENI",
      "fPSILI AND OXIA AND PROSGEGRAMMENIfDASIA AND OXIA AND PROSGEGRAMMENI",
      "fPSILI AND PERISPOMENI AND PROSGEGRAMMENIfDASIA AND PERISPOMENI AND PROSGEGRAMMENI",
      "bSMALL LETTER ALPHA WITH VRACHYfMACRONfVARIA AND YPOGEGRAMMENIfYPOGEGRAMMENI",
      "fOXIA AND YPOGEGRAMMENI"]),
    (0x1FB6, ["GREEK SMALL LETTER ALPHA WITH PERISPOMENIgAND YPOGEGRAMMENI",
      "bCAPITAL LETTER ALPHA WITH VRACHYfMACRONfVARIAfOXIAfPROSGEGRAMMENIbKORONISbPROSGEGRAMMENI",
      "bPSILIbPERISPOMENIbDIALYTIKA AND PERISPOMENIbSMALL LETTER ETA WITH VARIA AND YPOGEGRAMMENI",
      "fYPOGEGRAMMENIfOXIA AND YPOGEGRAMMENI"]),
    (0x1FC6, ["GREEK SMALL LETTER ETA WITH PERISPOMENIgAND YPOGEGRAMMENI",
      "bCAPITAL LETTER EPSILON WITH VARIAfOXIAdETA WITH VARIAfOXIAfPROSGEGRAMMENIbPSILI AND VARIA",
      "dOXIAdPERISPOMENIbSMALL LETTER IOTA WITH VRACHYfMACRONfDIALYTIKA AND VARIAhOXIA"]),
    (0x1FD6, ["GREEK SMALL LETTER IOTA WITH PERISPOMENIfDIALYTIKA AND PERISPOMENI",
      "bCAPITAL LETTER IOTA WITH VRACHYfMACRONfVARIAfOXIA"]),
    (0x1FDD, ["GREEK DASIA AND VARIAdOXIAdPERISPOMENIbSMALL LETTER UPSILON WITH VRACHYfMACRON",
      "fDIALYTIKA AND VARIAhOXIAdRHO WITH PSILIfDASIAdUPSILON WITH PERISPOMENI",
      "fDIALYTIKA AND PERISPOMENIbCAPITAL LETTER UPSILON WITH VRACHYfMACRONfVARIAfOXIA",
      "dRHO WITH DASIAbDIALYTIKA AND VARIAdOXIAbVARIA"]),
    (0x1FF2, ["GREEK SMALL LETTER OMEGA WITH VARIA AND YPOGEGRAMMENIfYPOGEGRAMMENI",
      "fOXIA AND YPOGEGRAMMENI"]),
    (0x1FF6, ["GREEK SMALL LETTER OMEGA WITH PERISPOMENIgAND YPOGEGRAMMENI",
      "bCAPITAL LETTER OMICRON WITH VARIAfOXIAdOMEGA WITH VARIAfOXIAfPROSGEGRAMMENIbOXIAbDASIA"])]

end SheetScript.Text
