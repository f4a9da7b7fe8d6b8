namespace SheetScript.Text

def ancientNames : List (Nat × List String) :=
  [(0x10000, ["LINEAR B SYLLABLE B008 AdB038 EdB028 IdB061 OdB010 UdB001 DAdB045 DEdB007 DI",
      "dB014 DOdB051 DUdB057 JAdB046 JE"]),
    (0x1000D, ["LINEAR B SYLLABLE B036 JOdB065 JUdB077 KAdB044 KEdB067 KIdB070 KOdB081 KUdB080 MA",
      "dB013 MEdB073 MIdB015 MOdB023 MUdB006 NAdB024 NEdB030 NIdB052 NOdB055 NUdB003 PAdB072 PE",
      "dB039 PIdB011 POdB050 PUdB016 QAdB078 QEdB021 QIdB032 QO"]),
    (0x10028, ["LINEAR B SYLLABLE B060 RAdB027 REdB053 RIdB002 ROdB026 RUdB031 SAdB009 SEdB041 SI",
      "dB012 SOdB058 SUdB059 TAdB004 TEdB037 TIdB005 TOdB069 TUdB054 WAdB075 WEdB040 WIdB042 WO"]),
    (0x1003C, ["LINEAR B SYLLABLE B017 ZAdB074 ZE"]),
    (0x1003F, ["LINEAR B SYLLABLE B020 ZOdB025 A2dB043 A3dB085 AUdB071 DWEdB090 DWOdB048 NWA",
      "dB029 PU2dB062 PTEdB076 RA2dB033 RA3dB068 RO2dB066 TA2dB087 TWEdB091 TWO"]),
    (0x10050, ["LINEAR B SYMBOL B018dB019dB022dB034dB047dB049dB056dB063dB064dB079dB082dB083dB086",
      "dB089"]),
    (0x10080, ["LINEAR B IDEOGRAM B100 MANdB102 WOMANdB104 DEERdB105 EQUIDdB105F MARE",
      "dB105M STALLIONdB106F EWEdB106M RAMdB107F SHE-GOATdB107M HE-GOATdB108F SOWdB108M BOAR",
      "dB109F COWdB109M BULLdB120 WHEATdB121 BARLEYdB122 OLIVEdB123 SPICEdB125 CYPERUS",
      "cMONOGRAM B127 KAPOdB128 KANAKOcIDEOGRAM B130 OILdB131 WINEdB132cMONOGRAM B133 AREPA",
      "dB135 MERIcIDEOGRAM B140 BRONZEdB141 GOLDdB142dB145 WOOLdB146dB150dB151 HORNdB152dB153dB154",
      "cMONOGRAM B156 TURO2cIDEOGRAM B157dB158dB159 CLOTHdB160dB161dB162 GARMENTdB163 ARMOURdB164",
      "dB165dB166dB167dB168dB169dB170dB171dB172dB173 MONTHdB174dB176 TREEdB177dB178dB179dB180dB181",
      "dB182dB183dB184dB185dB189dB190dB191 HELMETdB220 FOOTSTOOLdB225 BATHTUBdB230 SPEAR",
      "dB231 ARROWdB232dB233 SWORDdB234dB236dB240 WHEELED CHARIOTdB241 CHARIOTdB242 CHARIOT FRAME",
      "dB243 WHEELdB245dB246cMONOGRAM B247 DIPTEcIDEOGRAM B248dB249dB251dB252dB253dB254 DARTdB255",
      "dB256dB257dB258dB259dVESSEL B155eB200eB201eB202eB203eB204eB205eB206eB207eB208eB209eB210",
      "eB211eB212eB213eB214eB215eB216eB217eB218eB219eB221eB222eB226eB227eB228eB229eB250eB305"]),
    (0x10100, ["AEGEAN WORD SEPARATOR LINEdDOTbCHECK MARK"]),
    (0x10107, ["AEGEAN NUMBER ONEcTWOcTHREEcFOURcFIVEcSIXcSEVENcEIGHTcNINEcTENcTWENTYcTHIRTYcFORTY",
      "cFIFTYcSIXTYcSEVENTYcEIGHTYcNINETYcONE HUNDREDcTWO HUNDREDcTHREE HUNDREDcFOUR HUNDRED",
      "cFIVE HUNDREDcSIX HUNDREDcSEVEN HUNDREDcEIGHT HUNDREDcNINE HUNDREDcONE THOUSAND",
      "cTWO THOUSANDcTHREE THOUSANDcFOUR THOUSANDcFIVE THOUSANDcSIX THOUSANDcSEVEN THOUSAND",
      "cEIGHT THOUSANDcNINE THOUSANDcTEN THOUSANDcTWENTY THOUSANDcTHIRTY THOUSANDcFORTY THOUSAND",
      "cFIFTY THOUSANDcSIXTY THOUSANDcSEVENTY THOUSANDcEIGHTY THOUSANDcNINETY THOUSAND"]),
    (0x10137, ["AEGEAN WEIGHT BASE UNITcFIRST SUBUNITcSECOND SUBUNITcTHIRD SUBUNITcFOURTH SUBUNIT",
      "bDRY MEASURE FIRST SUBUNITbLIQUID MEASURE FIRST SUBUNITbMEASURE SECOND SUBUNIT",
      "cTHIRD SUBUNITaGREEK ACROPHONIC ATTIC ONE QUARTEReHALFeDRACHMAdFIVEdFIFTYdFIVE HUNDRED",
      "eTHOUSANDdFIFTY THOUSANDdFIVE TALENTSdTEN TALENTSdFIFTY TALENTSdONE HUNDRED TALENTS",
      "dFIVE HUNDRED TALENTSdONE THOUSAND TALENTSdFIVE THOUSAND TALENTSeSTATERSdTEN STATERS",
      "dFIFTY STATERSdONE HUNDRED STATERSdFIVE HUNDRED STATERSdONE THOUSAND STATERS",
      "dTEN THOUSAND STATERSdFIFTY THOUSAND STATERSdTEN MNAScHERAEUM ONE PLETHRONcTHESPIAN ONE",
      "cHERMIONIAN ONEcEPIDAUREAN TWOcTHESPIAN TWOcCYRENAIC TWO DRACHMAScEPIDAUREAN TWO DRACHMAS",
      "cTROEZENIAN FIVEdTENeALTERNATE FORMcHERMIONIAN TENcMESSENIAN TENcTHESPIAN TENdTHIRTY",
      "cTROEZENIAN FIFTYeALTERNATE FORMcHERMIONIAN FIFTYcTHESPIAN FIFTYdONE HUNDREDdTHREE HUNDRED",
      "cEPIDAUREAN FIVE HUNDREDcTROEZENIAN FIVE HUNDREDcTHESPIAN FIVE HUNDRED",
      "cCARYSTIAN FIVE HUNDREDcNAXIAN FIVE HUNDREDcTHESPIAN ONE THOUSANDdFIVE THOUSAND",
      "cDELPHIC FIVE MNAScSTRATIAN FIFTY MNASbONE HALF SIGNeALTERNATE FORMbTWO THIRDS SIGN",
      "bTHREE QUARTERS SIGNbYEAR SIGNbTALENT SIGNbDRACHMA SIGNbOBOL SIGNbTWO OBOLS SIGN",
      "bTHREE OBOLS SIGNbFOUR OBOLS SIGNbFIVE OBOLS SIGNbMETRETES SIGNbKYATHOS BASE SIGN",
      "bLITRA SIGNbOUNKIA SIGNbXESTES SIGNbARTABE SIGNbAROURA SIGNbGRAMMA SIGNbTRYBLION BASE SIGN",
      "bZERO SIGNbONE QUARTER SIGNbSINUSOID SIGNbINDICTION SIGNaNOMISMA SIGN"]),
    (0x10190, ["ROMAN SEXTANS SIGNbUNCIA SIGNbSEMUNCIA SIGNbSEXTULA SIGNbDIMIDIA SEXTULA SIGN",
      "bSILIQUA SIGNbDENARIUS SIGNbQUINARIUS SIGNbSESTERTIUS SIGNbDUPONDIUS SIGNbAS SIGN",
      "bCENTURIAL SIGNaASCIA SYMBOL"]),
    (0x101A0, ["GREEK SYMBOL TAU RHO"]),
    (0x101D0, ["PHAISTOS DISC SIGN PEDESTRIANdPLUMED HEADdTATTOOED HEADdCAPTIVEdCHILDdWOMANdHELMET",
      "dGAUNTLETdTIARAdARROWdBOWdSHIELDdCLUBdMANACLESdMATTOCKdSAWdLIDdBOOMERANGdCARPENTRY PLANE",
      "dDOLIUMdCOMBdSLINGdCOLUMNdBEEHIVEdSHIPdHORNdHIDEdBULLS LEGdCATdRAMdEAGLEdDOVEdTUNNYdBEE",
      "dPLANE TREEdVINEdPAPYRUSdROSETTEdLILYdOX BACKdFLUTEdGRATERdSTRAINERdSMALL AXEdWAVY BAND",
      "dCOMBINING OBLIQUE STROKE"]),
    (0x10280, ["LYCIAN LETTER AcEcBcBHcGcDcIcWcZcTHcJcKcQcLcMcNcMMcNNcUcPcKKcRcScTcTTcANcENcHcX"]),
    (0x102A0, ["CARIAN LETTER AcP2cDcLcUUUcRcLDcA2cQcBcMcOcD2cTcSHcSH2cScC-18cUcNNcXcNcTT2cPcSScI",
      "cEcUUUUcKcK2cNDcUUcGcG2cSTcST2cNGcIIcC-39cTTcUUU2cRRcMBcMB2cMB3cMB4cLD2cE2cUUU3"]),
    (0x102E0, ["COPTIC EPACT THOUSANDS MARKcDIGIT ONEdTWOdTHREEdFOURdFIVEdSIXdSEVENdEIGHTdNINE",
      "cNUMBER TENdTWENTYdTHIRTYdFORTYdFIFTYdSIXTYdSEVENTYdEIGHTYdNINETYdONE HUNDREDdTWO HUNDRED",
      "dTHREE HUNDREDdFOUR HUNDREDdFIVE HUNDREDdSIX HUNDREDdSEVEN HUNDREDdEIGHT HUNDRED",
      "dNINE HUNDRED"]),
    (0x10300, ["OLD ITALIC LETTER AdBEdKEdDEdEdVEdZEdHEdTHEdIdKAdELdEMdENdESHdOdPEdSHEdKUdERdESdTE",
      "dUdEKSdPHEdKHEdEFdERSdCHEdIIdUUdESScNUMERAL ONEdFIVEdTENdFIFTY"]),
    (0x1032D, ["OLD ITALIC LETTER YEdNORTHERN TSEdSOUTHERN TSEaGOTHIC LETTER AHSAcBAIRKANcGIBA",
      "cDAGScAIHVUScQAIRTHRAcIUJAcHAGLcTHIUTHcEIScKUSMAcLAGUScMANNAcNAUTHScJERcURUScPAIRTHRA",
      "cNINETYcRAIDAcSAUILcTEIWScWINJAcFAIHUcIGGWScHWAIRcOTHALcNINE HUNDRED"]),
    (0x10350, ["OLD PERMIC LETTER ANdBURdGAIdDOIdEdZHOIdDZHOIdZATAdDZITAdIdKOKEdLEIdMENOEdNENOE",
      "dVOOIdPEEIdREIdSIIdTAIdUdCHERYdSHOOIdSHCHOOIdYRYdYERUdOdOOdEFdHAdTSIUdVERdYERdYERIdYATdIE",
      "dYUdYAdIAaCOMBINING OLD PERMIC LETTER ANeDOIeZATAeNENOEeSII"]),
    (0x10380, ["UGARITIC LETTER ALPAcBETAcGAMLAcKHAcDELTAcHOcWOcZETAcHOTAcTETcYODcKAFcSHINcLAMDA",
      "cMEMcDHALcNUNcZUcSAMKAcAINcPUcSADEcQOPAcRASHAcTHANNAcGHAINcTOcIcUcSSU"]),
    (0x1039F, ["UGARITIC WORD DIVIDERaOLD PERSIAN SIGN AdIdUdKAdKUdGAdGUdXAdCAdJAdJIdTAdTUdDAdDI",
      "dDUdTHAdPAdBAdFAdNAdNUdMAdMIdMUdYAdVAdVIdRAdRUdLAdSAdZAdSHAdSSAdHA"]),
    (0x103C8, ["OLD PERSIAN SIGN AURAMAZDAAdAURAMAZDAA-2dAURAMAZDAAHAdXSHAAYATHIYAdDAHYAAUSH",
      "dDAHYAAUSH-2dBAGAdBUUMISHcWORD DIVIDERcNUMBER ONEdTWOdTENdTWENTYdHUNDRED"]),
    (0x10400, ["DESERET CAPITAL LETTER LONG IeEeAeAHeOeOOdSHORT IeEeAeAHeOeOOdAYdOWdWUdYEEdHdPEE",
      "dBEEdTEEdDEEdCHEEdJEEdKAYdGAYdEFdVEEdETHdTHEEdESdZEEdESHdZHEEdERdELdEMdENdENGdOIdEW",
      "bSMALL LETTER LONG IeEeAeAHeOeOOdSHORT IeEeAeAHeOeOOdAYdOWdWUdYEEdHdPEEdBEEdTEEdDEEdCHEE",
      "dJEEdKAYdGAYdEFdVEEdETHdTHEEdESdZEEdESHdZHEEdERdELdEMdENdENGdOIdEWaSHAVIAN LETTER PEEPcTOT",
      "cKICKcFEEcTHIGHcSOcSUREcCHURCHcYEAcHUNGcBIBcDEADcGAGcVOWcTHEYcZOOcMEASUREcJUDGEcWOEcHA-HA",
      "cLOLLcMIMEcIFcEGGcASHcADOcONcWOOLcOUTcAHcROARcNUNcEATcAGEcICEcUPcOAKcOOZEcOILcAWEcAREcOR",
      "cAIRcERRcARRAYcEARcIANcYEWaOSMANYA LETTER ALEFcBAcTAcJAcXAcKHAcDEELcRAcSAcSHIINcDHAcCAYNcGA",
      "cFAcQAAFcKAAFcLAANcMIINcNUUNcWAWcHAcYAcAcEcIcOcUcAAcEEcOO"]),
    (0x104A0, ["OSMANYA DIGIT ZEROcONEcTWOcTHREEcFOURcFIVEcSIXcSEVENcEIGHTcNINE"]),
    (0x104B0, ["OSAGE CAPITAL LETTER AdAIdAINdAHdBRAdCHAdEHCHAdEdEINdHAdHYAdIdKAdEHKAdKYAdLAdMAdNA",
      "dOdOINdPAdEHPAdSAdSHAdTAdEHTAdTSAdEHTSAdTSHAdDHAdUdWAdKHAdGHAdZAdZHA"]),
    (0x104D8, ["OSAGE SMALL LETTER AdAIdAINdAHdBRAdCHAdEHCHAdEdEINdHAdHYAdIdKAdEHKAdKYAdLAdMAdNAdO",
      "dOINdPAdEHPAdSAdSHAdTAdEHTAdTSAdEHTSAdTSHAdDHAdUdWAdKHAdGHAdZAdZHA"]),
    (0x10500, ["ELBASAN LETTER AcBEcCEcCHEcDEcNDEcDHEcEIcEcFEcGEcGJEcHEcIcJEcKEcLEcLLEcMEcNEcNA",
      "cNJEcOcPEcQEcREcRREcSEcSHEcTEcTHEcUcVEcXEcYcZEcZHEcGHEcGHAMMAcKHE"]),
    (0x10530, ["CAUCASIAN ALBANIAN LETTER ALTdBETdGIMdDATdEBdZARLdEYNdZHILdTASdCHAdYOWDdZHAdIRB",
      "dSHAdLANdINYAdXEYNdDYANdCARdJHOXdKARdLYITdHEYTdQAYdAORdCHOYdCHIdCYAYdMAQdQARdNOWCdDZYAY",
      "dSHAKdJAYNdONdTYAYdFAMdDZAYdCHATdPENdGHEYSdRATdSEYKdVEYZdTIWRdSHOYdIWNdCYAWdCAYNdYAYDdPIWR",
      "dKIW"]),
    (0x1056F, ["CAUCASIAN ALBANIAN CITATION MARKaVITHKUQI CAPITAL LETTER AdBBEdBEdCEdCHEdDEdDHEdEI",
      "dEdFEdGA"]),
    (0x1057C, ["VITHKUQI CAPITAL LETTER HAdHHAdIdIJEdJEdKAdLAdLLAdMEdNEdNJEdOdPEdQAdRE"]),
    (0x1058C, ["VITHKUQI CAPITAL LETTER SEdSHEdTEdTHEdUdVEdXE"]),
    (0x10594, ["VITHKUQI CAPITAL LETTER YdZE"]),
    (0x10597, ["VITHKUQI SMALL LETTER AdBBEdBEdCEdCHEdDEdDHEdEIdEdFEdGA"]),
    (0x105A3, ["VITHKUQI SMALL LETTER HAdHHAdIdIJEdJEdKAdLAdLLAdMEdNEdNJEdOdPEdQAdRE"]),
    (0x105B3, ["VITHKUQI SMALL LETTER SEdSHEdTEdTHEdUdVEdXE"]),
    (0x105BB, ["VITHKUQI SMALL LETTER YdZE"]),
    (0x10600, ["LINEAR A SIGN AB001dAB002dAB003dAB004dAB005dAB006dAB007dAB008dAB009dAB010dAB011",
      "dAB013dAB016dAB017dAB020dAB021dAB021FdAB021MdAB022dAB022FdAB022MdAB023dAB023MdAB024dAB026",
      "dAB027dAB028dA028BdAB029dAB030dAB031dAB034dAB037dAB038dAB039dAB040dAB041dAB044dAB045dAB046",
      "dAB047dAB048dAB049dAB050dAB051dAB053dAB054dAB055dAB056dAB057dAB058dAB059dAB060dAB061dAB065",
      "dAB066dAB067dAB069dAB070dAB073dAB074dAB076dAB077dAB078dAB079dAB080dAB081dAB082dAB085dAB086",
      "dAB087dA100-102dAB118dAB120dA120BdAB122dAB123dAB131AdAB131BdA131CdAB164dAB171dAB180dAB188",
      "dAB191dA301dA302dA303dA304dA305dA306dA307dA308dA309AdA309BdA309CdA310dA311dA312dA313AdA313B",
      "dA313CdA314dA315dA316dA317dA318dA319dA320dA321dA322dA323dA324dA325dA326dA327dA328dA329dA330",
      "dA331dA332dA333dA334dA335dA336dA337dA338dA339dA340dA341dA342dA343dA344dA345dA346dA347dA348",
      "dA349dA350dA351dA352dA353dA354dA355dA356dA357dA358dA359dA360dA361dA362dA363dA364dA365dA366",
      "dA367dA368dA369dA370dA371dA400-VASdA401-VASdA402-VASdA403-VASdA404-VASdA405-VASdA406-VAS",
      "dA407-VASdA408-VASdA409-VASdA410-VASdA411-VASdA412-VASdA413-VASdA414-VASdA415-VASdA416-VAS",
      "dA417-VASdA418-VASdA501dA502dA503dA504dA505dA506dA508dA509dA510dA511dA512dA513dA515dA516",
      "dA520dA521dA523dA524dA525dA526dA527dA528dA529dA530dA531dA532dA534dA535dA536dA537dA538dA539",
      "dA540dA541dA542dA545dA547dA548dA549dA550dA551dA552dA553dA554dA555dA556dA557dA559dA563dA564",
      "dA565dA566dA568dA569dA570dA571dA572dA573dA574dA575dA576dA577dA578dA579dA580dA581dA582dA583",
      "dA584dA585dA586dA587dA588dA589dA591dA592dA594dA595dA596dA598dA600dA601dA602dA603dA604dA606",
      "dA608dA609dA610dA611dA612dA613dA614dA615dA616dA617dA618dA619dA620dA621dA622dA623dA624dA626",
      "dA627dA628dA629dA634dA637dA638dA640dA642dA643dA644dA645dA646dA648dA649dA651dA652dA653dA654",
      "dA655dA656dA657dA658dA659dA660dA661dA662dA663dA664"]),
    (0x10740, ["LINEAR A SIGN A701 AdA702 BdA703 DdA704 EdA705 FdA706 HdA707 JdA708 KdA709 L",
      "dA709-2 L2dA709-3 L3dA709-4 L4dA709-6 L6dA710 WdA711 XdA712 YdA713 OMEGAdA714 ABBdA715 BB",
      "dA717 DDdA726 EYYYdA732 JE"]),
    (0x10760, ["LINEAR A SIGN A800dA801dA802dA803dA804dA805dA806dA807"]),
    (0x10780, ["MODIFIER LETTER SMALL CAPITAL AAcSUPERSCRIPT TRIANGULAR COLON",
      "dHALF TRIANGULAR COLONcSMALL AEdCAPITAL BdB WITH HOOK"]),
    (0x10787, ["MODIFIER LETTER SMALL DZ DIGRAPHfWITH RETROFLEX HOOKgCURLdDEZH DIGRAPHdD WITH TAIL",
      "fHOOKgAND TAILdREVERSED EdCLOSED REVERSED OPEN EdFENG DIGRAPHdRAMS HORNdCAPITAL G",
      "dG WITH HOOKdCAPITAL G WITH HOOKdH WITH STROKEdCAPITAL HdHENG WITH HOOK",
      "dDOTLESS J WITH STROKE AND HOOKdLS DIGRAPHdLZ DIGRAPHdL WITH BELTdCAPITAL L WITH BELT",
      "dL WITH RETROFLEX HOOK AND BELTdLEZHeWITH RETROFLEX HOOKdTURNED YfWITH BELTdO WITH STROKE",
      "dCAPITAL OEdCLOSED OMEGAdQdTURNED R WITH LONG LEGiAND RETROFLEX HOOKdR WITH TAILfFISHHOOK",
      "dCAPITAL RdTC DIGRAPH WITH CURLdTS DIGRAPHfWITH RETROFLEX HOOKdTESH DIGRAPH",
      "dT WITH RETROFLEX HOOKdV WITH RIGHT HOOK"]),
    (0x107B2, ["MODIFIER LETTER SMALL CAPITAL YcGLOTTAL STOP WITH STROKE",
      "cREVERSED GLOTTAL STOP WITH STROKEcBILABIAL CLICKcDENTAL CLICKcLATERAL CLICKcALVEOLAR CLICK",
      "cRETROFLEX CLICK WITH RETROFLEX HOOKcSMALL S WITH CURL"]),
    (0x10800, ["CYPRIOT SYLLABLE AcEcIcOcUcJA"]),
    (0x10808, ["CYPRIOT SYLLABLE JO"]),
    (0x1080A, ["CYPRIOT SYLLABLE KAcKEcKIcKOcKUcLAcLEcLIcLOcLUcMAcMEcMIcMOcMUcNAcNEcNIcNOcNUcPAcPE",
      "cPIcPOcPUcRAcREcRIcROcRUcSAcSEcSIcSOcSUcTAcTEcTIcTOcTUcWAcWEcWIcWO"]),
    (0x10837, ["CYPRIOT SYLLABLE XAcXE"]),
    (0x1083C, ["CYPRIOT SYLLABLE ZA"]),
    (0x1083F, ["CYPRIOT SYLLABLE ZOaIMPERIAL ARAMAIC LETTER ALEPHdBETHdGIMELdDALETHdHEdWAWdZAYIN",
      "dHETHdTETHdYODHdKAPHdLAMEDHdMEMdNUNdSAMEKHdAYINdPEdSADHEdQOPHdRESHdSHINdTAW"]),
    (0x10857, ["IMPERIAL ARAMAIC SECTION SIGNcNUMBER ONEdTWOdTHREEdTENdTWENTYdONE HUNDREDeTHOUSAND",
      "dTEN THOUSANDaPALMYRENE LETTER ALEPHcBETHcGIMELcDALETHcHEcWAWcZAYINcHETHcTETHcYODHcKAPH",
      "cLAMEDHcMEMcFINAL NUNcNUNcSAMEKHcAYINcPEcSADHEcQOPHcRESHcSHINcTAWbLEFT-POINTING FLEURON",
      "bRIGHT-POINTING FLEURONbNUMBER ONEcTWOcTHREEcFOURcFIVEcTENcTWENTY",
      "aNABATAEAN LETTER FINAL ALEPHcALEPHcFINAL BETHcBETHcGIMELcDALETHcFINAL HEcHEcWAWcZAYINcHETH",
      "cTETHcFINAL YODHcYODHcFINAL KAPHcKAPHcFINAL LAMEDHcLAMEDHcFINAL MEMcMEMcFINAL NUNcNUN",
      "cSAMEKHcAYINcPEcSADHEcQOPHcRESHcFINAL SHINcSHINcTAW"]),
    (0x108A7, ["NABATAEAN NUMBER ONEcTWOcTHREEcFOURbCRUCIFORM NUMBER FOURbNUMBER FIVEcTENcTWENTY",
      "cONE HUNDRED"]),
    (0x108E0, ["HATRAN LETTER ALEPHcBETHcGIMELcDALETH-RESHcHEcWAWcZAYNcHETHcTETHcYODHcKAPHcLAMEDH",
      "cMEMcNUNcSAMEKHcAYNcPEcSADHEcQOPH"]),
    (0x108F4, ["HATRAN LETTER SHINcTAW"]),
    (0x108FB, ["HATRAN NUMBER ONEcFIVEcTENcTWENTYcONE HUNDREDaPHOENICIAN LETTER ALFcBETcGAMLcDELT",
      "cHEcWAUcZAIcHETcTETcYODcKAFcLAMDcMEMcNUNcSEMKcAINcPEcSADEcQOFcROSHcSHINcTAUbNUMBER ONEcTEN",
      "cTWENTYcONE HUNDREDcTWOcTHREE"]),
    (0x1091F, ["PHOENICIAN WORD SEPARATORaLYDIAN LETTER AcBcGcDcEcVcIcYcKcLcMcNcOcRcSScTcUcFcQcS",
      "cTTcANcENcLYcNNcC"]),
    (0x1093F, ["LYDIAN TRIANGULAR MARK"]),
    (0x10980, ["MEROITIC HIEROGLYPHIC LETTER AdEdIdOdYAdWAdBAdBA-2dPAdMAdNAdNA-2dNEdNE-2dRAdRA-2",
      "dLAdKHAdHHAdSAdSA-2dSEdKAdQAdTAdTA-2dTEdTE-2dTOdDAcSYMBOL VIDJdVIDJ-2bCURSIVE LETTER AdEdI",
      "dOdYAdWAdBAdPAdMAdNAdNEdRAdLAdKHAdHHAdSAdARCHAIC SAdSEdKAdQAdTAdTEdTOdDA"]),
    (0x109BC, ["MEROITIC CURSIVE FRACTION ELEVEN TWELFTHSdONE HALFcLOGOGRAM RMTdIMNcNUMBER ONEdTWO",
      "dTHREEdFOURdFIVEdSIXdSEVENdEIGHTdNINEdTENdTWENTYdTHIRTYdFORTYdFIFTYdSIXTYdSEVENTY"]),
    (0x109D2, ["MEROITIC CURSIVE NUMBER ONE HUNDREDdTWO HUNDREDdTHREE HUNDREDdFOUR HUNDRED",
      "dFIVE HUNDREDdSIX HUNDREDdSEVEN HUNDREDdEIGHT HUNDREDdNINE HUNDREDdONE THOUSAND",
      "dTWO THOUSANDdTHREE THOUSANDdFOUR THOUSANDdFIVE THOUSANDdSIX THOUSANDdSEVEN THOUSAND",
      "dEIGHT THOUSANDdNINE THOUSANDdTEN THOUSANDdTWENTY THOUSANDdTHIRTY THOUSANDdFORTY THOUSAND",
      "dFIFTY THOUSANDdSIXTY THOUSANDdSEVENTY THOUSANDdEIGHTY THOUSANDdNINETY THOUSAND",
      "dONE HUNDRED THOUSANDdTWO HUNDRED THOUSANDdTHREE HUNDRED THOUSANDdFOUR HUNDRED THOUSAND",
      "dFIVE HUNDRED THOUSANDdSIX HUNDRED THOUSANDdSEVEN HUNDRED THOUSANDdEIGHT HUNDRED THOUSAND",
      "dNINE HUNDRED THOUSANDcFRACTION ONE TWELFTHdTWO TWELFTHSdTHREE TWELFTHSdFOUR TWELFTHS",
      "dFIVE TWELFTHSdSIX TWELFTHSdSEVEN TWELFTHSdEIGHT TWELFTHSdNINE TWELFTHSdTEN TWELFTHS",
      "aKHAROSHTHI LETTER AbVOWEL SIGN IdUdVOCALIC R"]),
    (0x10A05, ["KHAROSHTHI VOWEL SIGN EdO"]),
    (0x10A0C, ["KHAROSHTHI VOWEL LENGTH MARKbSIGN DOUBLE RING BELOWcANUSVARAcVISARGAbLETTER KAcKHA",
      "cGAcGHA"]),
    (0x10A15, ["KHAROSHTHI LETTER CAcCHAcJA"]),
    (0x10A19, ["KHAROSHTHI LETTER NYAcTTAcTTHAcDDAcDDHAcNNAcTAcTHAcDAcDHAcNAcPAcPHAcBAcBHAcMAcYA",
      "cRAcLAcVAcSHAcSSAcSAcZAcHAcKKAcTTTHAcTTTAcVHA"]),
    (0x10A38, ["KHAROSHTHI SIGN BAR ABOVEcCAUDAcDOT BELOW"]),
    (0x10A3F, ["KHAROSHTHI VIRAMAbDIGIT ONEcTWOcTHREEcFOURbNUMBER TENcTWENTYcONE HUNDREDdTHOUSAND",
      "bFRACTION ONE HALF"]),
    (0x10A50, ["KHAROSHTHI PUNCTUATION DOTcSMALL CIRCLEcCIRCLEcCRESCENT BARcMANGALAMcLOTUScDANDA",
      "cDOUBLE DANDAcLINES"]),
    (0x10A60, ["OLD SOUTH ARABIAN LETTER HEeLAMEDHeHETHeMEMeQOPHeWAWeSHINeRESHeBETHeTAWeSATeKAPH",
      "eNUNeKHETHeSADHEeSAMEKHeFEeALEFeAYNeDHADHEeGIMELeDALETHeGHAYNeTETHeZAYNeDHALETHeYODHeTHAW",
      "eTHETHdNUMBER ONEeFIFTYdNUMERIC INDICATORbNORTH ARABIAN LETTER HEHeLAMeHAHeMEEMeQAFeWAW",
      "eES-2eREHeBEHeTEHeES-1eKAFeNOONeKHAHeSADeES-3eFEHeALEFeAINeDADeGEEMeDALeGHAINeTAHeZAINeTHAL",
      "eYEHeTHEHeZAHdNUMBER ONEeTENeTWENTY"]),
    (0x10AC0, ["MANICHAEAN LETTER ALEPHcBETHcBHETHcGIMELcGHIMELcDALETHcHEcWAWbSIGN UDbLETTER ZAYIN",
      "cZHAYINcJAYINcJHAYINcHETHcTETHcYODHcKAPHcXAPHcKHAPHcLAMEDHcDHAMEDHcTHAMEDHcMEMcNUNcSAMEKH",
      "cAYINcAAYINcPEcFEcSADHEcQOPHcXOPHcQHOPHcRESHcSHINcSSHINcTAWbABBREVIATION MARK ABOVEdBELOW"]),
    (0x10AEB, ["MANICHAEAN NUMBER ONEcFIVEcTENcTWENTYcONE HUNDREDbPUNCTUATION STARcFLEURON",
      "cDOUBLE DOT WITHIN DOTcDOT WITHIN DOTcDOTcTWO DOTScLINE FILLER"]),
    (0x10B00, ["AVESTAN LETTER AcAAcAOcAAOcANcAANcAEcAEEcEcEEcOcOOcIcIIcUcUUcKEcXEcXYEcXVEcGEcGGE",
      "cGHEcCEcJEcTEcTHEcDEcDHEcTTEcPEcFEcBEcBHEcNGEcNGYEcNGVEcNEcNYEcNNEcMEcHMEcYYEcYEcVEcREcLE",
      "cSEcZEcSHEcZHEcSHYEcSSHEcHE"]),
    (0x10B39, ["AVESTAN ABBREVIATION MARKaTINY TWO DOTS OVER ONE DOT PUNCTUATION",
      "aSMALL TWO DOTS OVER ONE DOT PUNCTUATIONaLARGE TWO DOTS OVER ONE DOT PUNCTUATION",
      "bONE DOT OVER TWO DOTS PUNCTUATIONbTWO RINGS OVER ONE RING PUNCTUATION",
      "bONE RING OVER TWO RINGS PUNCTUATIONaINSCRIPTIONAL PARTHIAN LETTER ALEPHdBETHdGIMELdDALETH",
      "dHEdWAWdZAYINdHETHdTETHdYODHdKAPHdLAMEDHdMEMdNUNdSAMEKHdAYINdPEdSADHEdQOPHdRESHdSHINdTAW"]),
    (0x10B58, ["INSCRIPTIONAL PARTHIAN NUMBER ONEdTWOdTHREEdFOURdTENdTWENTYdONE HUNDREDeTHOUSAND",
      "bPAHLAVI LETTER ALEPHdBETHdGIMELdDALETHdHEdWAW-AYIN-RESHdZAYINdHETHdTETHdYODHdKAPHdLAMEDH",
      "dMEM-QOPHdNUNdSAMEKHdPEdSADHEdSHINdTAW"]),
    (0x10B78, ["INSCRIPTIONAL PAHLAVI NUMBER ONEdTWOdTHREEdFOURdTENdTWENTYdONE HUNDREDeTHOUSAND",
      "aPSALTER PAHLAVI LETTER ALEPHdBETHdGIMELdDALETHdHEdWAW-AYIN-RESHdZAYINdHETHdYODHdKAPH",
      "dLAMEDHdMEM-QOPHdNUNdSAMEKHdPEdSADHEdSHINdTAW"]),
    (0x10B99, ["PSALTER PAHLAVI SECTION MARKcTURNED SECTION MARKcFOUR DOTS WITH CROSSfDOT"]),
    (0x10BA9, ["PSALTER PAHLAVI NUMBER ONEdTWOdTHREEdFOURdTENdTWENTYdONE HUNDRED"]),
    (0x10C00, ["OLD TURKIC LETTER ORKHON AdYENISEI AeAEdORKHON IdYENISEI IeEdORKHON OeOE",
      "dYENISEI OEdORKHON ABdYENISEI ABdORKHON AEBdYENISEI AEBdORKHON AGdYENISEI AGdORKHON AEG",
      "dYENISEI AEGdORKHON ADdYENISEI ADdORKHON AEDeEZdYENISEI EZdORKHON AYdYENISEI AYdORKHON AEY",
      "dYENISEI AEYdORKHON AEKdYENISEI AEKdORKHON OEKdYENISEI OEKdORKHON ALdYENISEI ALdORKHON AEL",
      "eELTeEMeANeAENdYENISEI AENdORKHON ENTdYENISEI ENTdORKHON ENCdYENISEI ENCdORKHON ENY",
      "dYENISEI ENYeANGdORKHON ENGdYENISEI AENGdORKHON EPeOPeICeECdYENISEI ECdORKHON AQdYENISEI AQ",
      "dORKHON IQdYENISEI IQdORKHON OQdYENISEI OQdORKHON ARdYENISEI ARdORKHON AEReASeAESeASH",
      "dYENISEI ASHdORKHON ESHdYENISEI ESHdORKHON ATdYENISEI ATdORKHON AETdYENISEI AETdORKHON OT",
      "eBASH"]),
    (0x10C80, ["OLD HUNGARIAN CAPITAL LETTER AeAAeEBeAMBeECeENCeECSeEDeANDeEeCLOSE EeEEeEFeEGeEGY",
      "eEHeIeIIeEJeEKeAKeUNKeELeELYeEMeENeENYeOeOOeNIKOLSBURG OEeRUDIMENTA OEeOEEeEPeEMPeER",
      "eSHORT EReESeESZeETeENTeETYeECHeUeUUeNIKOLSBURG UEeRUDIMENTA UEeEVeEZeEZSeENT-SHAPED SIGN",
      "eUS"]),
    (0x10CC0, ["OLD HUNGARIAN SMALL LETTER AeAAeEBeAMBeECeENCeECSeEDeANDeEeCLOSE EeEEeEFeEGeEGYeEH",
      "eIeIIeEJeEKeAKeUNKeELeELYeEMeENeENYeOeOOeNIKOLSBURG OEeRUDIMENTA OEeOEEeEPeEMPeEReSHORT ER",
      "eESeESZeETeENTeETYeECHeUeUUeNIKOLSBURG UEeRUDIMENTA UEeEVeEZeEZSeENT-SHAPED SIGNeUS"]),
    (0x10CFA, ["OLD HUNGARIAN NUMBER ONEdFIVEdTENdFIFTYdONE HUNDREDeTHOUSAND",
      "aHANIFI ROHINGYA LETTER AdBAdPAdTAdTTAdJAdCAdHAdKHAdFAdDAdDDAdRAdRRAdZAdSAdSHAdKAdGAdLAdMA",
      "dNAdWAdKINNA WAdYAdKINNA YAdNGAdNYAdVAcVOWEL AdIdUdEdOcMARK SAKINdNA KHONNAcSIGN HARBAHAY",
      "dTAHALAdTANAdTASSI"]),
    (0x10D30, ["HANIFI ROHINGYA DIGIT ZEROdONEdTWOdTHREEdFOURdFIVEdSIXdSEVENdEIGHTdNINE"]),
    (0x10E60, ["RUMI DIGIT ONEcTWOcTHREEcFOURcFIVEcSIXcSEVENcEIGHTcNINEbNUMBER TENcTWENTYcTHIRTY",
      "cFORTYcFIFTYcSIXTYcSEVENTYcEIGHTYcNINETYcONE HUNDREDcTWO HUNDREDcTHREE HUNDREDcFOUR HUNDRED",
      "cFIVE HUNDREDcSIX HUNDREDcSEVEN HUNDREDcEIGHT HUNDREDcNINE HUNDREDbFRACTION ONE HALF",
      "dQUARTERdTHIRDcTWO THIRDS"]),
    (0x10E80, ["YEZIDI LETTER ELIFcBEcPEcPHEcTHEcSEcCIMcCHIMcCHHIMcHHAcXAcDALcZALcRAcRHAcZAcJAcSIN",
      "cSHINcSADcDADcTAcZEcEYNcXHEYNcFAcVAdALTERNATE FORMcQAFcKAFcKHAFcGAFcLAMcMIMcNUNcUMcWAWcOW",
      "cEWcHAYcYOTcET"]),
    (0x10EAB, ["YEZIDI COMBINING HAMZA MARKcMADDA MARKbHYPHENATION MARK"]),
    (0x10EB0, ["YEZIDI LETTER LAM WITH DOT ABOVEcYOT WITH CIRCUMFLEX ABOVE"]),
    (0x10F00, ["OLD SOGDIAN LETTER ALEPHdFINAL ALEPHdBETHdFINAL BETHdGIMELdHEdFINAL HEdWAWdZAYIN",
      "dHETHdYODHdKAPHdLAMEDHdMEMdNUNdFINAL NUNfWITH VERTICAL TAILdSAMEKHdAYINdALTERNATE AYINdPE",
      "dSADHEdFINAL SADHEfWITH VERTICAL TAILdRESH-AYIN-DALETHdSHINdTAWdFINAL TAW",
      "fWITH VERTICAL TAILcNUMBER ONEdTWOdTHREEdFOURdFIVEdTENdTWENTYdTHIRTYdONE HUNDRED",
      "cFRACTION ONE HALFcLIGATURE AYIN-DALETH"]),
    (0x10F30, ["SOGDIAN LETTER ALEPHcBETHcGIMELcHEcWAWcZAYINcHETHcYODHcKAPHcLAMEDHcMEMcNUNcSAMEKH",
      "cAYINcPEcSADHEcRESH-AYINcSHINcTAWcFETHcLESHbINDEPENDENT SHINbCOMBINING DOT BELOW",
      "cTWO DOTS BELOWcDOT ABOVEcTWO DOTS ABOVEcCURVE ABOVEdBELOWcHOOK ABOVEdBELOWcLONG HOOK BELOW",
      "cRESH BELOWcSTROKE BELOWbNUMBER ONEcTENcTWENTYcONE HUNDREDbPUNCTUATION TWO VERTICAL BARS",
      "fWITH DOTScCIRCLE WITH DOTcTWO CIRCLES WITH DOTScHALF CIRCLE WITH DOT"]),
    (0x10F70, ["OLD UYGHUR LETTER ALEPHdBETHdGIMEL-HETHdWAWdZAYINdFINAL HETHdYODHdKAPHdLAMEDHdMEM",
      "dNUNdSAMEKHdPEdSADHEdRESHdSHINdTAWdLESHcCOMBINING DOT ABOVEeBELOWdTWO DOTS ABOVEfBELOW",
      "cPUNCTUATION BARdTWO BARSeDOTSdFOUR DOTS"]),
    (0x10FB0, ["CHORASMIAN LETTER ALEPHcSMALL ALEPHcBETHcGIMELcDALETHcHEcWAWcCURLED WAWcZAYINcHETH",
      "cYODHcKAPHcLAMEDHcMEMcNUNcSAMEKHcAYINcPEcRESHcSHINcTAWbNUMBER ONEcTWOcTHREEcFOURcTENcTWENTY",
      "cONE HUNDRED"]),
    (0x10FE0, ["ELYMAIC LETTER ALEPHcBETHcGIMELcDALETHcHEcWAWcZAYINcHETHcTETHcYODHcKAPHcLAMEDHcMEM",
      "cNUNcSAMEKHcAYINcPEcSADHEcQOPHcRESHcSHINcTAWbLIGATURE ZAYIN-YODH"])]

end SheetScript.Text
