namespace SheetScript.Text

def notationNames : List (Nat × List String) :=
  [(0x1D000, ["BYZANTINE MUSICAL SYMBOL PSILIdDASEIAdPERISPOMENIdOXEIA EKFONITIKONeDIPLI",
      "dVAREIA EKFONITIKONeDIPLIdKATHISTIdSYRMATIKIdPARAKLITIKIdYPOKRISISeDIPLIdKREMASTI",
      "dAPESO EKFONITIKONdEXO EKFONITIKONdTELEIAdKENTIMATAdAPOSTROFOSeDIPLIdSYNEVMAdTHITA",
      "dOLIGON ARCHAIONdGORGON ARCHAIONdPSILONdCHAMILONdVATHYdISON ARCHAIONdKENTIMA ARCHAION",
      "dKENTIMATA ARCHAIONdSAXIMATAdPARICHONdSTAVROS APODEXIAdOXEIAI ARCHAIONdVAREIAI ARCHAION",
      "dAPODERMA ARCHAIONdAPOTHEMAdKLASMAdREVMAdPIASMA ARCHAIONdTINAGMAdANATRICHISMAdSEISMA",
      "dSYNAGMA ARCHAIONeMETA STAVROUdOYRANISMA ARCHAIONdTHEMAdLEMOIdDYOdTRIAdTESSERAdKRATIMATA",
      "dAPESO EXO NEOdFTHORA ARCHAIONdIMIFTHORAdTROMIKON ARCHAIONdKATAVA TROMIKONdPELASTON",
      "dPSIFISTONdKONTEVMAdCHOREVMA ARCHAIONdRAPISMAdPARAKALESMA ARCHAIONdPARAKLITIKI ARCHAION",
      "dICHADINdNANAdPETASMAdKONTEVMA ALLOdTROMIKON ALLOdSTRAGGISMATAdGRONTHISMATAdISON NEO",
      "dOLIGON NEOdOXEIA NEOdPETASTIdKOUFISMAdPETASTOKOUFISMAdKRATIMOKOUFISMAdPELASTON NEO",
      "dKENTIMATA NEO ANOdKENTIMA NEO ANOdYPSILIdAPOSTROFOS NEOdAPOSTROFOI SYNDESMOS NEOdYPORROI",
      "dKRATIMOYPORROONdELAFRONdCHAMILIdMIKRON ISONdVAREIA NEOdPIASMA NEOdPSIFISTON NEOdOMALON",
      "dANTIKENOMAdLYGISMAdPARAKLITIKI NEOdPARAKALESMA NEOdETERON PARAKALESMAdKYLISMA",
      "dANTIKENOKYLISMAdTROMIKON NEOdEKSTREPTONdSYNAGMA NEOdSYRMAdCHOREVMA NEOdEPEGERMAdSEISMA NEO",
      "dXIRON KLASMAdTROMIKOPSIFISTONdPSIFISTOLYGISMAdTROMIKOLYGISMAdTROMIKOPARAKALESMA",
      "dPSIFISTOPARAKALESMAdTROMIKOSYNAGMAdPSIFISTOSYNAGMAdGORGOSYNTHETONdARGOSYNTHETON",
      "dETERON ARGOSYNTHETONdOYRANISMA NEOdTHEMATISMOS ESOeEXOdTHEMA APLOUNdTHES KAI APOTHES",
      "dKATAVASMAdENDOFONONdYFEN KATOeANOdSTAVROSdKLASMA ANOdDIPLI ARCHAIONdKRATIMA ARCHAIONeALLO",
      "eNEOdAPODERMA NEOdAPLIdDIPLIdTRIPLIdTETRAPLIdKORONISdLEIMMA ENOS CHRONOUeDYO CHRONON",
      "eTRION CHRONONeTESSARON CHRONONeIMISEOS CHRONOUdGORGON NEO ANOePARESTIGMENON ARISTERAfDEXIA",
      "dDIGORGONePARESTIGMENON ARISTERA KATOgANOfDEXIAdTRIGORGONdARGONdIMIDIARGONdDIARGON",
      "dAGOGI POLI ARGIeARGOTERIeARGIeMETRIAeMESIeGORGIeGORGOTERIePOLI GORGIdMARTYRIA PROTOS ICHOS",
      "eALLI PROTOS ICHOSeDEYTEROS ICHOSeALLI DEYTEROS ICHOSeTRITOS ICHOSeTRIFONIASeTETARTOS ICHOS",
      "fLEGETOS ICHOSeLEGETOS ICHOSePLAGIOS ICHOSdISAKIA TELOUS ICHIMATOS",
      "dAPOSTROFOI TELOUS ICHIMATOSdFANEROSIS TETRAFONIASeMONOFONIASeDIFONIASdMARTYRIA VARYS ICHOS",
      "ePROTOVARYS ICHOSePLAGIOS TETARTOS ICHOSdGORTHMIKON N APLOUNfDIPLOUNdENARXIS KAI FTHORA VOU",
      "dIMIFONONdIMIFTHORONdFTHORA ARCHAION DEYTEROU ICHOUeDIATONIKI PAfNANAeNAOS ICHOS",
      "eDIATONIKI DIeSKLIRON DIATONON DIeDIATONIKI KEfZOfNI KATOgANOeMALAKON CHROMA DIFONIAS",
      "gMONOFONIASdFHTORA SKLIRON CHROMA VASISdFTHORA SKLIRON CHROMA SYNAFIeNENANOdCHROA ZYGOS",
      "eKLITONeSPATHIdFTHORA I YFESIS TETARTIMORIONeENARMONIOS ANTIFONIAdYFESIS TRITIMORION",
      "dDIESIS TRITIMORIONeTETARTIMORIONeAPLI DYO DODEKATAeMONOGRAMMOS TESSERA DODEKATA",
      "eDIGRAMMOS EX DODEKATAeTRIGRAMMOS OKTO DODEKATAdYFESIS APLI DYO DODEKATA",
      "eMONOGRAMMOS TESSERA DODEKATAeDIGRAMMOS EX DODEKATAeTRIGRAMMOS OKTO DODEKATAdGENIKI DIESIS",
      "eYFESISdDIASTOLI APLI MIKRIfMEGALIeDIPLIeTHESEOSdSIMANSIS THESEOSfDISIMOUfTRISIMOU",
      "fTETRASIMOUeARSEOSfDISIMOUfTRISIMOUfTETRASIMOUdDIGRAMMA GGdDIFTOGGOS OUdSTIGMAdARKTIKO PA",
      "eVOUeGAeDIeKEeZOeNIdKENTIMATA NEO MESOdKENTIMA NEO MESOdKENTIMATA NEO KATOdKENTIMA NEO KATO",
      "dKLASMA KATOdGORGON NEO KATO"]),
    (0x1D100, ["MUSICAL SYMBOL SINGLE BARLINEcDOUBLE BARLINEcFINAL BARLINEcREVERSE FINAL BARLINE",
      "cDASHED BARLINEcSHORT BARLINEcLEFT REPEAT SIGNcRIGHT REPEAT SIGNcREPEAT DOTScDAL SEGNO",
      "cDA CAPOcSEGNOcCODAcREPEATED FIGURE-1dFIGURE-2dFIGURE-3cFERMATAdBELOWcBREATH MARKcCAESURA",
      "cBRACEcBRACKETcONE-LINE STAFFcTWO-LINE STAFFcTHREE-LINE STAFFcFOUR-LINE STAFF",
      "cFIVE-LINE STAFFcSIX-LINE STAFFcSIX-STRING FRETBOARDcFOUR-STRING FRETBOARDcG CLEF",
      "eOTTAVA ALTAfBASSAcC CLEFcF CLEFeOTTAVA ALTAfBASSAcDRUM CLEF-1dCLEF-2"]),
    (0x1D129, ["MUSICAL SYMBOL MULTIPLE MEASURE RESTcDOUBLE SHARPdFLATcFLAT UPdDOWNcNATURAL UP",
      "dDOWNcSHARP UPdDOWNcQUARTER TONE SHARPeFLATcCOMMON TIMEcCUT TIMEcOTTAVA ALTAdBASSA",
      "cQUINDICESIMA ALTAdBASSAcMULTI RESTcWHOLE RESTcHALF RESTcQUARTER RESTcEIGHTH REST",
      "cSIXTEENTH RESTcTHIRTY-SECOND RESTcSIXTY-FOURTH RESTcONE HUNDRED TWENTY-EIGHTH REST",
      "cX NOTEHEADcPLUS NOTEHEADcCIRCLE X NOTEHEADcSQUARE NOTEHEAD WHITEeBLACK",
      "cTRIANGLE NOTEHEAD UP WHITEfBLACKeLEFT WHITEfBLACKeRIGHT WHITEfBLACKeDOWN WHITEfBLACK",
      "eUP RIGHT WHITEgBLACKcMOON NOTEHEAD WHITEeBLACKcTRIANGLE-ROUND NOTEHEAD DOWN WHITEfBLACK",
      "cPARENTHESIS NOTEHEADcVOID NOTEHEADcNOTEHEAD BLACKcNULL NOTEHEADcCLUSTER NOTEHEAD WHITE",
      "eBLACKcBREVEcWHOLE NOTEcHALF NOTEcQUARTER NOTEcEIGHTH NOTEcSIXTEENTH NOTE",
      "cTHIRTY-SECOND NOTEcSIXTY-FOURTH NOTEcONE HUNDRED TWENTY-EIGHTH NOTEcCOMBINING STEM",
      "dSPRECHGESANG STEMdTREMOLO-1dTREMOLO-2dTREMOLO-3cFINGERED TREMOLO-1dTREMOLO-2dTREMOLO-3",
      "cCOMBINING AUGMENTATION DOTdFLAG-1dFLAG-2dFLAG-3dFLAG-4dFLAG-5cBEGIN BEAMcEND BEAM",
      "cBEGIN TIEcEND TIEcBEGIN SLURcEND SLURcBEGIN PHRASEcEND PHRASEcCOMBINING ACCENTdSTACCATO",
      "dTENUTOdSTACCATISSIMOdMARCATOdMARCATO-STACCATOdACCENT-STACCATOdLOUREcARPEGGIATO UPdDOWN",
      "cCOMBINING DOITdRIPdFLIPdSMEARdBENDdDOUBLE TONGUEdTRIPLE TONGUEcRINFORZANDOcSUBITOcZcPIANO",
      "cMEZZOcFORTEcCRESCENDOcDECRESCENDOcGRACE NOTE SLASHeNO SLASHcTRcTURNcINVERTED TURN",
      "cTURN SLASHdUPcORNAMENT STROKE-1dSTROKE-2dSTROKE-3dSTROKE-4dSTROKE-5dSTROKE-6dSTROKE-7",
      "dSTROKE-8dSTROKE-9dSTROKE-10dSTROKE-11cHAUPTSTIMMEcNEBENSTIMMEcEND OF STIMMEcDEGREE SLASH",
      "cCOMBINING DOWN BOWdUP BOWdHARMONICdSNAP PIZZICATOcPEDAL MARKdUP MARKcHALF PEDAL MARK",
      "cGLISSANDO UPdDOWNcWITH FINGERNAILScDAMPdALLcMAXIMAcLONGAcBREVIScSEMIBREVIS WHITEdBLACK",
      "cMINIMAdBLACKcSEMIMINIMA WHITEdBLACKcFUSA WHITEdBLACKcLONGA PERFECTA RESTdIMPERFECTA REST",
      "cBREVIS RESTcSEMIBREVIS RESTcMINIMA RESTcSEMIMINIMA REST",
      "cTEMPUS PERFECTUM CUM PROLATIONE PERFECTAgIMPERFECTAgPERFECTA DIMINUTION-1",
      "dIMPERFECTUM CUM PROLATIONE PERFECTAgIMPERFECTAhDIMINUTION-1hDIMINUTION-2hDIMINUTION-3",
      "cCROIXcGREGORIAN C CLEFdF CLEFcSQUARE BcVIRGAcPODATUScCLIVIScSCANDICUScCLIMACUScTORCULUS",
      "cPORRECTUSdFLEXUScSCANDICUS FLEXUScTORCULUS RESUPINUScPES SUBPUNCTIScKIEVAN C CLEF",
      "dEND OF PIECEdFINAL NOTEdRECITATIVE MARKdWHOLE NOTEdHALF NOTEdQUARTER NOTE STEM DOWNgUP",
      "dEIGHTH NOTE STEM DOWNgUPdFLAT SIGNcSORIcKORON"]),
    (0x1D200, ["GREEK VOCAL NOTATION SYMBOL-1dSYMBOL-2dSYMBOL-3dSYMBOL-4dSYMBOL-5dSYMBOL-6",
      "dSYMBOL-7dSYMBOL-8dSYMBOL-9dSYMBOL-10dSYMBOL-11dSYMBOL-12dSYMBOL-13dSYMBOL-14dSYMBOL-15",
      "dSYMBOL-16dSYMBOL-17dSYMBOL-18dSYMBOL-19dSYMBOL-20dSYMBOL-21dSYMBOL-22dSYMBOL-23dSYMBOL-24",
      "dSYMBOL-50dSYMBOL-51dSYMBOL-52dSYMBOL-53dSYMBOL-54bINSTRUMENTAL NOTATION SYMBOL-1dSYMBOL-2",
      "dSYMBOL-4dSYMBOL-5dSYMBOL-7dSYMBOL-8dSYMBOL-11dSYMBOL-12dSYMBOL-13dSYMBOL-14dSYMBOL-17",
      "dSYMBOL-18dSYMBOL-19dSYMBOL-23dSYMBOL-24dSYMBOL-25dSYMBOL-26dSYMBOL-27dSYMBOL-29dSYMBOL-30",
      "dSYMBOL-32dSYMBOL-36dSYMBOL-37dSYMBOL-38dSYMBOL-39dSYMBOL-40dSYMBOL-42dSYMBOL-43dSYMBOL-45",
      "dSYMBOL-47dSYMBOL-48dSYMBOL-49dSYMBOL-50dSYMBOL-51dSYMBOL-52dSYMBOL-53dSYMBOL-54",
      "aCOMBINING GREEK MUSICAL TRISEMEdTETRASEMEdPENTASEMEaGREEK MUSICAL LEIMMA"]),
    (0x1D2E0, ["MAYAN NUMERAL ZEROcONEcTWOcTHREEcFOURcFIVEcSIXcSEVENcEIGHTcNINEcTENcELEVENcTWELVE",
      "cTHIRTEENcFOURTEENcFIFTEENcSIXTEENcSEVENTEENcEIGHTEENcNINETEEN"]),
    (0x1D300, ["MONOGRAM FOR EARTHaDIGRAM FOR HEAVENLY EARTHcHUMAN EARTHcEARTHLY HEAVENdHUMAN",
      "cEARTHaTETRAGRAM FOR CENTREcFULL CIRCLEcMIREDcBARRIERcKEEPING SMALLcCONTRARIETYcASCENT",
      "cOPPOSITIONcBRANCHING OUTcDEFECTIVENESS OR DISTORTIONcDIVERGENCEcYOUTHFULNESScINCREASE",
      "cPENETRATIONcREACHcCONTACTcHOLDING BACKcWAITINGcFOLLOWINGcADVANCEcRELEASEcRESISTANCEcEASE",
      "cJOYcCONTENTIONcENDEAVOURcDUTIEScCHANGEcDECISIVENESScBOLD RESOLUTIONcPACKINGcLEGION",
      "cCLOSENESScKINSHIPcGATHERINGcSTRENGTHcPURITYcFULLNESScRESIDENCEcLAW OR MODELcRESPONSE",
      "cGOING TO MEETcENCOUNTERScSTOVEcGREATNESScENLARGEMENTcPATTERNcRITUALcFLIGHT",
      "cVASTNESS OR WASTINGcCONSTANCYcMEASUREcETERNITYcUNITYcDIMINISHMENTcCLOSED MOUTHcGUARDEDNESS",
      "cGATHERING INcMASSINGcACCUMULATIONcEMBELLISHMENTcDOUBTcWATCHcSINKINGcINNERcDEPARTURE",
      "cDARKENINGcDIMMINGcEXHAUSTIONcSEVERANCEcSTOPPAGEcHARDNESScCOMPLETIONcCLOSUREcFAILURE",
      "cAGGRAVATIONcCOMPLIANCEcON THE VERGEcDIFFICULTIEScLABOURINGcFOSTERING"]),
    (0x1D360, ["COUNTING ROD UNIT DIGIT ONEeTWOeTHREEeFOUReFIVEeSIXeSEVENeEIGHTeNINE",
      "cTENS DIGIT ONEeTWOeTHREEeFOUReFIVEeSIXeSEVENeEIGHTeNINEaIDEOGRAPHIC TALLY MARK ONEdTWO",
      "dTHREEdFOURdFIVEaTALLY MARK ONEcFIVE"]),
    (0x1D400, ["MATHEMATICAL BOLD CAPITAL AdBdCdDdEdFdGdHdIdJdKdLdMdNdOdPdQdRdSdTdUdVdWdXdYdZ",
      "cSMALL AdBdCdDdEdFdGdHdIdJdKdLdMdNdOdPdQdRdSdTdUdVdWdXdYdZbITALIC CAPITAL AdBdCdDdEdFdGdHdI",
      "dJdKdLdMdNdOdPdQdRdSdTdUdVdWdXdYdZcSMALL AdBdCdDdEdFdG"]),
    (0x1D456, ["MATHEMATICAL ITALIC SMALL IdJdKdLdMdNdOdPdQdRdSdTdUdVdWdXdYdZ",
      "bBOLD ITALIC CAPITAL AeBeCeDeEeFeGeHeIeJeKeLeMeNeOePeQeReSeTeUeVeWeXeYeZdSMALL AeBeCeDeEeF",
      "eGeHeIeJeKeLeMeNeOePeQeReSeTeUeVeWeXeYeZbSCRIPT CAPITAL A"]),
    (0x1D49E, ["MATHEMATICAL SCRIPT CAPITAL CdD"]),
    (0x1D4A2, ["MATHEMATICAL SCRIPT CAPITAL G"]),
    (0x1D4A5, ["MATHEMATICAL SCRIPT CAPITAL JdK"]),
    (0x1D4A9, ["MATHEMATICAL SCRIPT CAPITAL NdOdPdQ"]),
    (0x1D4AE, ["MATHEMATICAL SCRIPT CAPITAL SdTdUdVdWdXdYdZcSMALL AdBdCdD"]),
    (0x1D4BB, ["MATHEMATICAL SCRIPT SMALL F"]),
    (0x1D4BD, ["MATHEMATICAL SCRIPT SMALL HdIdJdKdLdMdN"]),
    (0x1D4C5, ["MATHEMATICAL SCRIPT SMALL PdQdRdSdTdUdVdWdXdYdZbBOLD SCRIPT CAPITAL AeBeCeDeEeFeG",
      "eHeIeJeKeLeMeNeOePeQeReSeTeUeVeWeXeYeZdSMALL AeBeCeDeEeFeGeHeIeJeKeLeMeNeOePeQeReSeTeUeVeW",
      "eXeYeZbFRAKTUR CAPITAL AdB"]),
    (0x1D507, ["MATHEMATICAL FRAKTUR CAPITAL DdEdFdG"]),
    (0x1D50D, ["MATHEMATICAL FRAKTUR CAPITAL JdKdLdMdNdOdPdQ"]),
    (0x1D516, ["MATHEMATICAL FRAKTUR CAPITAL SdTdUdVdWdXdY"]),
    (0x1D51E, ["MATHEMATICAL FRAKTUR SMALL AdBdCdDdEdFdGdHdIdJdKdLdMdNdOdPdQdRdSdTdUdVdWdXdYdZ",
      "bDOUBLE-STRUCK CAPITAL AdB"]),
    (0x1D53B, ["MATHEMATICAL DOUBLE-STRUCK CAPITAL DdEdFdG"]),
    (0x1D540, ["MATHEMATICAL DOUBLE-STRUCK CAPITAL IdJdKdLdM"]),
    (0x1D546, ["MATHEMATICAL DOUBLE-STRUCK CAPITAL O"]),
    (0x1D54A, ["MATHEMATICAL DOUBLE-STRUCK CAPITAL SdTdUdVdWdXdY"]),
    (0x1D552, ["MATHEMATICAL DOUBLE-STRUCK SMALL AdBdCdDdEdFdGdHdIdJdKdLdMdNdOdPdQdRdSdTdUdVdWdXdY",
      "dZbBOLD FRAKTUR CAPITAL AeBeCeDeEeFeGeHeIeJeKeLeMeNeOePeQeReSeTeUeVeWeXeYeZdSMALL AeBeCeDeE",
      "eFeGeHeIeJeKeLeMeNeOePeQeReSeTeUeVeWeXeYeZbSANS-SERIF CAPITAL AdBdCdDdEdFdGdHdIdJdKdLdMdNdO",
      "dPdQdRdSdTdUdVdWdXdYdZcSMALL AdBdCdDdEdFdGdHdIdJdKdLdMdNdOdPdQdRdSdTdUdVdWdXdYdZ",
      "cBOLD CAPITAL AeBeCeDeEeFeGeHeIeJeKeLeMeNeOePeQeReSeTeUeVeWeXeYeZdSMALL AeBeCeDeEeFeGeHeIeJ",
      "eKeLeMeNeOePeQeReSeTeUeVeWeXeYeZcITALIC CAPITAL AeBeCeDeEeFeGeHeIeJeKeLeMeNeOePeQeReSeTeUeV",
      "eWeXeYeZdSMALL AeBeCeDeEeFeGeHeIeJeKeLeMeNeOePeQeReSeTeUeVeWeXeYeZcBOLD ITALIC CAPITAL AfB",
      "fCfDfEfFfGfHfIfJfKfLfMfNfOfPfQfRfSfTfUfVfWfXfYfZeSMALL AfBfCfDfEfFfGfHfIfJfKfLfMfNfOfPfQfR",
      "fSfTfUfVfWfXfYfZbMONOSPACE CAPITAL AdBdCdDdEdFdGdHdIdJdKdLdMdNdOdPdQdRdSdTdUdVdWdXdYdZ",
      "cSMALL AdBdCdDdEdFdGdHdIdJdKdLdMdNdOdPdQdRdSdTdUdVdWdXdYdZbITALIC SMALL DOTLESS IeJ"]),
    (0x1D6A8, ["MATHEMATICAL BOLD CAPITAL ALPHAdBETAdGAMMAdDELTAdEPSILONdZETAdETAdTHETAdIOTAdKAPPA",
      "dLAMDAdMUdNUdXIdOMICRONdPIdRHOdTHETA SYMBOLdSIGMAdTAUdUPSILONdPHIdCHIdPSIdOMEGAcNABLA",
      "cSMALL ALPHAdBETAdGAMMAdDELTAdEPSILONdZETAdETAdTHETAdIOTAdKAPPAdLAMDAdMUdNUdXIdOMICRONdPI",
      "dRHOdFINAL SIGMAdSIGMAdTAUdUPSILONdPHIdCHIdPSIdOMEGAcPARTIAL DIFFERENTIALcEPSILON SYMBOL",
      "cTHETA SYMBOLcKAPPA SYMBOLcPHI SYMBOLcRHO SYMBOLcPI SYMBOLbITALIC CAPITAL ALPHAdBETAdGAMMA",
      "dDELTAdEPSILONdZETAdETAdTHETAdIOTAdKAPPAdLAMDAdMUdNUdXIdOMICRONdPIdRHOdTHETA SYMBOLdSIGMA",
      "dTAUdUPSILONdPHIdCHIdPSIdOMEGAcNABLAcSMALL ALPHAdBETAdGAMMAdDELTAdEPSILONdZETAdETAdTHETA",
      "dIOTAdKAPPAdLAMDAdMUdNUdXIdOMICRONdPIdRHOdFINAL SIGMAdSIGMAdTAUdUPSILONdPHIdCHIdPSIdOMEGA",
      "cPARTIAL DIFFERENTIALcEPSILON SYMBOLcTHETA SYMBOLcKAPPA SYMBOLcPHI SYMBOLcRHO SYMBOL",
      "cPI SYMBOLbBOLD ITALIC CAPITAL ALPHAeBETAeGAMMAeDELTAeEPSILONeZETAeETAeTHETAeIOTAeKAPPA",
      "eLAMDAeMUeNUeXIeOMICRONePIeRHOeTHETA SYMBOLeSIGMAeTAUeUPSILONePHIeCHIePSIeOMEGAdNABLA",
      "dSMALL ALPHAeBETAeGAMMAeDELTAeEPSILONeZETAeETAeTHETAeIOTAeKAPPAeLAMDAeMUeNUeXIeOMICRONePI",
      "eRHOeFINAL SIGMAeSIGMAeTAUeUPSILONePHIeCHIePSIeOMEGAdPARTIAL DIFFERENTIALdEPSILON SYMBOL",
      "dTHETA SYMBOLdKAPPA SYMBOLdPHI SYMBOLdRHO SYMBOLdPI SYMBOLbSANS-SERIF BOLD CAPITAL ALPHA",
      "eBETAeGAMMAeDELTAeEPSILONeZETAeETAeTHETAeIOTAeKAPPAeLAMDAeMUeNUeXIeOMICRONePIeRHO",
      "eTHETA SYMBOLeSIGMAeTAUeUPSILONePHIeCHIePSIeOMEGAdNABLAdSMALL ALPHAeBETAeGAMMAeDELTA",
      "eEPSILONeZETAeETAeTHETAeIOTAeKAPPAeLAMDAeMUeNUeXIeOMICRONePIeRHOeFINAL SIGMAeSIGMAeTAU",
      "eUPSILONePHIeCHIePSIeOMEGAdPARTIAL DIFFERENTIALdEPSILON SYMBOLdTHETA SYMBOLdKAPPA SYMBOL",
      "dPHI SYMBOLdRHO SYMBOLdPI SYMBOLdITALIC CAPITAL ALPHAfBETAfGAMMAfDELTAfEPSILONfZETAfETA",
      "fTHETAfIOTAfKAPPAfLAMDAfMUfNUfXIfOMICRONfPIfRHOfTHETA SYMBOLfSIGMAfTAUfUPSILONfPHIfCHIfPSI",
      "fOMEGAeNABLAeSMALL ALPHAfBETAfGAMMAfDELTAfEPSILONfZETAfETAfTHETAfIOTAfKAPPAfLAMDAfMUfNUfXI",
      "fOMICRONfPIfRHOfFINAL SIGMAfSIGMAfTAUfUPSILONfPHIfCHIfPSIfOMEGAePARTIAL DIFFERENTIAL",
      "eEPSILON SYMBOLeTHETA SYMBOLeKAPPA SYMBOLePHI SYMBOLeRHO SYMBOLePI SYMBOL",
      "bBOLD CAPITAL DIGAMMAcSMALL DIGAMMA"]),
    (0x1D7CE, ["MATHEMATICAL BOLD DIGIT ZEROdONEdTWOdTHREEdFOURdFIVEdSIXdSEVENdEIGHTdNINE",
      "bDOUBLE-STRUCK DIGIT ZEROdONEdTWOdTHREEdFOURdFIVEdSIXdSEVENdEIGHTdNINE",
      "bSANS-SERIF DIGIT ZEROdONEdTWOdTHREEdFOURdFIVEdSIXdSEVENdEIGHTdNINEcBOLD DIGIT ZEROeONEeTWO",
      "eTHREEeFOUReFIVEeSIXeSEVENeEIGHTeNINEbMONOSPACE DIGIT ZEROdONEdTWOdTHREEdFOURdFIVEdSIX",
      "dSEVENdEIGHTdNINEaSIGNWRITING HAND-FIST INDEXbHAND-CIRCLE INDEXbHAND-CUP INDEX",
      "bHAND-OVAL INDEXbHAND-HINGE INDEXbHAND-ANGLE INDEXbHAND-FIST INDEX BENT",
      "bHAND-CIRCLE INDEX BENTbHAND-FIST THUMB UNDER INDEX BENTcINDEX RAISED KNUCKLEdCUPPEDdHINGED",
      "eLOWbHAND-CIRCLE INDEX HINGEbHAND-FIST INDEX MIDDLEbHAND-CIRCLE INDEX MIDDLE",
      "bHAND-FIST INDEX MIDDLE BENTeRAISED KNUCKLESeHINGEDdUP MIDDLE HINGEDdHINGED MIDDLE UP",
      "dMIDDLE CONJOINEDfINDEX BENTfMIDDLE BENTfCUPPEDfHINGEDeCROSSED",
      "bHAND-CIRCLE INDEX MIDDLE CROSSEDbHAND-FIST MIDDLE BENT OVER INDEXcINDEX BENT OVER MIDDLE",
      "dMIDDLE THUMBbHAND-CIRCLE INDEX MIDDLE THUMBbHAND-FIST INDEX MIDDLE STRAIGHT THUMB BENT",
      "eBENT THUMB STRAIGHTeTHUMB BENTeHINGED SPREAD THUMB SIDEdUP MIDDLE HINGED THUMB SIDE",
      "hCONJOINEDdHINGED MIDDLE UP THUMB SIDEdMIDDLE UP SPREAD THUMB FORWARDeTHUMB CUPPEDfCIRCLED",
      "fHOOKEDfHINGEDcTHUMB BETWEEN INDEX MIDDLE STRAIGHTcINDEX MIDDLE CONJOINED THUMB SIDE",
      "hCONJOINEDhBENTcMIDDLE THUMB HOOKED INDEX UPcINDEX THUMB HOOKED MIDDLE UP",
      "dMIDDLE CONJOINED HINGED THUMB SIDEeCROSSED THUMB SIDEeCONJOINED THUMB FORWARD",
      "fCUPPED THUMB FORWARDcMIDDLE THUMB CUPPED INDEX UPcINDEX THUMB CUPPED MIDDLE UP",
      "cMIDDLE THUMB CIRCLED INDEX UPgHINGEDcINDEX THUMB ANGLED OUT MIDDLE UPfIN MIDDLE UP",
      "eCIRCLED MIDDLE UPdMIDDLE THUMB CONJOINED HINGEDfANGLED OUTfANGLED",
      "cMIDDLE THUMB ANGLED OUT INDEX UPhCROSSEDfINDEX UPcINDEX THUMB HOOKED MIDDLE HINGED",
      "bHAND-FLAT FOUR FINGERSeBENTeHINGEDeCONJOINEDfSPLITbHAND-CLAW FOUR FINGERS CONJOINED",
      "bHAND-FIST FOUR FINGERS CONJOINED BENTbHAND-HINGE FOUR FINGERS CONJOINED",
      "bHAND-FLAT FIVE FINGERS SPREADcHEEL FIVE FINGERS SPREADcFIVE FINGERS SPREAD FOUR BENT",
      "cHEEL FIVE FINGERS SPREAD FOUR BENTcFIVE FINGERS SPREAD BENTcHEEL FIVE FINGERS SPREAD BENT",
      "cFIVE FINGERS SPREAD THUMB FORWARDbHAND-CUP FIVE FINGERS SPREADfOPEN",
      "bHAND-HINGE FIVE FINGERS SPREAD OPENbHAND-OVAL FIVE FINGERS SPREAD",
      "bHAND-FLAT FIVE FINGERS SPREAD HINGEDgTHUMB SIDEgNO THUMBbHAND-FLATcBETWEEN PALM FACINGS",
      "cHEELcTHUMB SIDEcHEEL THUMB SIDEcTHUMB BENTdFORWARDcSPLIT INDEX THUMB SIDEdCENTRE",
      "eTHUMB SIDEgBENTdLITTLEbHAND-CLAWcTHUMB SIDEcNO THUMBcTHUMB FORWARDbHAND-HOOK CURLICUE",
      "bHAND-HOOKbHAND-CUP OPENbHAND-CUPcOPEN THUMB SIDEcTHUMB SIDEcOPEN NO THUMBcNO THUMB",
      "cOPEN THUMB FORWARDcTHUMB FORWARDbHAND-CURLICUE OPENbHAND-CURLICUEbHAND-CIRCLEbHAND-OVAL",
      "cTHUMB SIDEcNO THUMBcTHUMB FORWARDbHAND-HINGE OPENdTHUMB FORWARDbHAND-HINGEcSMALL",
      "cOPEN THUMB SIDEcTHUMB SIDEcOPEN NO THUMBcNO THUMBcTHUMB SIDE TOUCHING INDEX",
      "dBETWEEN MIDDLE RINGbHAND-ANGLEbHAND-FIST INDEX MIDDLE RINGbHAND-CIRCLE INDEX MIDDLE RING",
      "bHAND-HINGE INDEX MIDDLE RINGbHAND-ANGLE INDEX MIDDLE RINGbHAND-HINGE LITTLE",
      "bHAND-FIST INDEX MIDDLE RING BENTfCONJOINEDbHAND-HINGE INDEX MIDDLE RING CONJOINED",
      "bHAND-FIST LITTLE DOWNeRIPPLE STRAIGHTfCURVEDeOTHERS CIRCLEDdUPcTHUMB UNDER LITTLE UP",
      "bHAND-CIRCLE LITTLE UPbHAND-OVAL LITTLE UPbHAND-ANGLE LITTLE UP",
      "bHAND-FIST LITTLE RAISED KNUCKLEdBENTdTOUCHES THUMBdTHUMBbHAND-HINGE LITTLE THUMB",
      "bHAND-FIST LITTLE INDEX THUMBbHAND-HINGE LITTLE INDEX THUMB",
      "bHAND-ANGLE LITTLE INDEX THUMB INDEX THUMB OUTgTHUMBbHAND-FIST LITTLE INDEX",
      "bHAND-CIRCLE LITTLE INDEXbHAND-HINGE LITTLE INDEXbHAND-ANGLE LITTLE INDEX",
      "bHAND-FIST INDEX MIDDLE LITTLEbHAND-CIRCLE INDEX MIDDLE LITTLE",
      "bHAND-HINGE INDEX MIDDLE LITTLEcRINGbHAND-ANGLE INDEX MIDDLE LITTLE",
      "bHAND-FIST INDEX MIDDLE CROSS LITTLEbHAND-CIRCLE INDEX MIDDLE CROSS LITTLE",
      "bHAND-FIST RING DOWNbHAND-HINGE RING DOWN INDEX THUMB HOOK MIDDLE",
      "bHAND-ANGLE RING DOWN MIDDLE THUMB INDEX CROSSbHAND-FIST RING UPdRAISED KNUCKLEdLITTLE",
      "bHAND-CIRCLE RING LITTLEbHAND-OVAL RING LITTLEbHAND-ANGLE RING LITTLEbHAND-FIST RING MIDDLE",
      "eCONJOINEDeRAISED KNUCKLESdINDEXdTHUMBbHAND-HOOK RING THUMBbHAND-FIST INDEX RING LITTLE",
      "bHAND-CIRCLE INDEX RING LITTLEbHAND-CURLICUE INDEX RING LITTLE ON",
      "bHAND-HOOK INDEX RING LITTLE OUTfINfUNDERbHAND-CUP INDEX RING LITTLE",
      "bHAND-HINGE INDEX RING LITTLEbHAND-ANGLE INDEX RING LITTLE OUTeLITTLEbHAND-FIST MIDDLE DOWN",
      "bHAND-HINGE MIDDLEbHAND-FIST MIDDLE UPbHAND-CIRCLE MIDDLE UP",
      "bHAND-FIST MIDDLE RAISED KNUCKLEdUP THUMB SIDEbHAND-HOOK MIDDLE THUMB",
      "bHAND-FIST MIDDLE THUMB LITTLEdLITTLEdRING LITTLEbHAND-CIRCLE MIDDLE RING LITTLE",
      "bHAND-CURLICUE MIDDLE RING LITTLE ONbHAND-CUP MIDDLE RING LITTLE",
      "bHAND-HINGE MIDDLE RING LITTLEbHAND-ANGLE MIDDLE RING LITTLE OUTfINeLITTLE",
      "bHAND-CIRCLE MIDDLE RING LITTLE BENTbHAND-CLAW MIDDLE RING LITTLE CONJOINEDgSIDE",
      "bHAND-HOOK MIDDLE RING LITTLE CONJOINED OUTgINfCONJOINEDbHAND-HINGE INDEX HINGED",
      "bHAND-FIST INDEX THUMB SIDEbHAND-HINGE INDEX THUMB SIDE",
      "bHAND-FIST INDEX THUMB SIDE THUMB DIAGONALgCONJOINEDgBENTfINDEX BENTfBOTH BENTfINDEX HINGE",
      "eFORWARD INDEX STRAIGHTgBENTeHOOKeCURLICUEeCURVE THUMB INSIDE",
      "bHAND-CLAW INDEX THUMB CURVE THUMB INSIDEbHAND-FIST INDEX THUMB CURVE THUMB UNDEReCIRCLE",
      "bHAND-CUP INDEX THUMBeOPENbHAND-HINGE INDEX THUMB OPENeLARGEdTHUMBeSMALL",
      "bHAND-ANGLE INDEX THUMB OUTeINdTHUMBbHAND-FIST THUMBdHEELdSIDE DIAGONALeCONJOINEDeBENT",
      "dFORWARDdBETWEEN INDEX MIDDLEeMIDDLE RINGeRING LITTLEdUNDER TWO FINGERSdOVER TWO FINGERS",
      "dUNDER THREE FINGERSeFOUR FINGERSdOVER FOUR RAISED KNUCKLESbHAND-FISTcHEELbTOUCH SINGLE",
      "cMULTIPLEcBETWEENbGRASP SINGLEcMULTIPLEcBETWEENbSTRIKE SINGLEcMULTIPLEcBETWEENbBRUSH SINGLE",
      "cMULTIPLEcBETWEENbRUB SINGLEcMULTIPLEcBETWEENbSURFACE SYMBOLScBETWEENbSQUEEZE LARGE SINGLE",
      "cSMALL SINGLEcLARGE MULTIPLEcSMALL MULTIPLEcSEQUENTIALbFLICK LARGE SINGLEcSMALL SINGLE",
      "cLARGE MULTIPLEcSMALL MULTIPLEcSEQUENTIALbSQUEEZE FLICK ALTERNATING",
      "bMOVEMENT-HINGE UP DOWN LARGEeSMALLdSEQUENTIALcDOWN SEQUENTIALcUP DOWN ALTERNATING LARGE",
      "fSMALLcSIDE TO SIDE SCISSORSbMOVEMENT-WALLPLANE FINGER CONTACT",
      "bMOVEMENT-FLOORPLANE FINGER CONTACTbMOVEMENT-WALLPLANE SINGLE STRAIGHT SMALLeMEDIUMeLARGE",
      "eLARGESTdWRIST FLEXcDOUBLE STRAIGHTdWRIST FLEXdALTERNATINGeWRIST FLEXcCROSS",
      "cTRIPLE STRAIGHT MOVEMENTdWRIST FLEXdALTERNATINGeWRIST FLEXcBEND SMALLdMEDIUMdLARGE",
      "cCORNER SMALLdMEDIUMdLARGEdROTATIONcCHECK SMALLdMEDIUMdLARGEcBOX SMALLdMEDIUMdLARGE",
      "cZIGZAG SMALLdMEDIUMdLARGEcPEAKS SMALLdMEDIUMdLARGE",
      "bTRAVEL-WALLPLANE ROTATION-WALLPLANE SINGLEdDOUBLEdALTERNATINGcROTATION-FLOORPLANE SINGLE",
      "dDOUBLEdALTERNATINGcSHAKINGcARM SPIRAL SINGLEeDOUBLEeTRIPLEbMOVEMENT-DIAGONAL AWAY SMALL",
      "dMEDIUMdLARGEdLARGESTcTOWARDS SMALLdMEDIUMdLARGEdLARGESTcBETWEEN AWAY SMALLeMEDIUMeLARGE",
      "eLARGESTdTOWARDS SMALLeMEDIUMeLARGEeLARGESTbMOVEMENT-FLOORPLANE SINGLE STRAIGHT SMALL",
      "eMEDIUMeLARGEeLARGESTdWRIST FLEXcDOUBLE STRAIGHTdWRIST FLEXdALTERNATINGeWRIST FLEXcCROSS",
      "cTRIPLE STRAIGHT MOVEMENTdWRIST FLEXdALTERNATING MOVEMENTeWRIST FLEXcBENDcCORNER SMALL",
      "dMEDIUMdLARGEcCHECKcBOX SMALLdMEDIUMdLARGEcZIGZAG SMALLdMEDIUMdLARGEcPEAKS SMALLdMEDIUM",
      "dLARGEbTRAVEL-FLOORPLANE ROTATION-FLOORPLANE SINGLEdDOUBLEdALTERNATING",
      "cROTATION-WALLPLANE SINGLEdDOUBLEdALTERNATINGcSHAKING",
      "bMOVEMENT-WALLPLANE CURVE QUARTER SMALLeMEDIUMeLARGEeLARGESTdHALF-CIRCLE SMALLeMEDIUMeLARGE",
      "eLARGESTdTHREE-QUARTER CIRCLE SMALLfMEDIUMcHUMP SMALLdMEDIUMdLARGEcLOOP SMALLdMEDIUMdLARGE",
      "dSMALL DOUBLEcWAVE CURVE DOUBLE SMALLfMEDIUMfLARGEeTRIPLE SMALLfMEDIUMfLARGE",
      "cCURVE THEN STRAIGHTcCURVED CROSS SMALLeMEDIUMbROTATION-WALLPLANE SINGLEcDOUBLEcALTERNATE",
      "bMOVEMENT-WALLPLANE SHAKINGcCURVE HITTING FRONT WALLcHUMP HITTING FRONT WALL",
      "cLOOP HITTING FRONT WALLcWAVE HITTING FRONT WALL",
      "bROTATION-WALLPLANE SINGLE HITTING FRONT WALLcDOUBLE HITTING FRONT WALL",
      "cALTERNATING HITTING FRONT WALLbMOVEMENT-WALLPLANE CURVE HITTING CHESTcHUMP HITTING CHEST",
      "cLOOP HITTING CHESTcWAVE HITTING CHESTbROTATION-WALLPLANE SINGLE HITTING CHEST",
      "cDOUBLE HITTING CHESTcALTERNATING HITTING CHESTbMOVEMENT-WALLPLANE WAVE DIAGONAL PATH SMALL",
      "fMEDIUMfLARGEbMOVEMENT-FLOORPLANE CURVE HITTING CEILING SMALLfLARGE",
      "cHUMP HITTING CEILING SMALL DOUBLEfLARGE DOUBLEfSMALL TRIPLEfLARGE TRIPLE",
      "cLOOP HITTING CEILING SMALL SINGLEfLARGE SINGLEfSMALL DOUBLEfLARGE DOUBLE",
      "cWAVE HITTING CEILING SMALLfLARGEbROTATION-FLOORPLANE SINGLE HITTING CEILING",
      "cDOUBLE HITTING CEILINGcALTERNATING HITTING CEILING",
      "bMOVEMENT-FLOORPLANE CURVE HITTING FLOOR SMALLfLARGEcHUMP HITTING FLOOR SMALL DOUBLE",
      "fLARGE DOUBLEfTRIPLE SMALL TRIPLEgLARGE TRIPLEcLOOP HITTING FLOOR SMALL SINGLEfLARGE SINGLE",
      "fSMALL DOUBLEfLARGE DOUBLEcWAVE HITTING FLOOR SMALLfLARGE",
      "bROTATION-FLOORPLANE SINGLE HITTING FLOORcDOUBLE HITTING FLOORcALTERNATING HITTING FLOOR",
      "bMOVEMENT-FLOORPLANE CURVE SMALLdMEDIUMdLARGEdLARGESTdCOMBINEDcHUMP SMALLcLOOP SMALL",
      "cWAVE SNAKEdSMALLdLARGEbROTATION-FLOORPLANE SINGLEcDOUBLEcALTERNATING",
      "bMOVEMENT-FLOORPLANE SHAKING PARALLELbMOVEMENT-WALLPLANE ARM CIRCLE SMALL SINGLE",
      "eMEDIUM SINGLEeSMALL DOUBLEeMEDIUM DOUBLE",
      "bMOVEMENT-FLOORPLANE ARM CIRCLE HITTING WALL SMALL SINGLEgMEDIUM SINGLEgLARGE SINGLE",
      "gSMALL DOUBLEgMEDIUM DOUBLEgLARGE DOUBLEbMOVEMENT-WALLPLANE WRIST CIRCLE FRONT SINGLE",
      "fDOUBLEbMOVEMENT-FLOORPLANE WRIST CIRCLE HITTING WALL SINGLEgDOUBLE",
      "bMOVEMENT-WALLPLANE FINGER CIRCLES SINGLEeDOUBLE",
      "bMOVEMENT-FLOORPLANE FINGER CIRCLES HITTING WALL SINGLEgDOUBLEbDYNAMIC ARROWHEAD SMALL",
      "dLARGEcFASTcSLOWcTENSEcRELAXEDcSIMULTANEOUSdALTERNATINGcEVERY OTHER TIMEcGRADUALbHEADcRIM",
      "cMOVEMENT-WALLPLANE STRAIGHTdTILTcMOVEMENT-FLOORPLANE STRAIGHTcMOVEMENT-WALLPLANE CURVE",
      "cMOVEMENT-FLOORPLANE CURVEcMOVEMENT CIRCLEbFACE DIRECTION POSITION NOSE FORWARD TILTING",
      "fUP OR DOWNiTILTINGbEYEBROWS STRAIGHT UPdNEUTRALdDOWNbDREAMY EYEBROWS NEUTRAL DOWN",
      "dDOWN NEUTRALdUP NEUTRALdNEUTRAL UPbFOREHEAD NEUTRALcCONTACTcWRINKLEDbEYES OPENcSQUEEZED",
      "cCLOSEDbEYE BLINK SINGLEdMULTIPLEbEYES HALF OPENcWIDE OPENcHALF CLOSEDcWIDENING MOVEMENT",
      "bEYE WINKbEYELASHES UPcDOWNcFLUTTERINGbEYEGAZE-WALLPLANE STRAIGHTdDOUBLEdALTERNATING",
      "bEYEGAZE-FLOORPLANE STRAIGHTdDOUBLEdALTERNATINGbEYEGAZE-WALLPLANE CURVED",
      "bEYEGAZE-FLOORPLANE CURVEDbEYEGAZE-WALLPLANE CIRCLINGbCHEEKS PUFFEDcNEUTRALcSUCKED",
      "bTENSE CHEEKS HIGHdMIDDLEdLOWbEARSbNOSE NEUTRALcCONTACTcWRINKLEScWIGGLESbAIR BLOWING OUT",
      "cSUCKING INcBLOW SMALL ROTATIONScSUCK SMALL ROTATIONSbBREATH INHALEcEXHALE",
      "bMOUTH CLOSED NEUTRALdFORWARDdCONTACTcSMILEdWRINKLEDdOPENcFROWNdWRINKLEDdOPENcOPEN CIRCLE",
      "dFORWARDdWRINKLEDdOVALeWRINKLEDeYAWNdRECTANGLEeWRINKLEDeYAWNcKISSdFORWARDdWRINKLEDcTENSE",
      "dFORWARDdSUCKEDbLIPS PRESSED TOGETHERbLIP LOWER OVER UPPERcUPPER OVER LOWERbMOUTH CORNERS",
      "cWRINKLES SINGLEdDOUBLEbTONGUE STICKING OUT FARcLICKING LIPScTIP BETWEEN LIPS",
      "dTOUCHING INSIDE MOUTHcINSIDE MOUTH RELAXEDcMOVES AGAINST CHEEKcCENTRE STICKING OUT",
      "dINSIDE MOUTHbTEETHcMOVEMENTcON TONGUEeMOVEMENTdLIPSeMOVEMENTcBITE LIPS",
      "bMOVEMENT-WALLPLANE JAWbMOVEMENT-FLOORPLANE JAWbNECKbHAIRbEXCITEMENTbSHOULDER HIP SPINE",
      "dPOSITIONSbWALLPLANE SHOULDER HIP MOVEbFLOORPLANE SHOULDER HIP MOVE",
      "bSHOULDER TILTING FROM WAISTbTORSO-WALLPLANE STRAIGHT STRETCHcCURVED BEND",
      "bTORSO-FLOORPLANE TWISTINGbUPPER BODY TILTING FROM HIP JOINTSbLIMB COMBINATIONcLENGTH-1",
      "cLENGTH-2cLENGTH-3cLENGTH-4cLENGTH-5cLENGTH-6cLENGTH-7bFINGERbLOCATION-WALLPLANE SPACE",
      "bLOCATION-FLOORPLANE SPACEbLOCATION HEIGHTcWIDTHcDEPTHcHEAD NECKcTORSOcLIMBS DIGITSbCOMMA",
      "bFULL STOPbSEMICOLONbCOLONbPARENTHESIS"]),
    (0x1DA9B, ["SIGNWRITING FILL MODIFIER-2cMODIFIER-3cMODIFIER-4cMODIFIER-5cMODIFIER-6"]),
    (0x1DAA1, ["SIGNWRITING ROTATION MODIFIER-2cMODIFIER-3cMODIFIER-4cMODIFIER-5cMODIFIER-6",
      "cMODIFIER-7cMODIFIER-8cMODIFIER-9cMODIFIER-10cMODIFIER-11cMODIFIER-12cMODIFIER-13",
      "cMODIFIER-14cMODIFIER-15cMODIFIER-16"]),
    (0x1DF00, ["LATIN SMALL LETTER FENG DIGRAPH WITH TRILLdREVERSED SCRIPT G",
      "bLETTER SMALL CAPITAL TURNED GbSMALL LETTER REVERSED KbLETTER SMALL CAPITAL L WITH BELT",
      "bSMALL LETTER LEZH WITH RETROFLEX HOOKdTURNED Y WITH BELTdREVERSED ENG",
      "dTURNED R WITH LONG LEG AND RETROFLEX HOOKdT WITH HOOK AND RETROFLEX HOOK",
      "bLETTER RETROFLEX CLICK WITH RETROFLEX HOOKbSMALL LETTER ESH WITH DOUBLE BARhAND CURL",
      "dTURNED T WITH CURLbLETTER INVERTED GLOTTAL STOP WITH CURLcSTRETCHED C WITH CURL",
      "cSMALL CAPITAL TURNED KbSMALL LETTER L WITH FISHHOOKdDEZH DIGRAPH WITH PALATAL HOOK",
      "dL WITH BELT AND PALATAL HOOKdENG WITH PALATAL HOOKdTURNED R WITH PALATAL HOOK",
      "dR WITH FISHHOOK AND PALATAL HOOKdTESH DIGRAPH WITH PALATAL HOOKdEZH WITH PALATAL HOOK",
      "dDEZH DIGRAPH WITH RETROFLEX HOOKdI WITH STROKE AND RETROFLEX HOOKdO WITH RETROFLEX HOOK",
      "dTESH DIGRAPH WITH RETROFLEX HOOKdC WITH RETROFLEX HOOKdS WITH CURL"]),
    (0x1E000, ["COMBINING GLAGOLITIC LETTER AZUdBUKYdVEDEdGLAGOLIdDOBROdYESTUdZHIVETE"]),
    (0x1E008, ["COMBINING GLAGOLITIC LETTER ZEMLJAdIZHEdINITIAL IZHEdIdDJERVIdKAKOdLJUDIJEdMYSLITE",
      "dNASHIdONUdPOKOJIdRITSIdSLOVOdTVRIDOdUKUdFRITUdHERU"]),
    (0x1E01B, ["COMBINING GLAGOLITIC LETTER SHTAdTSIdCHRIVIdSHAdYERUdYERIdYATI"]),
    (0x1E023, ["COMBINING GLAGOLITIC LETTER YUdSMALL YUS"]),
    (0x1E026, ["COMBINING GLAGOLITIC LETTER YOdIOTATED SMALL YUSdBIG YUSdIOTATED BIG YUSdFITA"]),
    (0x1E100, ["NYIAKENG PUACHUE HMONG LETTER MAeTSAeNTAeTAeHAeNAeXAeNKAeCAeLAeSAeZAeNCAeNTSAeKA",
      "eDAeNYAeNRAeVAeNTXAeTXAeFAeRAeQAeYAeNQAePAeXYAeNPAeDLAeNPLAeHAHeMLAePLAeGAeRRAeAeAAeIeUeO",
      "eOOeEeEEeW"]),
    (0x1E130, ["NYIAKENG PUACHUE HMONG TONE-BdTONE-MdTONE-JdTONE-VdTONE-SdTONE-GdTONE-D",
      "dSIGN FOR PERSONfTHINGfLOCATIONfANIMALfINVERTEBRATEeXW XWdSYLLABLE LENGTHENER"]),
    (0x1E140, ["NYIAKENG PUACHUE HMONG DIGIT ZEROeONEeTWOeTHREEeFOUReFIVEeSIXeSEVENeEIGHTeNINE"]),
    (0x1E14E, ["NYIAKENG PUACHUE HMONG LOGOGRAM NYAJdCIRCLED CA"]),
    (0x1E290, ["TOTO LETTER PAcBAcTAcDAcKAcGAcMAcNAcNGAcSAcCHAcYAcWAcJAcHAcRAcLAcIcBREATHY IcIU",
      "cBREATHY IUcUcEcBREATHY EcEOcBREATHY EOcOcAEcBREATHY AEcAbSIGN RISING TONE"]),
    (0x1E2C0, ["WANCHO LETTER AAcAcBAcCAcDAcGAcYAcPHAcLAcNAcPAcTAcTHAcFAcSAcSHAcJAcZAcWAcVAcKAcO",
      "cAUcRAcMAcKHAcHAcEcIcNGAcUcLLHAcTSAcTRAcONGcAANGcANGcINGcONcENcAANcNYAcUENcYIHbTONE TUP",
      "cTUPNIcKOIcKOINIbDIGIT ZEROcONEcTWOcTHREEcFOURcFIVEcSIXcSEVENcEIGHTcNINE"]),
    (0x1E2FF, ["WANCHO NGUN SIGN"]),
    (0x1E7E0, ["ETHIOPIC SYLLABLE HHYAcHHYUcHHYIcHHYAAcHHYEEcHHYEcHHYO"]),
    (0x1E7E8, ["ETHIOPIC SYLLABLE GURAGE HHWAcHHWIcHHWEEcHHWE"]),
    (0x1E7ED, ["ETHIOPIC SYLLABLE GURAGE MWIdMWEE"]),
    (0x1E7F0, ["ETHIOPIC SYLLABLE GURAGE QWIdQWEEdQWEdBWIdBWEEdKWIdKWEEdKWEdGWIdGWEEdGWEdFWIdFWEE",
      "dPWIdPWEE"]),
    (0x1E800, ["MENDE KIKAKUI SYLLABLE M001 KIdM002 KAdM003 KUdM065 KEEdM095 KEdM076 KOOdM048 KO",
      "dM179 KUAdM004 WIdM005 WAdM006 WUdM126 WEEdM118 WEdM114 WOOdM045 WOdM194 WUIdM143 WEI",
      "dM061 WVIdM049 WVAdM139 WVEdM007 MINdM008 MANdM009 MUNdM059 MENdM094 MONdM154 MUAN",
      "dM189 MUENdM010 BIdM011 BAdM012 BUdM150 BEEdM097 BEdM103 BOOdM138 BOdM013 IdM014 AdM015 U",
      "dM163 EEdM100 EdM165 OOdM147 OdM137 EIdM131 INdM135 INdM195 ANdM178 ENdM019 SIdM020 SA",
      "dM021 SUdM162 SEEdM116 SEdM136 SOOdM079 SOdM196 SIAdM025 LIdM026 LAdM027 LUdM084 LEE",
      "dM073 LEdM054 LOOdM153 LOdM110 LONG LEdM016 DIdM017 DAdM018 DUdM089 DEEdM180 DOOdM181 DO",
      "dM022 TIdM023 TAdM024 TUdM091 TEEdM055 TEdM104 TOOdM069 TOdM028 JIdM029 JAdM030 JUdM157 JEE",
      "dM113 JEdM160 JOOdM063 JOdM175 LONG JOdM031 YIdM032 YAdM033 YUdM109 YEEdM080 YEdM141 YOO",
      "dM121 YOdM034 FIdM035 FAdM036 FUdM078 FEEdM075 FEdM133 FOOdM088 FOdM197 FUAdM101 FAN",
      "dM037 NINdM038 NANdM039 NUNdM117 NENdM169 NONdM176 HIdM041 HAdM186 HUdM040 HEEdM096 HE",
      "dM042 HOOdM140 HOdM083 HEEIdM128 HOOUdM053 HINdM130 HANdM087 HUNdM052 HENdM193 HON",
      "dM046 HUANdM090 NGGIdM043 NGGAdM082 NGGUdM115 NGGEEdM146 NGGEdM156 NGGOOdM120 NGGO",
      "dM159 NGGAAdM127 NGGUAdM086 LONG NGGEdM106 LONG NGGOOdM183 LONG NGGOdM155 GIdM111 GA",
      "dM168 GUdM190 GEEdM166 GUEIdM167 GUANdM184 NGENdM057 NGONdM177 NGUANdM068 PIdM099 PA",
      "dM050 PUdM081 PEEdM051 PEdM102 POOdM066 POdM145 MBIdM062 MBAdM122 MBUdM047 MBEEdM188 MBEE",
      "dM072 MBEdM172 MBOOdM174 MBOdM187 MBUUdM161 LONG MBEdM105 LONG MBOOdM142 LONG MBOdM132 KPI",
      "dM092 KPAdM074 KPUdM044 KPEEdM108 KPEdM112 KPOOdM158 KPOdM124 GBIdM056 GBAdM148 GBU",
      "dM093 GBEEdM107 GBEdM071 GBOOdM070 GBOdM171 RAdM123 NDIdM129 NDAdM125 NDUdM191 NDEE",
      "dM119 NDEdM067 NDOOdM064 NDOdM152 NJAdM192 NJUdM149 NJEEdM134 NJOOdM182 VIdM185 VAdM151 VU",
      "dM173 VEEdM085 VEdM144 VOOdM077 VOdM164 NYINdM058 NYANdM170 NYUNdM098 NYENdM060 NYON"]),
    (0x1E8C7, ["MENDE KIKAKUI DIGIT ONEdTWOdTHREEdFOURdFIVEdSIXdSEVENdEIGHTdNINE",
      "cCOMBINING NUMBER TEENSeTENSeHUNDREDSeTHOUSANDSeTEN THOUSANDSeHUNDRED THOUSANDSeMILLIONS"]),
    (0x1E900, ["ADLAM CAPITAL LETTER ALIFdDAALIdLAAMdMIIMdBAdSINNYIIYHEdPEdBHEdRAdEdFAdIdOdDHAdYHE",
      "dWAWdNUNdKAFdYAdUdJIIMdCHIdHAdQAAFdGAdNYAdTUdNHAdVAdKHAdGBEdZALdKPOdSHAbSMALL LETTER ALIF",
      "dDAALIdLAAMdMIIMdBAdSINNYIIYHEdPEdBHEdRAdEdFAdIdOdDHAdYHEdWAWdNUNdKAFdYAdUdJIIMdCHIdHAdQAAF",
      "dGAdNYAdTUdNHAdVAdKHAdGBEdZALdKPOdSHAbALIF LENGTHENERbVOWEL LENGTHENERbGEMINATION MARK",
      "bHAMZAbCONSONANT MODIFIERbGEMINATE CONSONANT MODIFIERbNUKTAbNASALIZATION MARK"]),
    (0x1E950, ["ADLAM DIGIT ZEROcONEcTWOcTHREEcFOURcFIVEcSIXcSEVENcEIGHTcNINE"]),
    (0x1E95E, ["ADLAM INITIAL EXCLAMATION MARKcQUESTION MARK"]),
    (0x1EC71, ["INDIC SIYAQ NUMBER ONEdTWOdTHREEdFOURdFIVEdSIXdSEVENdEIGHTdNINEdTENdTWENTYdTHIRTY",
      "dFORTYdFIFTYdSIXTYdSEVENTYdEIGHTYdNINETYdONE HUNDREDdTWO HUNDREDdTHREE HUNDREDdFOUR HUNDRED",
      "dFIVE HUNDREDdSIX HUNDREDdSEVEN HUNDREDdEIGHT HUNDREDdNINE HUNDREDdONE THOUSAND",
      "dTWO THOUSANDdTHREE THOUSANDdFOUR THOUSANDdFIVE THOUSANDdSIX THOUSANDdSEVEN THOUSAND",
      "dEIGHT THOUSANDdNINE THOUSANDdTEN THOUSANDdTWENTY THOUSANDdTHIRTY THOUSANDdFORTY THOUSAND",
      "dFIFTY THOUSANDdSIXTY THOUSANDdSEVENTY THOUSANDdEIGHTY THOUSANDdNINETY THOUSANDdLAKHdLAKHAN",
      "cLAKH MARKcNUMBER KARORdKARORANdPREFIXED ONEeTWOeTHREEeFOUReFIVEeSIXeSEVENeEIGHTeNINE",
      "cPLACEHOLDERcFRACTION ONE QUARTEReHALFdTHREE QUARTERScRUPEE MARKcNUMBER ALTERNATE ONEeTWO",
      "eTEN THOUSANDcALTERNATE LAKH MARK"]),
    (0x1ED01, ["OTTOMAN SIYAQ NUMBER ONEdTWOdTHREEdFOURdFIVEdSIXdSEVENdEIGHTdNINEdTENdTWENTY",
      "dTHIRTYdFORTYdFIFTYdSIXTYdSEVENTYdEIGHTYdNINETYdONE HUNDREDdTWO HUNDREDdTHREE HUNDRED",
      "dFOUR HUNDREDdFIVE HUNDREDdSIX HUNDREDdSEVEN HUNDREDdEIGHT HUNDREDdNINE HUNDRED",
      "dONE THOUSANDdTWO THOUSANDdTHREE THOUSANDdFOUR THOUSANDdFIVE THOUSANDdSIX THOUSAND",
      "dSEVEN THOUSANDdEIGHT THOUSANDdNINE THOUSANDdTEN THOUSANDdTWENTY THOUSANDdTHIRTY THOUSAND",
      "dFORTY THOUSANDdFIFTY THOUSANDdSIXTY THOUSANDdSEVENTY THOUSANDdEIGHTY THOUSAND",
      "dNINETY THOUSANDcMARRATANcALTERNATE NUMBER TWOeTHREEeFOUReFIVEeSIXeSEVENeEIGHTeNINEeTEN",
      "eFOUR HUNDREDeSIX HUNDREDeTWO THOUSANDeTEN THOUSANDcFRACTION ONE HALFeSIXTH"]),
    (0x1EE00, ["ARABIC MATHEMATICAL ALEFcBEHcJEEMcDAL"]),
    (0x1EE05, ["ARABIC MATHEMATICAL WAWcZAINcHAHcTAHcYEHcKAFcLAMcMEEMcNOONcSEENcAINcFEHcSADcQAF",
      "cREHcSHEENcTEHcTHEHcKHAHcTHALcDADcZAHcGHAINcDOTLESS BEHdNOONdFEHdQAF"]),
    (0x1EE21, ["ARABIC MATHEMATICAL INITIAL BEHdJEEM"]),
    (0x1EE24, ["ARABIC MATHEMATICAL INITIAL HEH"]),
    (0x1EE27, ["ARABIC MATHEMATICAL INITIAL HAH"]),
    (0x1EE29, ["ARABIC MATHEMATICAL INITIAL YEHdKAFdLAMdMEEMdNOONdSEENdAINdFEHdSADdQAF"]),
    (0x1EE34, ["ARABIC MATHEMATICAL INITIAL SHEENdTEHdTHEHdKHAH"]),
    (0x1EE39, ["ARABIC MATHEMATICAL INITIAL DAD"]),
    (0x1EE3B, ["ARABIC MATHEMATICAL INITIAL GHAIN"]),
    (0x1EE42, ["ARABIC MATHEMATICAL TAILED JEEM"]),
    (0x1EE47, ["ARABIC MATHEMATICAL TAILED HAH"]),
    (0x1EE49, ["ARABIC MATHEMATICAL TAILED YEH"]),
    (0x1EE4B, ["ARABIC MATHEMATICAL TAILED LAM"]),
    (0x1EE4D, ["ARABIC MATHEMATICAL TAILED NOONdSEENdAIN"]),
    (0x1EE51, ["ARABIC MATHEMATICAL TAILED SADdQAF"]),
    (0x1EE54, ["ARABIC MATHEMATICAL TAILED SHEEN"]),
    (0x1EE57, ["ARABIC MATHEMATICAL TAILED KHAH"]),
    (0x1EE59, ["ARABIC MATHEMATICAL TAILED DAD"]),
    (0x1EE5B, ["ARABIC MATHEMATICAL TAILED GHAIN"]),
    (0x1EE5D, ["ARABIC MATHEMATICAL TAILED DOTLESS NOON"]),
    (0x1EE5F, ["ARABIC MATHEMATICAL TAILED DOTLESS QAF"]),
    (0x1EE61, ["ARABIC MATHEMATICAL STRETCHED BEHdJEEM"]),
    (0x1EE64, ["ARABIC MATHEMATICAL STRETCHED HEH"]),
    (0x1EE67, ["ARABIC MATHEMATICAL STRETCHED HAHdTAHdYEHdKAF"]),
    (0x1EE6C, ["ARABIC MATHEMATICAL STRETCHED MEEMdNOONdSEENdAINdFEHdSADdQAF"]),
    (0x1EE74, ["ARABIC MATHEMATICAL STRETCHED SHEENdTEHdTHEHdKHAH"]),
    (0x1EE79, ["ARABIC MATHEMATICAL STRETCHED DADdZAHdGHAINdDOTLESS BEH"]),
    (0x1EE7E, ["ARABIC MATHEMATICAL STRETCHED DOTLESS FEH"]),
    (0x1EE80, ["ARABIC MATHEMATICAL LOOPED ALEFdBEHdJEEMdDALdHEHdWAWdZAINdHAHdTAHdYEH"]),
    (0x1EE8B, ["ARABIC MATHEMATICAL LOOPED LAMdMEEMdNOONdSEENdAINdFEHdSADdQAFdREHdSHEENdTEHdTHEH",
      "dKHAHdTHALdDADdZAHdGHAIN"]),
    (0x1EEA1, ["ARABIC MATHEMATICAL DOUBLE-STRUCK BEHdJEEMdDAL"]),
    (0x1EEA5, ["ARABIC MATHEMATICAL DOUBLE-STRUCK WAWdZAINdHAHdTAHdYEH"]),
    (0x1EEAB, ["ARABIC MATHEMATICAL DOUBLE-STRUCK LAMdMEEMdNOONdSEENdAINdFEHdSADdQAFdREHdSHEENdTEH",
      "dTHEHdKHAHdTHALdDADdZAHdGHAIN"]),
    (0x1EEF0, ["ARABIC MATHEMATICAL OPERATOR MEEM WITH HAH WITH TATWEELdHAH WITH DAL"])]

end SheetScript.Text
