namespace SheetScript.Text

def hieroglyphNames : List (Nat × List String) :=
  [(0x12000, ["CUNEIFORM SIGN AdTIMES AeBADeGAN2 TENUeHAeIGIeLAGAR GUNUeMUSHeSAGcA2cABdTIMES ASH2",
      "eDUN3 GUNUeGALeGAN2 TENUeHAeIGI GUNUeIMINeLAGABeSHESHeU PLUS U PLUS UdGUNUcAB2dTIMES BALAG",
      "eGAN2 TENUeME PLUS ENeSHA3eTAK4cADcAKdTIMES ERIN2eSHITA PLUS GISHcALdTIMES ALeDIM2eGISHeHA",
      "eKAD3eKIeSHEeUSHcALANcALEPHcAMARdTIMES SHEcANdOVER ANdTHREE TIMES",
      "dPLUS NAGA OPPOSING AN PLUS NAGAfSQUAREDcANSHEcAPINcARADdTIMES KURcARKABcASAL2cASH",
      "dZIDA TENUdKABA TENUdOVER ASH TUG2 OVER TUG2 TUG2 OVER TUG2 PAPfOVER ASH",
      "hCROSSING ASH OVER ASH OVER ASHcASH2cASHGABcBAcBADcBAG3cBAHAR2cBALdOVER BALcBALAGcBARcBARA2",
      "cBIdTIMES AeGAReIGI GUNUcBUdOVER BU ABfUNdCROSSING BUcBULUGdOVER BULUGcBURcBUR2cDAcDAG",
      "dKISIM5 TIMES A PLUS MASHfAMARfBALAGfBIfGAgPLUS MASHfGIfGIR2fGUDfHAfIRgPLUS LUfKAKfLAfLU",
      "gPLUS MASH2fLUMfNEfPAP PLUS PAPfSIfTAK4fU2 PLUS GIR2fUSHcDAMcDARcDARA3cDARA4cDIcDIBcDIM",
      "dTIMES SHEcDIM2cDINdKASKAL U GUNU DISHcDISHcDUdOVER DUdGUNUdSHESHIGcDUBdTIMES ESH2cDUB2cDUG",
      "cDUGUDcDUHcDUNcDUN3dGUNUeGUNUcDUN4cDUR2cEdTIMES PAPdOVER E NUN OVER NUNcE2",
      "dTIMES A PLUS HA PLUS DAeGAReMIeSALeSHEeUcEDINcEGIRcELcENdTIMES GAN2fTENUeMEdCROSSING EN",
      "dOPPOSING ENdSQUAREDcERENcERIN2cESH2cEZENdTIMES AfPLUS LALhTIMES LALeANeBADeDUN3 GUNUgGUNU",
      "eHAfGUNUeIGI GUNUeKASKALfSQUAREDeKU3eLAeLAL TIMES LALeLIeLUeU2eUDcGAdGUNUcGA2",
      "dTIMES A PLUS DA PLUS HAgHAgIGIeAB2 TENU PLUS TABeANeASHeASH2 PLUS GALeBADeBAR PLUS RAeBUR",
      "fPLUS RAeDAeDIeDIM TIMES SHEeDUBeELfPLUS LAeENfTIMES GAN2 TENUeGAN2 TENUeGAReGIeGI4fPLUS A",
      "eGIR2 PLUS SUeHA PLUS LU PLUS ESH2eHALfPLUS LAeHI PLUS LIeHUB2eIGI GUNU",
      "eISH PLUS HU PLUS ASHeKAKeKASKALeKIDfPLUS LALeKU3 PLUS ANeLAeME PLUS ENeMIeNUNfOVER NUNePA",
      "eSALeSAReSHEfPLUS TUReSHIDeSUMeTAK4eUeUDfPLUS DUdOVER GA2cGABAdCROSSING GABAcGAD",
      "dOVER GAD GAR OVER GARcGALdGAD OVER GAD GAR OVER GARcGALAMcGAMcGANcGAN2dTENUdOVER GAN2",
      "dCROSSING GAN2cGARcGAR3cGASHANcGESHTINdTIMES KURcGIdTIMES EeUdCROSSING GIcGI4dOVER GI4",
      "dCROSSING GI4cGIDIMcGIR2dGUNUcGIR3dTIMES A PLUS IGIeGAN2 TENUeIGIeLU PLUS IGIePAcGISALcGISH",
      "dCROSSING GISHdTIMES BADeTAK4dTENUcGUdCROSSING GUcGU2dTIMES KAKfTIMES IGI GUNUeNUN",
      "eSAL PLUS TUG2dGUNUcGUDdTIMES A PLUS KUReKURdOVER GUD LUGALcGULcGUMdTIMES SHEcGURcGUR7",
      "cGURUNcGURUSHcHAdTENUdGUNUcHALcHIdTIMES ASHeASH2eBADeDISHeGADeKINeNUNeSHEeUcHUcHUB2",
      "dTIMES ANeHALeKASKALeLISHeUDcHUL2cIdAcIBcIDIMdOVER IDIM BURfSQUAREDcIGcIGIdDIBdRI",
      "dOVER IGI SHIR OVER SHIR UD OVER UDdGUNUcILdTIMES GAN2 TENUcIL2cIMdTIMES TAK4dCROSSING IM",
      "dOPPOSING IMdSQUAREDcIMINcINcIRcISHcKAdTIMES AeADfPLUS KU3eASH2eBADeBALAGeBAReBIeERIN2eESH2",
      "eGAeGALeGAN2 TENUeGARfPLUS SHA3 PLUS AeGIeGIR2eGISH PLUS SARfCROSSING GISHeGUeGUR7eIGIeIM",
      "eKAKeKIeKIDeLIeLUeMEfPLUS DUgGIgTEeMIfPLUS NUNUZeNEeNUNePIeRUeSAeSAReSHAeSHEeSHIDeSHUeSIG",
      "eSUHUReTAReUeU2eUDeUMUM TIMES PAeUSHeZIcKA2dCROSSING KA2cKABcKAD2cKAD3cKAD4cKAD5dOVER KAD5",
      "cKAKdTIMES IGI GUNUcKALdTIMES BADdCROSSING KALcKAM2cKAM4cKASKAL",
      "dLAGAB TIMES U OVER LAGAB TIMES UdOVER KASKAL LAGAB TIMES U OVER LAGAB TIMES UcKESH2cKI",
      "dTIMES BADeUeUDcKIDcKINcKISALcKISHcKISIM5dOVER KISIM5cKU",
      "dOVER HI TIMES ASH2 KU OVER HI TIMES ASH2cKU3cKU4dVARIANT FORMcKU7cKULdGUNUcKUNcKUR",
      "dOPPOSING KURcKUSHU2cKWU318cLAcLAGABdTIMES AfPLUS DA PLUS HAgGARgLALeALeANeASH ZIDA TENU",
      "eBADeBIeDAReENeGAeGAReGUDfPLUS GUDeHAeHALeHI TIMES NUNeIGI GUNUeIMfPLUS HAgLUeKIeKINeKU3",
      "eKULfPLUS HI PLUS AeLAGABeLISHeLUeLULeMEfPLUS ENeMUSHeNEeSHE PLUS SUM",
      "eSHITA PLUS GISH PLUS ERIN2hTENUeSHU2fPLUS SHU2eSUMeTAGeTAK4eTE PLUS A PLUS SU PLUS NAeU",
      "fPLUS AgU PLUS UeU2 PLUS ASHeUDeUSHdSQUAREDcLAGARdTIMES SHEfPLUS SUMdGUNU",
      "eOVER LAGAR GUNU SHEcLAHSHUcLALdTIMES LALcLAMdTIMES KURfPLUS RUcLIcLILcLIMMU2cLISHcLU",
      "dTIMES BADcLU2dTIMES ALeBADeESH2fTENUeGAN2 TENUeHI TIMES BADeIMeKAD2eKAD3fPLUS ASHeKI",
      "eLA PLUS ASHeLAGABeME PLUS ENeNEeNUeSI PLUS ASHeSIK2 PLUS BUeTUG2dTENUdCROSSING LU2",
      "dOPPOSING LU2dSQUAREDdSHESHIGcLU3cLUGALdOVER LUGALdOPPOSING LUGALdSHESHIGcLUHcLULcLUM",
      "dOVER LUMfGAR OVER GARcMAdTIMES TAK4dGUNUcMA2cMAHcMARcMASHcMASH2cMEcMEScMIcMINcMUdOVER MU",
      "cMUGdGUNUcMUNSUBcMURGU2cMUSHdTIMES AeKUReZAdOVER MUSHfTIMES A PLUS NAdCROSSING MUSHcMUSH3",
      "dTIMES AfPLUS DIeDIdGUNUcNAcNA2cNAGAdINVERTEDdTIMES SHU TENUdOPPOSING NAGAcNAGAR",
      "cNAM NUTILLUcNAMcNAM2cNEdTIMES AeUDdSHESHIGcNIdTIMES EcNI2cNIMdTIMES GAN2 TENU",
      "eGAR PLUS GAN2 TENUcNINDA2dTIMES ANeASHfPLUS ASHeGUDeME PLUS GAN2 TENUeNEeNUNeSHEfPLUS A AN",
      "gASHhPLUS ASHeU2 PLUS ASHeUSHcNISAGcNUcNU11cNUNdLAGAR TIMES GARfMASHfSAL",
      "gOVER NUN LAGAR TIMES SALfUSHdTENUdOVER NUNdCROSSING NUNfLAGAR OVER LAGARcNUNUZ",
      "dAB2 TIMES ASHGABfBIfDUGfGUDfIGI GUNUfKAD3fLAfNEfSILA3fU2dKISIM5 TIMES BIgUcPAcPADcPANcPAP",
      "cPESH2cPIdTIMES AeABeBIeBUeEeIeIBeUeU2dCROSSING PIcPIRIGdTIMES KALeUDeZAdOPPOSING PIRIGcRA",
      "cRABcRIcRUcSAcSAG NUTILLUcSAGdTIMES AeDUeDUBeHAeKAKeKUReLUMeMIeNUNeSALeSHIDeTABeU2eUBeUMeUR",
      "eUSHdOVER SAGdGUNUcSALdLAGAB TIMES ASH2cSANGA2cSARcSHAcSHA3dTIMES AeBADeGISHeNEeSHU2eTUReU",
      "fPLUS AcSHA6cSHAB6cSHAR2cSHEdHUdOVER SHE GAD OVER GAD GAR OVER GAR",
      "fTAB OVER TAB GAR OVER GARcSHEG9cSHENcSHESHcSHESH2cSHESHLAMcSHIDdTIMES AeIMcSHIMdTIMES A",
      "eBALeBULUGeDINeGAReIGIfGUNUeKUSHU2eLULeMUGeSALcSHINIGcSHIRdTENUdOVER SHIR BUR OVER BUR",
      "cSHITAcSHUdOVER INVERTED SHUcSHU2cSHUBURcSIdGUNUcSIGcSIG4dOVER SIG4 SHU2cSIK2cSILA3cSU",
      "dOVER SUcSUDcSUD2cSUHURcSUMcSUMASHcSURcSUR9cTAdASTERISKdTIMES HIeMIdGUNUcTAB",
      "dOVER TAB NI OVER NI DISH OVER DISHdSQUAREDcTAGdTIMES BIeGUDeSHEeSHUeTUG2eUDcTAK4cTARcTE",
      "dGUNUcTIdTENUcTILcTIRdTIMES TAK4dOVER TIRfGAD OVER GAD GAR OVER GARcTUcTUG2cTUKcTUMcTUR",
      "dOVER TUR ZA OVER ZAcUdGUDdU UdOVER U PA OVER PA GAR OVER GARfSUR OVER SUR",
      "fU REVERSED OVER U REVERSEDcU2cUBcUDdKUSHU2dTIMES BADeMIeU PLUS U PLUS UjGUNUdGUNUdSHESHIG",
      "eTIMES BADcUDUGcUMdTIMES LAGABeME PLUS DAeSHA3eUcUMBINcUMUMdTIMES KASKALePAcUNdGUNUcUR",
      "dCROSSING URdSHESHIGcUR2dTIMES A PLUS HAgNAeALeHAeNUNeU2fPLUS ASHgBIcUR4cURIcURI3cURU",
      "dTIMES AeASHGABeBAReDUNeGAeGALeGAN2 TENUeGAReGUeHAeIGIeIMeISHeKIeLUMeMINePAeSHEeSIG4eTU",
      "eU PLUS GUDeUDeURUDAcURUDAdTIMES UcUSHdTIMES AeKUeKUReTAK4cUSHXcUSH2cUSHUMXcUTUKIcUZ3",
      "dTIMES KASKALcUZUcZAdTENUdSQUARED TIMES KURcZAGcZAMXcZE2cZIdOVER ZIcZI3cZIBdKABA TENUcZIG",
      "cZIZ2cZUcZU5dTIMES AcZUBURcZUMcKAP ELAMITEcAB TIMES NUNcAB2 TIMES AcAMAR TIMES KUG",
      "cDAG KISIM5 TIMES U2 PLUS MASHcDAG3cDISH PLUS SHUcDUB TIMES SHEcEZEN TIMES GUDeSHE",
      "cGA2 TIMES AN PLUS KAK PLUS AeASH2cGE22cGIGcHUSHcKA TIMES ANSHEeASH3eGISHeGUDeHI TIMES ASH2",
      "eLUMePAeSHULeTUeUR2cLAGAB TIMES GIcLU2 SHESHIG TIMES BADdTIMES ESH2 PLUS LALeSHUcMESH",
      "cMUSH3 TIMES ZAcNA4cNINcNIN9cNINDA2 TIMES BALeGIcNU11 ROTATED NINETY DEGREEScPESH2 ASTERISK",
      "cPIR2cSAG TIMES IGI GUNUcTI2cUM TIMES MEcU U"]),
    (0x12400, ["CUNEIFORM NUMERIC SIGN TWO ASHdTHREE ASHdFOUR ASHdFIVE ASHdSIX ASHdSEVEN ASH",
      "dEIGHT ASHdNINE ASHdTHREE DISHdFOUR DISHdFIVE DISHdSIX DISHdSEVEN DISHdEIGHT DISHdNINE DISH",
      "dFOUR UdFIVE UdSIX UdSEVEN UdEIGHT UdNINE UdONE GESH2dTWO GESH2dTHREE GESH2dFOUR GESH2",
      "dFIVE GESH2dSIX GESH2dSEVEN GESH2dEIGHT GESH2dNINE GESH2dONE GESHUdTWO GESHUdTHREE GESHU",
      "dFOUR GESHUdFIVE GESHUdTWO SHAR2dTHREE SHAR2fVARIANT FORMdFOUR SHAR2dFIVE SHAR2dSIX SHAR2",
      "dSEVEN SHAR2dEIGHT SHAR2dNINE SHAR2dONE SHARUdTWO SHARUdTHREE SHARUfVARIANT FORMdFOUR SHARU",
      "dFIVE SHARUdSHAR2 TIMES GAL PLUS DISHhMINdONE BURUdTWO BURUdTHREE BURUfVARIANT FORM",
      "dFOUR BURUdFIVE BURUdTHREE VARIANT FORM ESH16gESH21dFOUR VARIANT FORM LIMMUgLIMMU4gLIMMU A",
      "hBdSIX VARIANT FORM ASH9dSEVEN VARIANT FORM IMIN3gIMIN AhBdEIGHT VARIANT FORM USSUgUSSU3",
      "dNINE VARIANT FORM ILIMMUgILIMMU3gILIMMU4gILIMMU AdTWO ASH TENUdTHREE ASH TENU",
      "dFOUR ASH TENUdFIVE ASH TENUdSIX ASH TENUdONE BAN2dTWO BAN2dTHREE BAN2dFOUR BAN2",
      "fVARIANT FORMdFIVE BAN2fVARIANT FORMdNIGIDAMINdNIGIDAESHdONE ESHE3dTWO ESHE3dONE THIRD DISH",
      "dTWO THIRDS DISHdFIVE SIXTHS DISHdONE THIRD VARIANT FORM AdTWO THIRDS VARIANT FORM A",
      "dONE EIGHTH ASHeQUARTER ASHdOLD ASSYRIAN ONE SIXTHgQUARTERdONE QUARTER GUReHALF GUR",
      "dELAMITE ONE THIRDeTWO THIRDSeFORTYeFIFTYdFOUR U VARIANT FORMdFIVE U VARIANT FORM",
      "dSIX U VARIANT FORMdSEVEN U VARIANT FORMdEIGHT U VARIANT FORMdNINE U VARIANT FORM"]),
    (0x12470, ["CUNEIFORM PUNCTUATION SIGN OLD ASSYRIAN WORD DIVIDERdVERTICAL COLONdDIAGONAL COLON",
      "eTRICOLONeQUADCOLON"]),
    (0x12480, ["CUNEIFORM SIGN AB TIMES NUN TENUeSHU2cAD TIMES ESH2cBAD TIMES DISH TENU",
      "cBAHAR2 TIMES AB2eNIeZAcBU OVER BU TIMES NA2cDA TIMES TAK4cDAG TIMES KURcDIM TIMES IGI",
      "eU U UcDIM2 TIMES UDcDUG TIMES ANSHEeASHfAT LEFTeDINeDUNeERIN2eGAeGIeGIR2 GUNUeGISHeHAeHI",
      "eIGI GUNUeKASKALeKUReKUSHU2fPLUS KASKALeLAK-020eLAMfTIMES KUReLUH PLUS GISHeMASHeMESeMIeNI",
      "ePIeSHEeSI GUNUcE2 TIMES KURePAPcERIN2 XcESH2 CROSSING ESH2cEZEN SHESHIG TIMES ASHfHI",
      "fIGI GUNUfLAfLALfMEfMESfSUdTIMES SUcGA2 TIMES BAHAR2eDIM GUNUeDUG TIMES IGI GUNUgKASKAL",
      "eERENeGAeGAR PLUS DIgNEeHA PLUS AeKUSHU2 PLUS KASKALeLAMfTIMES KUReLUHeMUSHeNEfPLUS E2gGI",
      "eSHIMeZIZ2cGABA ROTATED NINETY DEGREEScGESHTIN TIMES UcGISH TIMES GISH CROSSING GISH",
      "cGU2 TIMES IGI GUNUcGUD PLUS GISH TIMES TAK4cHA TENU GUNUcHI TIMES ASH OVER HI TIMES ASH",
      "cKA TIMES BUeKAeU U UeURcLAGAB TIMES ZU OVER ZUcLAK-003cLAK-021cLAK-025cLAK-030cLAK-050",
      "cLAK-051cLAK-062cLAK-079 OVER LAK-079 GUNUcLAK-080cLAK-081 OVER LAK-081cLAK-092cLAK-130",
      "cLAK-142cLAK-210cLAK-219cLAK-220cLAK-225cLAK-228cLAK-238cLAK-265cLAK-266cLAK-343cLAK-347",
      "cLAK-348cLAK-383cLAK-384cLAK-390cLAK-441cLAK-449dTIMES GUeIGIePAP PLUS LU3gPAP PLUS LU3",
      "eU2 PLUS BAcLAK-450cLAK-457cLAK-470cLAK-483cLAK-490cLAK-492cLAK-493cLAK-495cLAK-550cLAK-608",
      "cLAK-617dTIMES ASHeBADeDUN3 GUNU GUNUeKU3eLAeTAReTEeU2eUDeURUDAcLAK-636cLAK-648dTIMES DUB",
      "eGAeIGIfGUNUeNIePAP PLUS PAP PLUS LU3eSHESH PLUS KIeUDeURUDAcLAK-724cLAK-749",
      "cLU2 GUNU TIMES ASHdTIMES DISHeHALePAPfPLUS PAP PLUS LU3eTAK4cMI PLUS ZA7",
      "cMUSH OVER MUSH TIMES GAgKAKcNINDA2 TIMES DIM GUNUeGISHeGULeHIeKESH2eLAK-050eMASH",
      "ePAP PLUS PAPeUfPLUS UeURUDAcSAG GUNU TIMES HAdTIMES ENeSHE AT LEFTeTAK4cSHA6 TENU",
      "cSHE OVER SHEdPLUS HUB2eNAM2eSARcSHU2 PLUS DUG TIMES NIeE2 TIMES ANcSI TIMES TAK4",
      "cTAK4 PLUS SAGcTUM TIMES GAN2 TENUeTHREE DISHcUR2 INVERTEDdTIMES UDcURU TIMES DARA3eLAK-668",
      "eLU3cZA7cZU OVER ZU PLUS SARcZU5 TIMES THREE DISH TENU"]),
    (0x12F90, ["CYPRO-MINOAN SIGN CM001cCM002cCM004cCM005cCM006cCM007cCM008cCM009cCM010cCM011",
      "cCM012cCM012BcCM013cCM015cCM017cCM019cCM021cCM023cCM024cCM025cCM026cCM027cCM028cCM029cCM030",
      "cCM033cCM034cCM035cCM036cCM037cCM038cCM039cCM040cCM041cCM044cCM046cCM047cCM049cCM050cCM051",
      "cCM052cCM053cCM054cCM055cCM056cCM058cCM059cCM060cCM061cCM062cCM063cCM064cCM066cCM067cCM068",
      "cCM069cCM070cCM071cCM072cCM073cCM074cCM075cCM075BcCM076cCM078cCM079cCM080cCM081cCM082cCM083",
      "cCM084cCM085cCM086cCM087cCM088cCM089cCM090cCM091cCM092cCM094cCM095cCM096cCM097cCM098cCM099",
      "cCM100cCM101cCM102cCM103cCM104cCM105cCM107cCM108cCM109cCM110cCM112cCM114cCM301cCM302"]),
    (0x13000, ["EGYPTIAN HIEROGLYPH A001cA002cA003cA004cA005cA005AcA006cA006AcA006BcA007cA008cA009",
      "cA010cA011cA012cA013cA014cA014AcA015cA016cA017cA017AcA018cA019cA020cA021cA022cA023cA024",
      "cA025cA026cA027cA028cA029cA030cA031cA032cA032AcA033cA034cA035cA036cA037cA038cA039cA040",
      "cA040AcA041cA042cA042AcA043cA043AcA044cA045cA045AcA046cA047cA048cA049cA050cA051cA052cA053",
      "cA054cA055cA056cA057cA058cA059cA060cA061cA062cA063cA064cA065cA066cA067cA068cA069cA070cB001",
      "cB002cB003cB004cB005cB005AcB006cB007cB008cB009cC001cC002cC002AcC002BcC002CcC003cC004cC005",
      "cC006cC007cC008cC009cC010cC010AcC011cC012cC013cC014cC015cC016cC017cC018cC019cC020cC021cC022",
      "cC023cC024cD001cD002cD003cD004cD005cD006cD007cD008cD008AcD009cD010cD011cD012cD013cD014cD015",
      "cD016cD017cD018cD019cD020cD021cD022cD023cD024cD025cD026cD027cD027AcD028cD029cD030cD031",
      "cD031AcD032cD033cD034cD034AcD035cD036cD037cD038cD039cD040cD041cD042cD043cD044cD045cD046",
      "cD046AcD047cD048cD048AcD049cD050cD050AcD050BcD050CcD050DcD050EcD050FcD050GcD050HcD050IcD051",
      "cD052cD052AcD053cD054cD054AcD055cD056cD057cD058cD059cD060cD061cD062cD063cD064cD065cD066",
      "cD067cD067AcD067BcD067CcD067DcD067EcD067FcD067GcD067HcE001cE002cE003cE004cE005cE006cE007",
      "cE008cE008AcE009cE009AcE010cE011cE012cE013cE014cE015cE016cE016AcE017cE017AcE018cE019cE020",
      "cE020AcE021cE022cE023cE024cE025cE026cE027cE028cE028AcE029cE030cE031cE032cE033cE034cE034A",
      "cE036cE037cE038cF001cF001AcF002cF003cF004cF005cF006cF007cF008cF009cF010cF011cF012cF013",
      "cF013AcF014cF015cF016cF017cF018cF019cF020cF021cF021AcF022cF023cF024cF025cF026cF027cF028",
      "cF029cF030cF031cF031AcF032cF033cF034cF035cF036cF037cF037AcF038cF038AcF039cF040cF041cF042",
      "cF043cF044cF045cF045AcF046cF046AcF047cF047AcF048cF049cF050cF051cF051AcF051BcF051CcF052cF053",
      "cG001cG002cG003cG004cG005cG006cG006AcG007cG007AcG007BcG008cG009cG010cG011cG011AcG012cG013",
      "cG014cG015cG016cG017cG018cG019cG020cG020AcG021cG022cG023cG024cG025cG026cG026AcG027cG028",
      "cG029cG030cG031cG032cG033cG034cG035cG036cG036AcG037cG037AcG038cG039cG040cG041cG042cG043",
      "cG043AcG044cG045cG045AcG046cG047cG048cG049cG050cG051cG052cG053cG054cH001cH002cH003cH004",
      "cH005cH006cH006AcH007cH008cI001cI002cI003cI004cI005cI005AcI006cI007cI008cI009cI009AcI010",
      "cI010AcI011cI011AcI012cI013cI014cI015cK001cK002cK003cK004cK005cK006cK007cK008cL001cL002",
      "cL002AcL003cL004cL005cL006cL006AcL007cL008cM001cM001AcM001BcM002cM003cM003AcM004cM005cM006",
      "cM007cM008cM009cM010cM010AcM011cM012cM012AcM012BcM012CcM012DcM012EcM012FcM012GcM012HcM013",
      "cM014cM015cM015AcM016cM016AcM017cM017AcM018cM019cM020cM021cM022cM022AcM023cM024cM024AcM025",
      "cM026cM027cM028cM028AcM029cM030cM031cM031AcM032cM033cM033AcM033BcM034cM035cM036cM037cM038",
      "cM039cM040cM040AcM041cM042cM043cM044cN001cN002cN003cN004cN005cN006cN007cN008cN009cN010cN011",
      "cN012cN013cN014cN015cN016cN017cN018cN018AcN018BcN019cN020cN021cN022cN023cN024cN025cN025A",
      "cN026cN027cN028cN029cN030cN031cN032cN033cN033AcN034cN034AcN035cN035AcN036cN037cN037AcN038",
      "cN039cN040cN041cN042cNL001cNL002cNL003cNL004cNL005cNL005AcNL006cNL007cNL008cNL009cNL010",
      "cNL011cNL012cNL013cNL014cNL015cNL016cNL017cNL017AcNL018cNL019cNL020cNU001cNU002cNU003cNU004",
      "cNU005cNU006cNU007cNU008cNU009cNU010cNU010AcNU011cNU011AcNU012cNU013cNU014cNU015cNU016",
      "cNU017cNU018cNU018AcNU019cNU020cNU021cNU022cNU022AcO001cO001AcO002cO003cO004cO005cO005A",
      "cO006cO006AcO006BcO006CcO006DcO006EcO006FcO007cO008cO009cO010cO010AcO010BcO010CcO011cO012",
      "cO013cO014cO015cO016cO017cO018cO019cO019AcO020cO020AcO021cO022cO023cO024cO024AcO025cO025A",
      "cO026cO027cO028cO029cO029AcO030cO030AcO031cO032cO033cO033AcO034cO035cO036cO036AcO036BcO036C",
      "cO036DcO037cO038cO039cO040cO041cO042cO043cO044cO045cO046cO047cO048cO049cO050cO050AcO050B",
      "cO051cP001cP001AcP002cP003cP003AcP004cP005cP006cP007cP008cP009cP010cP011cQ001cQ002cQ003",
      "cQ004cQ005cQ006cQ007cR001cR002cR002AcR003cR003AcR003BcR004cR005cR006cR007cR008cR009cR010",
      "cR010AcR011cR012cR013cR014cR015cR016cR016AcR017cR018cR019cR020cR021cR022cR023cR024cR025",
      "cR026cR027cR028cR029cS001cS002cS002AcS003cS004cS005cS006cS006AcS007cS008cS009cS010cS011",
      "cS012cS013cS014cS014AcS014BcS015cS016cS017cS017AcS018cS019cS020cS021cS022cS023cS024cS025",
      "cS026cS026AcS026BcS027cS028cS029cS030cS031cS032cS033cS034cS035cS035AcS036cS037cS038cS039",
      "cS040cS041cS042cS043cS044cS045cS046cT001cT002cT003cT003AcT004cT005cT006cT007cT007AcT008",
      "cT008AcT009cT009AcT010cT011cT011AcT012cT013cT014cT015cT016cT016AcT017cT018cT019cT020cT021",
      "cT022cT023cT024cT025cT026cT027cT028cT029cT030cT031cT032cT032AcT033cT033AcT034cT035cT036",
      "cU001cU002cU003cU004cU005cU006cU006AcU006BcU007cU008cU009cU010cU011cU012cU013cU014cU015",
      "cU016cU017cU018cU019cU020cU021cU022cU023cU023AcU024cU025cU026cU027cU028cU029cU029AcU030",
      "cU031cU032cU032AcU033cU034cU035cU036cU037cU038cU039cU040cU041cU042cV001cV001AcV001BcV001C",
      "cV001DcV001EcV001FcV001GcV001HcV001IcV002cV002AcV003cV004cV005cV006cV007cV007AcV007BcV008",
      "cV009cV010cV011cV011AcV011BcV011CcV012cV012AcV012BcV013cV014cV015cV016cV017cV018cV019cV020",
      "cV020AcV020BcV020CcV020DcV020EcV020FcV020GcV020HcV020IcV020JcV020KcV020LcV021cV022cV023",
      "cV023AcV024cV025cV026cV027cV028cV028AcV029cV029AcV030cV030AcV031cV031AcV032cV033cV033AcV034",
      "cV035cV036cV037cV037AcV038cV039cV040cV040AcW001cW002cW003cW003AcW004cW005cW006cW007cW008",
      "cW009cW009AcW010cW010AcW011cW012cW013cW014cW014AcW015cW016cW017cW017AcW018cW018AcW019cW020",
      "cW021cW022cW023cW024cW024AcW025cX001cX002cX003cX004cX004AcX004BcX005cX006cX006AcX007cX008",
      "cX008AcY001cY001AcY002cY003cY004cY005cY006cY007cY008cZ001cZ002cZ002AcZ002BcZ002CcZ002DcZ003",
      "cZ003AcZ003BcZ004cZ004AcZ005cZ005AcZ006cZ007cZ008cZ009cZ010cZ011cZ012cZ013cZ014cZ015cZ015A",
      "cZ015BcZ015CcZ015DcZ015EcZ015FcZ015GcZ015HcZ015IcZ016cZ016AcZ016BcZ016CcZ016DcZ016EcZ016F",
      "cZ016GcZ016HcAA001cAA002cAA003cAA004cAA005cAA006cAA007cAA007AcAA007BcAA008cAA009cAA010",
      "cAA011cAA012cAA013cAA014cAA015cAA016cAA017cAA018cAA019cAA020cAA021cAA022cAA023cAA024cAA025",
      "cAA026cAA027cAA028cAA029cAA030cAA031cAA032"]),
    (0x13430, ["EGYPTIAN HIEROGLYPH VERTICAL JOINERcHORIZONTAL JOINERcINSERT AT TOP START",
      "eBOTTOM STARTeTOP ENDeBOTTOM ENDcOVERLAY MIDDLEcBEGIN SEGMENTcEND SEGMENT"])]

end SheetScript.Text
