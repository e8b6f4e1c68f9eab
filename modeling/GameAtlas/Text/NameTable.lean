/-!
The names of characters after Unicode 14, their other names included, in alphabetical order. Names
that follow from a code point or from the letters of a syllable are left out. Small letters are a
number in base twenty-six: as many characters as the name shares with the one before it. Behind them
stands the rest of the name.
-/

namespace GameAtlas.Text

def nameRows : List String :=
  ["aABACUSbC CURRENTcCORDIONeUNT OFcKdNOWLEDGEcTIVATE ARABIC FORM SHAPINGjSYMMETRIC SWAPPING",
   "cUTE ACCENThNGLEbDDRESSED TO THE SUBJECTcHESIVE BANDAGEcI SHAKTIcLAM ALIF LENGTHENER",
   "gCAPITAL LETTER ALIFvBAwHEvCHIvDAALIwHAvEvFAvGAwBEvHAvIvJIIMvKAFwHAwPOvLAAMvMIIMvNHAwUNwYAvO",
   "vPEvQAAFvRAvSHAwINNYIIYHEvTUvUvVAvWAWvYAwHEvZALhONSONANT MODIFIERgDIGIT EIGHTmFIVEnOURmNINE",
   "mONEmSEVENnIXmTHREEnWOmZEROgGEMINATE CONSONANT MODIFIERnION MARKgHAMZAgINITIAL EXCLAMATION MAR",
   "KoQUESTION MARKgNASALIZATION MARKhUKTAgSMALL LETTER ALIFtBAuHEtCHItDAALIuHAtEtFAtGAuBEtHAtI",
   "tJIIMtKAFuHAuPOtLAAMtMIIMtNHAuUNuYAtOtPEtQAAFtRAtSHAuINNYIIYHEtTUtUtVAtWAWtYAuHEtZAL",
   "gVOWEL LENGTHENERcMETOSdISSION TICKETScULTbEGEAN CHECK MARKhDRY MEASURE FIRST SUBUNIT",
   "hLIQUID MEASURE FIRST SUBUNIThMEASURE SECOND SUBUNITpTHIRD SUBUNIThNUMBER EIGHTt HUNDRED",
   "uTHOUSANDtYu THOUSANDoFIFTYt THOUSANDqVEs HUNDREDtTHOUSANDpORTYt THOUSANDqURs HUNDREDtTHOUSAND",
   "oNINEs HUNDREDtTHOUSANDsTYu THOUSANDoONEr HUNDREDsTHOUSANDoSEVENt HUNDREDuTHOUSANDtTY",
   "v THOUSANDpIXr HUNDREDsTHOUSANDrTYt THOUSANDoTENr THOUSANDpHIRTYu THOUSANDqREEt HUNDRED",
   "uTHOUSANDpWENTYu THOUSANDqOr HUNDREDsTHOUSANDhWEIGHT BASE UNIToFIRST SUBUNITpOURTH SUBUNIT",
   "oSECOND SUBUNIToTHIRD SUBUNITiORD SEPARATOR DOTwLINEcRIAL TRAMWAYbFGHANI SIGN",
   "bHOM CONSONANT SIGN MEDIAL LAbcIGATING RAbbRAfDIGIT EIGHTlFIVEmOURlNINElONElSEVENmIXlTHREEmWO",
   "lZEROfLETTER AnLTERNATE BAwGAwTAmBAnHAmCAnHAmDAnDAoHAnHAmGAnHAmHAmJAnHAmKAnHAmLAnLAmMAmNAnGA",
   "nNAnYAmPAnHAmRAmSAmTAnHAnTAoHAfNUMBER TENnWENTYfSIGN KILLERkRULAIkSECTIONlMALL SECTION",
   "gYMBOL VIfVOWEL SIGN ArArIrMrWqEqIrIqOqUrUbIRPLANEi ARRIVINGjDEPARTUREbKTIESELSKABbLARM CLOCK",
   "cCHEMICAL SYMBOL FOR AIRxLEMBICyKALIbc-2yUMxMALGAMxNTIMONY ORExQUA REGIAbg-2bbVITAEbg-2",
   "baFORTISxRSENICxSHESxURIPIGMENTwBATH OF MARYbeVAPOURSxISMUTH ORExLACK SULFURxORAXbb-2bc3xRICK",
   "wCADUCEUSyLXyPUT MORTUUMxINNABARxOPPER ANTIMONIATEbdORExROCUS OF COPPERbm-2bgIRONyUCIBLEbe-2",
   "bf3bf4bf5wDAY-NIGHTxISSOLVEbe-2zTILLwEARTHwFIREwGOLDxUMwHALF DRAMbbOUNCExORSE DUNGyURwIRON ORE",
   "be-2ba-COPPER OREwLEAD ORExODESTONEwMARCASITExERCURY SUBLIMATEbn-2bo3xONTHwNIGHTyTREwOIL",
   "wPHILOSOPHERS SULFURxOT ASHESyWDERbcED BRICKxRECIPITATExURIFYyTREFACTIONwQUICK LIMEzNTESSENCE",
   "wREALGARbd-2yGULUSbd OF ANTIMONYbp-2bhIRONbd-2be3be4yTORTxOCK SALTbf-2wSAL-AMMONIACzT",
   "ba OF ANTIMONYbeCOPPER ANTIMONIATExCEPTER OF JOVExILVERxOAPxPIRITxTARRED TRIDENT",
   "yRATUM SUPER STRATUMbr-2xUBLIMATE OF ANTIMONYbjCOPPERbjSALT OF ANTIMONYbrCOPPERbeIONyLFUR",
   "wTARTARbc-2xIN OREzCTURExRIDENTxUTTYwURINEwVERDIGRISxINEGARbd OF ANTIMONYbd-2be3yTRIOLbd-2",
   "wWATERyXcEF SYMBOLdMBICdRTcIEN MONSTERcL AROUND-PROFILEeEQUAL TOcMdOST EQUAL OR EQUAL TOnTO",
   "p WITH CIRCUMFLEX ACCENTcTERNATE ONE-WAY LEFT WAY TRAFFICiIVE KEY SYMBOL",
   "bMALGAMATION OR COPRODUCTcBULANCEcERICAN FOOTBALLcPERSANDdHORAbNATOLIAN HIEROGLYPH A001y2y3y4",
   "y5y6y7y8y9x10zAy1y2y3y4y5y6y7y8y9x20y1y2y3y4y5y6zAy7y8y9x30y1y2y3y4y5y6y7y8y9zAx40y1zAy2y3y4y5",
   "zAy6zAzBy7y8y9x50y1y2y3y4y5y6y7y8y9x60y1y2y3y4y5y6zAzBzCy7y8y9x70y1y2y3y4y5y6y7y8y9x80y1y2y3y4",
   "y5y6y7y8y9x90y1y2y3y4y5y6y7zAy8zAy9w100zAy1zAy2zAy3y4zAzBzCy5zAzBy6y7zAzBzCy8y9x10zAzBy1y2y3y4",
   "y5zAy6y7y8y9x20y1y2y3y4y5zAy6y7y8y9x30y1y2y3y4y5zAy6y7y8y9x40y1y2y3y4y5y6y7y8y9x50y1y2y3y4y5y6",
   "y7y8y9x60y1y2y3y4y5y6y7y8y9x70y1y2y3y4y5y6y7y8y9x80y1y2y3y4y5y6y7y8y9x90y1y2y3y4y5y6y7y8y9w200",
   "y1y2zAzBy3y4y5y6y7zAy8y9zAx10y1y2y3y4y5zAy6zAy7y8y9x20y1y2y3y4y5y6y7zAy8y9x30y1y2y3y4y5y6y7y8",
   "y9x40y1y2y3y4y5y6y7y8y9x50y1y2y3y4y5y6y7y8y9x60y1y2y3y4y5y6y7zAy8y9x70y1y2y3y4y5y6y7y8y9x80y1",
   "y2y3y4y5y6y7y8y9zAx90y1y2y3y4zAy5y6y7y8y9zAw300y1y2y3y4y5y6y7y8y9zAx10y1y2y3y4y5y6y7y8y9x20y1",
   "y2y3y4y5y6y7y8y9zAx30y1y2AzBzCy3y4y5y6zAzBzCy7y8y9x40y1y2y3y4y5y6y7y8y9x50y1y2y3y4y5y6y7y8y9zA",
   "x60y1y2y3y4zAy5y6y7y8zAy9x70y1zAy2y3y4y5y6y7y8y9x80y1zAy2y3 RA OR RIzAy4y5y6zAy7y8y9x90y1y2",
   "y3 EIGHTy4y5y6y7y8y9w400y1y2y3y4y5y6y7y8y9x10 BEGIN LOGOGRAM MARKzA END LOGOGRAM MARKy1y2y3y4",
   "y5y6y7y8y9x20y1y2y3y4y5y6y7y8y9x30y1y2y3y4y5y6y7y8y9x40y1y2y3y4y5y6y7y8y9x50zAy1y2y3y4y5y6y7zA",
   "y8y9x60y1y2y3y4y5y6y7y8y9x70y1y2y3y4y5y6y7y8y9x80y1y2y3y4y5y6y7y8y9x90y1y2y3y4y5y6y7w501y2y3y4",
   "y5y6y7y8y9x10y1y2y3y4y5y6y7y8y9x20y1y2y3y4y5y6y7y8y9x30fMICAL HEARTcCHORcD WITH DOTcGER SYMBOL",
   "dLEf WITH S INSIDElUNDERBARdRY FACEdSTROM SIGNdUISHED FACEcKHcTdENNA WITH BARS",
   "dICLOCKWISE CLOSED CIRCLE ARROWpONTOUR INTEGRALoDOWNWARDS AND UPWARDS OPEN CIRCLE ARROWS",
   "oGAPPED CIRCLE ARROWoINTEGRATIONoOPEN CIRCLE ARROWoTOP SEMICIRCLE ARROW",
   "pRIANGLE-HEADED BOTTOM U-SHAPED ARROWbeLEFT U-SHAPED ARROWbeOPEN CIRCLE ARROW",
   "beRIGHT U-SHAPED ARROWbeTOP U-SHAPED ARROWbPCcL FUNCTIONAL SYMBOL ALPHAbb UNDERBAR",
   "wBACKSLASH BARwCIRCLE BACKSLASHbdDIAERESISbdJOTbdSTARbfILEbdUNDERBARxOMMA BARwDEL DIAERESIS",
   "baSTILEbaTILDEzTA STILEbcUNDERBARxIAMOND UNDERBARxOWN CARET TILDEbbSHOE STILEbbTACK JOT",
   "bgUNDERBARbaWARDS VANEwEPSILON UNDERBARwGREATER-THAN DIAERESISwI-BEAMxOTAba UNDERBAR",
   "wJOT DIAERESISbaUNDERBARwLEFT SHOE STILEbaWARDS VANEwOMEGAbb UNDERBARwQUADba BACKSLASHbbCIRCLE",
   "bcOLONbbDELbeTAbcIAMONDbdVIDEbcOWN CARETbfWARDS ARROWbbEQUALbbGREATER-THANbbJOT",
   "bbLEFTWARDS ARROWbdSS-THANbbNOT EQUALbbQUESTIONbbRIGHTWARDS ARROWbbSLASHbbUP CARET",
   "bdWARDS ARROWyOTE QUADbcUNDERBARwRHOxIGHTWARDS VANEwSEMICOLON UNDERBARxLASH BARxQUISH QUAD",
   "xTAR DIAERESISyILE TILDEwTILDE DIAERESISwUP CARET TILDEzSHOE JOTzTACK DIAERESISbeJOTbeOVERBAR",
   "yWARDS VANEwZILDEcOLLONdSTROPHEcPLICATION PROGRAM COMMANDdROACHES THE LIMIT",
   "fXIMATELY BUT NOT ACTUALLY EQUAL TOoEQUAL OR EQUAL TOuTOw OR THE IMAGE OFbQUARIUS",
   "bRABIC BASELINE ROUND DOThCOMMAiURLY DAMMAsTANnFATHAsTANnKASRAsTANhDAMMAm ISOLATED FORM",
   "nMEDIAL FORMnWITH DOTmTANp ISOLATED FORMjTE SEPARATORiECIMAL SEPARATORiISPUTED END OF AYAH",
   "iOUBLE RIGHT ARROWHEAD ABOVEbj WITH DOTnD MADDAhEMPTY CENTRE HIGH STOPuLOW STOPiND OF AYAH",
   "oTEXT MARKhFATHAm ISOLATED FORMnMEDIAL FORMnWITH DOT ABOVEsRINGsTWO DOTSmTANp ISOLATED FORM",
   "iIVE POINTED STARiOOTNOTE MARKERiULL STOPhHALF MADDA OVER MADDAjMZA ABOVEnBELOWhINVERTED DAMMA",
   "hKASRAm ISOLATED FORMnMEDIAL FORMnWITH DOT BELOWmTANp ISOLATED FORMhLARGE CIRCLE BELOW",
   "nROUND DOT ABOVExBELOWxINSIDE CIRCLE BELOWiEFT ARROWHEAD ABOVEwBELOWjTTER AEpFRICAN FEHwNOON",
   "wQAFz WITH THREE DOTS ABOVEpINr FINAL FORMsINITIAL FORMtSOLATED FORMsMEDIAL FORM",
   "sWITH THREE DOTS ABOVEbiBELOWbiPOINTING DOWNWARDS ABOVEyWO DOTS ABOVEbgVERTICALLY ABOVEpLEF",
   "s FINAL FORMtISOLATED FORMtMAKSURAba FINAL FORMbbISOLATED FORMtWASLAy FINAL FORMzISOLATED FORM",
   "uITH ATTACHED BOTTOM RIGHT KASRAbz AND DOT ABOVEceLEFT RINGbhFATHAbhKASRAbhLEFT HAMZA",
   "bmROUND DOTbhRIGHT HAMZAbnROUND DOTbiOUND DOT ABOVEbrBELOWbhTOP RIGHT FATHAbw AND DOT ABOVE",
   "cbLEFT RINGyDOT ABOVEyEXTENDED ARABIC-INDIC DIGIT THREE ABOVEcbWO ABOVEyHAMZA ABOVE",
   "bj FINAL FORMbkISOLATED FORMbeBELOWbj FINAL FORMbkISOLATED FORMyLEFT MIDDLE STROKEyMADDA ABOVE",
   "bj FINAL FORMbkISOLATED FORMyRIGHT MIDDLE STROKEbr AND DOT ABOVEbwLEFT RINGyWAVY HAMZA ABOVE",
   "bjBELOWoBEEHs FINAL FORMtINITIAL FORMuSOLATED FORMtMEDIAL FORMqHr FINAL FORMsINITIAL FORM",
   "tSOLATED FORMsMEDIAL FORMsWITH DOT BELOW AND THREE DOTS ABOVExHAMZA ABOVE",
   "xINVERTED SMALL V BELOWxSMALL MEEM ABOVEbdVbe BELOWxTHREE DOTS HORIZONTALLY BELOW",
   "biPOINTING UPWARDS BELOWce AND TWO DOTS ABOVEyWO DOTS BELOW AND DOT ABOVErEHt FINAL FORM",
   "uINITIAL FORMvSOLATED FORMuMEDIAL FORMoDADr FINAL FORMsINITIAL FORMtSOLATED FORMsMEDIAL FORM",
   "sWITH DOT BELOWqHALt FINAL FORMuISOLATED FORMqLr FINAL FORMsISOLATED FORMsWITH DOT BELOW",
   "bg AND SMALL TAHxFOUR DOTS ABOVExINVERTED SMALL V BELOWbgVxRINGxTHREE DOTS ABOVE DOWNWARDS",
   "biBELOWyWO DOTS VERTICALLY BELOW AND SMALL TAHpDAHALu FINAL FORMvISOLATED FORMrLs FINAL FORM",
   "tISOLATED FORMpOTLESS BEHwFEHwQAFpULr FINAL FORMsISOLATED FORMpYEHs FINAL FORMtINITIAL FORM",
   "uSOLATED FORMtMEDIAL FORMoEp FINAL FORMqINITIAL FORMrSOLATED FORMqMEDIAL FORMoFARSI YEH",
   "x FINAL FORMyINITIAL FORMzSOLATED FORMyMEDIAL FORMyWITH EXTENDED ARABIC-INDIC DIGIT FOUR BELOW",
   "cfTHREE ABOVEcgWO ABOVEbdINVERTED VbdTHREE DOTS ABOVEbeWO DOTS ABOVEpEHr FINAL FORM",
   "sINITIAL FORMtSOLATED FORMsMEDIAL FORMsWITH DOT BELOWbg AND THREE DOTS ABOVEbbMOVED BELOW",
   "xTHREE DOTS BELOWbiPOINTING UPWARDS BELOWyWO DOTS BELOWoGAFr FINAL FORMsINITIAL FORM",
   "tSOLATED FORMsMEDIAL FORMsWITH INVERTED STROKExRINGxTHREE DOTS ABOVEyWO DOTS BELOWpHAIN",
   "t FINAL FORMuINITIAL FORMvSOLATED FORMuMEDIAL FORMuWITH DOT BELOWzTHREE DOTS ABOVEpRAFpUEH",
   "s FINAL FORMtINITIAL FORMuSOLATED FORMtMEDIAL FORMoHAHr FINAL FORMsINITIAL FORMtSOLATED FORM",
   "sMEDIAL FORMsWITH EXTENDED ARABIC-INDIC DIGIT FOUR BELOWxHAMZA ABOVExINVERTED SMALL V BELOW",
   "xSMALL ARABIC LETTER TAH ABOVEbwND TWO DOTSbvBELOWxTHREE DOTS ABOVEbiPOINTING UPWARDS BELOW",
   "yWO DOTS ABOVEbgVERTICAL ABOVEqMZAt ISOLATED FORMpEHr DOACHASHMEEbd FINAL FORMbeINITIAL FORM",
   "bfSOLATED FORMbeMEDIAL FORMsFINAL FORMsGOALw FINAL FORMxINITIAL FORMySOLATED FORMxMEDIAL FORM",
   "xWITH HAMZA ABOVEsINITIAL FORMtSOLATED FORMsMEDIAL FORMsWITH INVERTED VxYEH ABOVEbg FINAL FORM",
   "bhISOLATED FORMpIGH HAMZAy ALEFzWAWzYEHoJEEMs FINAL FORMtINITIAL FORMuSOLATED FORMtMEDIAL FORM",
   "tWITH THREE DOTS ABOVEbjBELOWzWO DOTS ABOVEqHr FINAL FORMsISOLATED FORMoKAFr FINAL FORM",
   "sINITIAL FORMtSOLATED FORMsMEDIAL FORMsWITH DOT ABOVEbbBELOWxRINGxTHREE DOTS BELOW",
   "yWO DOTS ABOVEqSHMIRI YEHpEHEHt FINAL FORMuINITIAL FORMvSOLATED FORMuMEDIAL FORM",
   "uWITH DOT ABOVEzSMALL VzTHREE DOTS ABOVEbkBELOWbkPOINTING UPWARDS BELOWbaWO DOTS ABOVE",
   "biVERTICALLY BELOWpHAHs FINAL FORMtINITIAL FORMuSOLATED FORMtMEDIAL FORMpIRGHIZ OEy FINAL FORM",
   "zISOLATED FORMwYUy FINAL FORMzISOLATED FORMoLAMr FINAL FORMsINITIAL FORMtSOLATED FORM",
   "sMEDIAL FORMsWITH BARxDOT ABOVEzUBLE BARxSMALL ARABIC LETTER TAH ABOVEbdVxTHREE DOTS ABOVE",
   "biBELOWpOW ALEFoMARKpEEMs FINAL FORMtINITIAL FORMuSOLATED FORMtMEDIAL FORMtWITH DOT ABOVE",
   "bcBELOWyTHREE DOTS ABOVEoNGq FINAL FORMrINITIAL FORMsSOLATED FORMrMEDIAL FORMqOEHt FINAL FORM",
   "uINITIAL FORMvSOLATED FORMuMEDIAL FORMpOONs FINAL FORMtGHUNNAz FINAL FORMbaISOLATED FORM",
   "tINITIAL FORMuSOLATED FORMtMEDIAL FORMtWITH DOT BELOWyINVERTED SMALL VyRINGySMALL TAHbeV",
   "yTHREE DOTS ABOVEzWO DOTS BELOWpYEHs FINAL FORMtINITIAL FORMuSOLATED FORMtMEDIAL FORMoOE",
   "q FINAL FORMrISOLATED FORMoPEHr FINAL FORMsINITIAL FORMtSOLATED FORMsMEDIAL FORM",
   "sWITH SMALL MEEM ABOVEbdVrEHt FINAL FORMuINITIAL FORMvSOLATED FORMuMEDIAL FORMoQAFr FINAL FORM",
   "sINITIAL FORMtSOLATED FORMsMEDIAL FORMsWITH DOT ABOVEbbBELOWbg AND NO DOTS ABOVE",
   "xTHREE DOTS ABOVEoREHr FINAL FORMsISOLATED FORMsWITH DOT BELOWbg AND DOT ABOVExFOUR DOTS ABOVE",
   "xHAMZA ABOVExINVERTED VxLOOPxRINGxSMALL ARABIC LETTER TAH AND TWO DOTSbdNOON ABOVEbdVbe BELOW",
   "yTROKExTWO DOTS ABOVEbgVERTICALLY ABOVEpNOONt FINAL FORMuINITIAL FORMvSOLATED FORMuMEDIAL FORM",
   "pOHINGYA YEHpREHs FINAL FORMtISOLATED FORMoSADr FINAL FORMsINITIAL FORMtSOLATED FORM",
   "sMEDIAL FORMsWITH THREE DOTS ABOVEbiBELOWyWO DOTS BELOWpEENs FINAL FORMtINITIAL FORM",
   "uSOLATED FORMtMEDIAL FORMtWITH DOT BELOW AND DOT ABOVEyEXTENDED ARABIC-INDIC DIGIT FOUR ABOVE",
   "yFOUR DOTS ABOVEyINVERTED VySMALL ARABIC LETTER TAH AND TWO DOTSyTHREE DOTS BELOW",
   "bo AND THREE DOTS ABOVEzWO DOTS VERTICALLY ABOVEpHEENt FINAL FORMuINITIAL FORMvSOLATED FORM",
   "uMEDIAL FORMuWITH DOT BELOWpTRAIGHT WAWpUPERSCRIPT ALEFpWASH KAFoTAHr FINAL FORMsINITIAL FORM",
   "tSOLATED FORMsMEDIAL FORMsWITH DOT BELOWxTHREE DOTS ABOVEbiBELOWyWO DOTS ABOVEpCHEH",
   "t FINAL FORMuINITIAL FORMvSOLATED FORMuMEDIAL FORMuWITH DOT ABOVEzSMALL VtEHv FINAL FORM",
   "wINITIAL FORMxSOLATED FORMwMEDIAL FORMpEHr FINAL FORMsINITIAL FORMtSOLATED FORMsMARBUTA",
   "z FINAL FORMbaGOALbaISOLATED FORMtEDIAL FORMsWITH RINGxSMALL TEH ABOVEbdV",
   "xTHREE DOTS ABOVE DOWNWARDSrEHt FINAL FORMuINITIAL FORMvSOLATED FORMuMEDIAL FORMpHAL",
   "s FINAL FORMtISOLATED FORMqEHs FINAL FORMtINITIAL FORMuSOLATED FORMtMEDIAL FORMqIN YEHpTEH",
   "s FINAL FORMtINITIAL FORMuSOLATED FORMtMEDIAL FORMtWITH SMALL VsEHu FINAL FORMvINITIAL FORM",
   "wSOLATED FORMvMEDIAL FORMoUp FINAL FORMqISOLATED FORMqWITH HAMZA ABOVEbg ISOLATED FORM",
   "pIGHUR KAZAKH KIRGHIZ ALEF MAKSURA INITIAL FORMbxMEDIAL FORMoVEq FINAL FORMrISOLATED FORMqH",
   "r FINAL FORMsINITIAL FORMtSOLATED FORMsMEDIAL FORMoWAWr FINAL FORMsISOLATED FORM",
   "sWITH DOT ABOVEbbWITHINxEXTENDED ARABIC-INDIC DIGIT THREE ABOVEcaWO ABOVExHAMZA ABOVE",
   "bi FINAL FORMbjISOLATED FORMxRINGxTWO DOTS ABOVEoYEHr BARREEy FINAL FORMzISOLATED FORM",
   "zWITH EXTENDED ARABIC-INDIC DIGIT THREE ABOVEchWO ABOVEbeHAMZA ABOVEbp FINAL FORM",
   "bqISOLATED FORMsFINAL FORMsINITIAL FORMtSOLATED FORMsMEDIAL FORMsWITH HAMZA ABOVEbi FINAL FORM",
   "bjINITIAL FORMbkSOLATED FORMbjMEDIAL FORMxSMALL VxTAILyHREE DOTS BELOWyWO DOTS BELOW AND DOT A",
   "BOVEbqHAMZA ABOVEbqSMALL NOON ABOVEpUq FINAL FORMrISOLATED FORMoZAHr FINAL FORMsINITIAL FORM",
   "tSOLATED FORMsMEDIAL FORMqINs FINAL FORMtISOLATED FORMtWITH INVERTED V ABOVE",
   "iIGATURE AIN WITH ALEF MAKSURA FINAL FORMbmISOLATED FORMzJEEM INITIAL FORMbfSOLATED FORM",
   "beWITH MEEM FINAL FORMboINITIAL FORMzMEEM INITIAL FORMbfSOLATED FORMbeWITH ALEF MAKSURA FINAL ",
   "FORMbjMEEM FINAL FORMboINITIAL FORMbjYEH FINAL FORMzYEH FINAL FORMbdISOLATED FORM",
   "rKBAR ISOLATED FORMrLAYHAA AS-SALAAMvE ISOLATED FORMvI AS-SALAAMbfTU WAS-SALAAMwM AS-SALAAM",
   "xAA AS-SALAAMsEF MAKSURA WITH SUPERSCRIPT ALEF FINAL FORMbzISOLATED FORM",
   "vWITH FATHATAN FINAL FORMbjISOLATED FORMsLAH ISOLATED FORMrZZA WA JALLqBEH WITH ALEF MAKSURA F",
   "INAL FORMbmISOLATED FORMzHAH INITIAL FORMbeSOLATED FORMbdWITH YEH FINAL FORMbaEH INITIAL FORM",
   "bdMEDIAL FORMzJEEM INITIAL FORMbfSOLATED FORMzKHAH INITIAL FORMbfSOLATED FORM",
   "beWITH YEH FINAL FORMzMEEM FINAL FORMbeINITIAL FORMbfSOLATED FORMbeMEDIAL FORMzNOON FINAL FORM",
   "zREH FINAL FORMzYEH FINAL FORMbdISOLATED FORMzZAIN FINAL FORMrISMILLAH AR-RAHMAN AR-RAHEEM",
   "qDAD WITH ALEF MAKSURA FINAL FORMbmISOLATED FORMzHAH INITIAL FORMbeSOLATED FORM",
   "bdWITH ALEF MAKSURA FINAL FORMbiYEH FINAL FORMzJEEM INITIAL FORMbfSOLATED FORM",
   "zKHAH INITIAL FORMbfSOLATED FORMbeWITH MEEM FINAL FORMboINITIAL FORMzMEEM INITIAL FORM",
   "bfSOLATED FORMzREH FINAL FORMbdISOLATED FORMzYEH FINAL FORMbdISOLATED FORM",
   "qFEH WITH ALEF MAKSURA FINAL FORMbmISOLATED FORMzHAH INITIAL FORMbeSOLATED FORM",
   "zJEEM INITIAL FORMbfSOLATED FORMzKHAH INITIAL FORMbfSOLATED FORMbeWITH MEEM FINAL FORM",
   "boINITIAL FORMzMEEM INITIAL FORMbfSOLATED FORMbeWITH YEH FINAL FORMzYEH FINAL FORM",
   "bdISOLATED FORMqGHAIN WITH ALEF MAKSURA FINAL FORMboISOLATED FORMbbJEEM INITIAL FORM",
   "bhSOLATED FORMbbMEEM INITIAL FORMbhSOLATED FORMbgWITH ALEF MAKSURA FINAL FORMblMEEM FINAL FORM",
   "blYEH FINAL FORMbbYEH FINAL FORMbfISOLATED FORMqHAH WITH ALEF MAKSURA FINAL FORM",
   "bmISOLATED FORMzJEEM INITIAL FORMbfSOLATED FORMbeWITH YEH FINAL FORMzMEEM INITIAL FORM",
   "bfSOLATED FORMbeWITH ALEF MAKSURA FINAL FORMbjYEH FINAL FORMzYEH FINAL FORMbdISOLATED FORM",
   "rEH WITH ALEF MAKSURA ISOLATED FORMzJEEM INITIAL FORMbfSOLATED FORMzMEEM INITIAL FORM",
   "bfSOLATED FORMbeWITH JEEM INITIAL FORMbjMEEM INITIAL FORMzSUPERSCRIPT ALEF INITIAL FORM",
   "zYEH ISOLATED FORMqJALLAJALALOUHOUrEEM WITH ALEF MAKSURA FINAL FORMbnISOLATED FORM",
   "baHAH INITIAL FORMbfSOLATED FORMbeWITH ALEF MAKSURA FINAL FORMbjYEH FINAL FORM",
   "baMEEM INITIAL FORMbgSOLATED FORMbfWITH ALEF MAKSURA FINAL FORMbkHAH FINAL FORMboINITIAL FORM",
   "bkYEH FINAL FORMbaYEH FINAL FORMbeISOLATED FORMqKAF WITH ALEF FINAL FORMbeISOLATED FORM",
   "beMAKSURA FINAL FORMbmISOLATED FORMzHAH INITIAL FORMbeSOLATED FORMzJEEM INITIAL FORM",
   "bfSOLATED FORMzKHAH INITIAL FORMbfSOLATED FORMzLAM FINAL FORMbdINITIAL FORMbeSOLATED FORM",
   "bdMEDIAL FORMzMEEM FINAL FORMbeINITIAL FORMbfSOLATED FORMbeMEDIAL FORMbeWITH MEEM FINAL FORM",
   "boINITIAL FORMbjYEH FINAL FORMzYEH FINAL FORMbdISOLATED FORMrHAH WITH ALEF MAKSURA FINAL FORM",
   "bnISOLATED FORMbaHAH ISOLATED FORMbaJEEM INITIAL FORMbgSOLATED FORMbaMEEM INITIAL FORM",
   "bgSOLATED FORMbaYEH FINAL FORMbeISOLATED FORMqLAM WITH ALEF FINAL FORMbeISOLATED FORM",
   "beMAKSURA FINAL FORMbmISOLATED FORMbeWITH HAMZA ABOVE FINAL FORMbvISOLATED FORM",
   "bpBELOW FINAL FORMbvISOLATED FORMbjMADDA ABOVE FINAL FORMbvISOLATED FORMzHAH INITIAL FORM",
   "beSOLATED FORMbdWITH ALEF MAKSURA FINAL FORMbiMEEM FINAL FORMbnINITIAL FORMbiYEH FINAL FORM",
   "baEH INITIAL FORMzJEEM INITIAL FORMbfSOLATED FORMbeWITH JEEM FINAL FORMboINITIAL FORM",
   "bjMEEM FINAL FORMboINITIAL FORMbjYEH FINAL FORMzKHAH INITIAL FORMbfSOLATED FORM",
   "beWITH MEEM FINAL FORMboINITIAL FORMzMEEM FINAL FORMbeINITIAL FORMbfSOLATED FORMbeMEDIAL FORM",
   "beWITH HAH FINAL FORMbnINITIAL FORMbjYEH FINAL FORMzYEH FINAL FORMbdISOLATED FORM",
   "qMEEM WITH ALEF FINAL FORMbfMAKSURA ISOLATED FORMbaHAH INITIAL FORMbfSOLATED FORM",
   "beWITH JEEM INITIAL FORMbjMEEM INITIAL FORMbjYEH FINAL FORMbaJEEM INITIAL FORMbgSOLATED FORM",
   "bfWITH HAH INITIAL FORMbkKHAH INITIAL FORMbkMEEM INITIAL FORMbkYEH FINAL FORM",
   "baKHAH INITIAL FORMbgSOLATED FORMbfWITH JEEM INITIAL FORMbkMEEM INITIAL FORMbkYEH FINAL FORM",
   "baMEEM FINAL FORMbfINITIAL FORMbgSOLATED FORMbfWITH YEH FINAL FORMbaYEH ISOLATED FORM",
   "rOHAMMAD ISOLATED FORMqNOON WITH ALEF MAKSURA FINAL FORMbnISOLATED FORMbaHAH INITIAL FORM",
   "bfSOLATED FORMbeWITH ALEF MAKSURA FINAL FORMbjMEEM INITIAL FORMbjYEH FINAL FORM",
   "bbEH INITIAL FORMbeMEDIAL FORMbaJEEM INITIAL FORMbgSOLATED FORMbfWITH ALEF MAKSURA FINAL FORM",
   "bkHAH FINAL FORMboINITIAL FORMbkMEEM FINAL FORMbpINITIAL FORMbkYEH FINAL FORM",
   "baKHAH INITIAL FORMbgSOLATED FORMbaMEEM FINAL FORMbfINITIAL FORMbgSOLATED FORMbfMEDIAL FORM",
   "bfWITH ALEF MAKSURA FINAL FORMbkYEH FINAL FORMbaNOON FINAL FORMbaREH FINAL FORM",
   "baYEH FINAL FORMbeISOLATED FORMbaZAIN FINAL FORMqQAF WITH ALEF MAKSURA FINAL FORM",
   "bmISOLATED FORMzHAH INITIAL FORMbeSOLATED FORMzMEEM INITIAL FORMbfSOLATED FORM",
   "beWITH HAH FINAL FORMbnINITIAL FORMbjMEEM FINAL FORMbjYEH FINAL FORMzYEH FINAL FORM",
   "bdISOLATED FORMsLA USED AS KORANIC STOP SIGN ISOLATED FORMrUDDISA SIRRAHqRADI ALLAAHU ANHbgAA",
   "bgUMbiAAbhNNAsHIMAHU ALLAAHyM ALLAAHsSOUL ISOLATED FORMrEH WITH SUPERSCRIPT ALEF ISOLATED FORM",
   "qSAD WITH ALEF MAKSURA FINAL FORMbmISOLATED FORMzHAH INITIAL FORMbeSOLATED FORM",
   "bdWITH HAH FINAL FORMbmINITIAL FORMbiYEH FINAL FORMzKHAH INITIAL FORMzMEEM INITIAL FORM",
   "bfSOLATED FORMbeWITH MEEM FINAL FORMboINITIAL FORMzREH FINAL FORMbdISOLATED FORM",
   "zYEH FINAL FORMbdISOLATED FORMsLAAMUHU ALAYNAAuM ISOLATED FORMtLA ISOLATED FORM",
   "wUSED AS KORANIC STOP SIGN ISOLATED FORMvLLAAHU ALAYHI WA-AALIHyHOU ALAYHE WASALLAM",
   "zU ALAYHI WAAALIHEE WA-SALLAMrEEN WITH ALEF MAKSURA FINAL FORMbnISOLATED FORM",
   "baHAH INITIAL FORMbfSOLATED FORMbeMEDIAL FORMbeWITH JEEM INITIAL FORMbbEH INITIAL FORM",
   "beMEDIAL FORMbaJEEM INITIAL FORMbgSOLATED FORMbfMEDIAL FORMbfWITH ALEF MAKSURA FINAL FORM",
   "bkHAH INITIAL FORMbaKHAH INITIAL FORMbgSOLATED FORMbfMEDIAL FORMbfWITH ALEF MAKSURA FINAL FORM",
   "bkYEH FINAL FORMbaMEEM INITIAL FORMbgSOLATED FORMbfMEDIAL FORMbfWITH HAH FINAL FORM",
   "boINITIAL FORMbkJEEM INITIAL FORMbkMEEM FINAL FORMbpINITIAL FORMbaREH FINAL FORM",
   "beISOLATED FORMbaYEH FINAL FORMbeISOLATED FORMrHADDA WITH DAMMA ISOLATED FORMbiMEDIAL FORM",
   "bhTAN ISOLATED FORMbcFATHA ISOLATED FORMbiMEDIAL FORMbcKASRA ISOLATED FORMbiMEDIAL FORM",
   "bhTAN ISOLATED FORMbcSUPERSCRIPT ALEF ISOLATED FORMsEEN WITH ALEF MAKSURA FINAL FORM",
   "boISOLATED FORMbbHAH FINAL FORMbfINITIAL FORMbgSOLATED FORMbfMEDIAL FORMbfWITH MEEM FINAL FORM",
   "bpINITIAL FORMbkYEH FINAL FORMbcEH INITIAL FORMbfMEDIAL FORMbbJEEM FINAL FORMbgINITIAL FORM",
   "bhSOLATED FORMbgMEDIAL FORMbgWITH YEH FINAL FORMbbKHAH FINAL FORMbgINITIAL FORMbhSOLATED FORM",
   "bgMEDIAL FORMbbMEEM FINAL FORMbgINITIAL FORMbhSOLATED FORMbgMEDIAL FORMbgWITH KHAH FINAL FORM",
   "bqINITIAL FORMblMEEM FINAL FORMbqINITIAL FORMbbREH FINAL FORMbfISOLATED FORMbbYEH FINAL FORM",
   "bfISOLATED FORMrUBHAANAHU WA TAAALAAqTABAARAKA WA-TAAALAAsH WITH ALEF MAKSURA FINAL FORM",
   "bmISOLATED FORMzHAH INITIAL FORMbeSOLATED FORMzMEEM INITIAL FORMbfSOLATED FORMbeMEDIAL FORM",
   "beWITH HAH FINAL FORMbnINITIAL FORMbjMEEM INITIAL FORMbjYEH FINAL FORMzYEH FINAL FORM",
   "bdISOLATED FORMrEH WITH ALEF MAKSURA FINAL FORMbmISOLATED FORMzHAH INITIAL FORMbeSOLATED FORM",
   "bdWITH JEEM FINAL FORMbnINITIAL FORMbiMEEM INITIAL FORMbaEH INITIAL FORMbdMEDIAL FORM",
   "zJEEM INITIAL FORMbfSOLATED FORMbeWITH ALEF MAKSURA FINAL FORMbjMEEM INITIAL FORM",
   "bjYEH FINAL FORMzKHAH INITIAL FORMbfSOLATED FORMbeWITH ALEF MAKSURA FINAL FORM",
   "bjMEEM INITIAL FORMbjYEH FINAL FORMzMEEM FINAL FORMbeINITIAL FORMbfSOLATED FORMbeMEDIAL FORM",
   "beWITH ALEF MAKSURA FINAL FORMbjHAH INITIAL FORMbjJEEM INITIAL FORMbjKHAH INITIAL FORM",
   "bjYEH FINAL FORMzNOON FINAL FORMzREH FINAL FORMzYEH FINAL FORMbdISOLATED FORMzZAIN FINAL FORM",
   "rHAL WITH SUPERSCRIPT ALEF ISOLATED FORMsEH WITH ALEF MAKSURA FINAL FORMbnISOLATED FORM",
   "baHEH MEDIAL FORMbaJEEM ISOLATED FORMbaMEEM FINAL FORMbfINITIAL FORMbgSOLATED FORM",
   "bfMEDIAL FORMbaNOON FINAL FORMbaREH FINAL FORMbaYEH FINAL FORMbeISOLATED FORMbaZAIN FINAL FORM",
   "qUIGHUR KIRGHIZ YEH WITH HAMZA ABOVE WITH ALEF MAKSURA FINAL FORMcsINITIAL FORMctSOLATED FORM",
   "qWASALLAM ISOLATED FORMqYEH WITH ALEF MAKSURA FINAL FORMbmISOLATED FORMzHAH INITIAL FORM",
   "beSOLATED FORMbdWITH YEH FINAL FORMbbMZA ABOVE WITH AE FINAL FORMbtISOLATED FORM",
   "brLEF FINAL FORMbvISOLATED FORMbvMAKSURA FINAL FORMcdISOLATED FORMbqE FINAL FORMbsINITIAL FORM",
   "btSOLATED FORMbqHAH INITIAL FORMbvSOLATED FORMbrEH INITIAL FORMbuMEDIAL FORM",
   "bqJEEM INITIAL FORMbwSOLATED FORMbqKHAH INITIAL FORMbqMEEM FINAL FORMbvINITIAL FORM",
   "bwSOLATED FORMbvMEDIAL FORMbqNOON FINAL FORMbqOE FINAL FORMbtISOLATED FORMbqREH FINAL FORM",
   "bqU FINAL FORMbsISOLATED FORMbqWAW FINAL FORMbuISOLATED FORMbqYEH FINAL FORMbuISOLATED FORM",
   "brU FINAL FORMbtISOLATED FORMbqZAIN FINAL FORMbaEH INITIAL FORMbdMEDIAL FORMzJEEM INITIAL FORM",
   "bfSOLATED FORMbeWITH YEH FINAL FORMzKHAH INITIAL FORMbfSOLATED FORMzMEEM FINAL FORM",
   "beINITIAL FORMbfSOLATED FORMbeMEDIAL FORMbeWITH MEEM FINAL FORMboINITIAL FORMbjYEH FINAL FORM",
   "zNOON FINAL FORMzREH FINAL FORMzYEH FINAL FORMbdISOLATED FORMzZAIN FINAL FORM",
   "qZAH WITH MEEM INITIAL FORMbfSOLATED FORMbeMEDIAL FORMhMADDA WAAJIBmH ABOVEjRK NOON GHUNNA",
   "mSIDEWAYS NOON GHUNNAjTHEMATICAL AINvLEFuBEHuDADwLvOTLESS BEHbcFEHbcNOONbcQAFwUBLE-STRUCK AIN",
   "biBEHbiDADbkLbiFEHbiGHAINbiHAHbiJEEMbiKHAHbiLAMbiMEEMbiNOONbiQAFbiREHbiSADbjEENbjHEENbiTAHbjEH",
   "bjHALbkEHbiWAWbiYEHbiZAHbkINuFEHuGHAINuHAHuINITIAL AINbcBEHbcDADbcFEHbcGHAINbcHAHbdEHbcJEEM",
   "bcKAFbdHAHbcLAMbcMEEMbcNOONbcQAFbcSADbdEENbdHEENbcTEHbdHEHbcYEHuJEEMuKAFvHAHuLAMvOOPED AIN",
   "bcLEFbbBEHbbDADbdLbbFEHbbGHAINbbHAHbcEHbbJEEMbbKHAHbbLAMbbMEEMbbNOONbbQAFbbREHbbSADbcEENbcHEEN",
   "bbTAHbcEHbcHALbdEHbbWAWbbYEHbbZAHbdINuMEEMuNOONuOPERATOR HAH WITH DALbdMEEM WITH HAH WITH TATW",
   "EELuQAFuREHuSADvEENvHEENvTRETCHED AINbeBEHbeDADbfOTLESS BEHbmFEHbeFEHbeGHAINbeHAHbfEHbeJEEM",
   "beKAFbfHAHbeMEEMbeNOONbeQAFbeSADbfEENbfHEENbeTAHbfEHbfHEHbeYEHbeZAHuTAHwILED AINbbDAD",
   "bcOTLESS NOONbjQAFbbGHAINbbHAHbbJEEMbbKHAHbbLAMbbNOONbbQAFbbSADbcEENbcHEENbbYEHvEHvHALwEHuWAW",
   "uYEHuZAHwINhNUMBER MARK ABOVEoSIGNhOPEN DAMMATANmFATHATANmKASRATANhPERCENT SIGN",
   "iIASTRE MARK ABOVEiLACE OF SAJDAHiOETIC VERSE SIGNjUND MARK ABOVEhQUESTION MARK",
   "hRAISED ROUND DOTjYiEVERSED DAMMAiIGHT ARROWHEAD ABOVEbc WITH DOTxBELOW",
   "iOUNDED HIGH STOP WITH FILLED CENTREhSEMICOLONiHADDAn ISOLATED FORMoMEDIAL FORM",
   "iIGN ALAYHE ASSALLAMmMISRAmRADI ALLAHOU ANHUoHMATULLAH ALAYHEmSAFHAoLLALLAHOU ALAYHE WASSALLAM",
   "oMVAToNAHnINDHI AMPERSANDtPOSTPOSITION MENmTAKHALLUSiMALL DAMMAnFARSI YEHpTHAnHIGH AIN",
   "sDOTLESS HEAD OF KHAHsFARSI YEHtOOTNOTE MARKERsJEEMsLAM ALEFtIGATURE ALEF WITH LAM WITH YEH",
   "bbQAF WITH LAM WITH ALEF MAKSURAbbSAD WITH LAM WITH ALEF MAKSURAsMADDAtEEM INITIAL FORM",
   "ySOLATED FORMsNOONw WITH KASRAsQAFsROUNDED ZEROsSADtEENtIGN SAFHAsTAHtHREE DOTS",
   "sUPRIGHT RECTANGULAR ZEROsWAWtORD AL-JUZyN-NISFyR-RUByS-SAJDAyTH-THALATHAxQIFxSAHzKTAxWAQFA",
   "sYEHv BARREE WITH TWO DOTS BELOWsZAHuINnKASRAnLOW MEEMrNOON WITH KASRArSEENrWAWsORD IMAALA",
   "xSHMAAMwTASHEELnWAWnYEHiTART OF RUB EL HIZBiUBSCRIPT ALEFjKUNm BELOWnISOLATED FORMnMEDIAL FORM",
   "jPERSCRIPT ALEF MOKHASSASiYMBOL DOT ABOVEsBELOWqUBLE VERTICAL BAR BELOWoFOUR DOTS ABOVEyBELOW",
   "oRINGoSMALL TAH ABOVEyBELOWoTHREE DOTS ABOVEzBELOWzPOINTING DOWNWARDS ABOVEbsBELOW",
   "pWO DOTS ABOVExBELOWxVERTICALLY ABOVEbiBELOWoWASLA ABOVEhTAIL FRAGMENTjTWEEL",
   "o WITH FATHATAN ABOVEuOVERSTRUCK HAMZAbfWAWuTWO DOTS BELOWiHOUSANDS SEPARATORiONE LOOP ABOVE",
   "rBELOWmONE DOT ABOVEuBELOWmTWO DOTS ABOVEvBELOWiRIPLE DOT PUNCTUATION MARKiURNED DAMMA BELOW",
   "hVERTICAL TAILiOWEL SIGN DOT BELOWsINVERTED SMALL V ABOVEsSMALL V ABOVEhWAVY HAMZA BELOW",
   "hZWARAKAYg-INDIC CUBE ROOTnDIGIT EIGHTtFIVEuOURtNINEtONEtSEVENuIXtTHREEuWOtZEROnFOURTH ROOT",
   "nPER MILLE SIGNrTEN THOUSAND SIGNcCcIEScMENIAN ABBREVIATION MARKkPOSTROPHEjCAPITAL LETTER AYB",
   "yBENyCAzHAbaEHzOyDAyECHzHzTyFEHyGHADzIMyHOyINIyJAzHEHyKEHbaNyLIWNyMENyNOWyOHyPEHzIWRyRAzEHySEH",
   "zHAyTIWNzOyVEWzOyXEHyYIbaWNyZAzHEkOMMAjDRAM SIGNjEMPHASIS MARKkXCLAMATION MARKjFULL STOP",
   "jHYPHENjMODIFIER LETTER LEFT HALF RINGjQUESTION MARKjSMALL LETTER AYBwBENwCAxHAyEHxOwDAwECHxH",
   "xTwFEHwGHADxIMwHOwINIwJAxHEHwKEHyNwLIWNwMENwNOWwOHwPEHxIWRwRAxEHwSEHxHAwTIWNxOxURNED AYBwVEWxO",
   "wXEHwYIy WITH STROKEyWNwZAxHEqIGATURE ECH YIWNyMEN ECHbcINIbcNOWbcXEHyVEW NOW",
   "cROW POINTING DOWNWARDS THEN CURVING LEFTWARDSbmRIGHTWARDSpRIGHTWARDS THEN CURVING DOWNWARDS",
   "bnSOUTH WESTbnUPWARDSpUPWARDS THEN NORTH WESTfHEAD-SHAPED POINTERcTICULATED LORRYeST PALETTE",
   "bSCENDING NODEdIA SYMBOLcSERTIONcTERISKi OPERATORhMdONISHED FACEdRAEAeONOMICAL SYMBOL FOR URAN",
   "UScYMPTOTICALLY EQUAL TObTHLETIC SHOEcOM SYMBOLbUBERGINEcSTRAL SIGNcTO RICKSHAW",
   "eMATED TELLER MACHINEfOBILEbVESTAN ABBREVIATION MARKiLETTER AqArNrOqErEqNqOpBEqHEpCEpDEqHEpEqE",
   "pFEpGEqGEqHEpHEqMEpIqIpJEpKEpLEpMEpNEqGErVErYEqNEqYEpOqOpPEpREpSEqHErYEqSHEpTEqHEqTEpUqUpVEpXE",
   "qVEqYEpYEqYEpZEqHEcOCADObXEaBABYe ANGELfBOTTLEfCHICKfSYMBOLcCK OF ENVELOPE",
   "fWITH LEFTWARDS ARROW ABOVEe-TILTED SHADOWED WHITE RIGHTWARDS ARROWeSLANTED SOUTH ARROW WITH H",
   "OOKED TAILbfRIZONTAL TAILfPACEdONdTRIAN CAMELcDGERdMINTON RACQUET AND SHUTTLECOCKcGEL",
   "dGAGE CLAIMdUETTE BREADcLINESE ADEG ADEGjCARIK PAMUNGKAHrRERENpSIKIjDIGIT EIGHTpFIVEqOURpNINE",
   "pONEpSEVENqIXpTHREEqWOpZEROjLETTER AIKARArKARAv TEDUNGrRCHAIC JNYArSYURA SASAKqBAs KEMBANGqCA",
   "s LACAqDAs MADUuURDA ALPAPRANAzMAHAPRANAqEF SASAKrKARAqGAs GORAqHAqIKARAv TEDUNGqJAs JERAqKA",
   "s MAHAPRANAsF SASAKrHOT SASAKqLAs LENGAy TEDUNGqMAqNAs RAMBATrGArYAqOKARAv TEDUNGqPAs KAPALqRA",
   "s REPAx TEDUNGqSAs SAGAvPAqTAs LATIKtMURDA MAHAPRANAtTAWArZIR SASAKqUKARAv TEDUNGqVE SASAKqWA",
   "qYAqZAL SASAKjMUSICAL SYMBOL COMBINING BENDEbiENDEPbiGONGbiJEGOGANbiKEMPLIbo WITH JEGOGANbmUL",
   "bo WITH JEGOGANbiTEGEHyDAENGbaINGbaNGbc GEDEbdSURANGzENGbaUNGzINGzONGzUNG",
   "yLEFT-HAND CLOSED PLAKbrUKbiOPEN PANGboINGboUNGyRIGHT-HAND CLOSED TAKbrUKbjOPEN DAGbpUGjPAMADA",
   "p LANTANGmENENGlNTIo LANTANGjSIGN BISAHoCECEKoREREKANoSURANGoULU CANDRAsRICEM",
   "jVOWEL SIGN LA LENGAbc TEDUNGuPEPETz TEDUNGuRA REPAbb TEDUNGuSUKUy ILUTuTALINGba REPAbf TEDUNG",
   "bbTEDUNGvEDUNGuULUx SARIjWINDUdL OF YARNeET SHOESeOONh-SPOKED ASTERISKfT BOLD SCRIPT XjX",
   "k WITH BALLOTrOLD CHECKvSCRIPT XqCHECKqLIGHT XqSCRIPT XqXhSCRIPT XhXcMUM COLON",
   "iMBINING MARK KOQNDONvTUKWENTISjMAgFULL STOPgLETTER AnEEnFAAMAEoEEoOMoUnInKAoENpTpUXoIoOpGHOM",
   "pVUUoPAoUoYEEnLAoEEEEoIoOQoUnMoAoBAApENoEEEEpNoIoOoUnNAoDAAoGApGApKWAENoIoJAEMpEEpUAEoSHAoTEE",
   "pUUoUpAEoYInOnPAoEEpUXoHASE-A FIRIvGBIEE FONwHEUAEGHEUAEbbRAEvKAFAxQwETxUKEUTNDAwPOQwUOQvLAPAQ",
   "wET KUTwOMMAEwUxAEPvMAEKEUPyMzBGBIEEzKPENzVEUXyNYIySIxNSUAExP PIEETwBANYIyQwEUNJOMNDEUQwGBASA",
   "wON NGGEUAETxOMEUTzPUQwVEUAENGAMvNAA MFONxQwDA LEERAEWAyANGGEUAETwENwGANGUxGENxKUE MFONbaNZEUM",
   "wIKAwJAMwKAARAExINDIwSHAyIEEwTAPz MFAAbaNTAAxOQPENwYETxIyT MONGKEUAEQwZA MFONxUN MEUT",
   "vPA LEERAEWAxAMyRAExMSHAExSHAEwETwON MFON PIPAEMBAbkGBIEEzPA NJI PIPAEMBAbmGBIEEwUPvROM",
   "vSEUNYAMwHINDA PA NJIyRAExOQ NSHUT YUMxUENSHUETyMwISAwONJAMxQxTwUUvTEUAENyTEUWENwITA MFON",
   "wU MAEMBAxAEPvU YUQ NAEwNKNOWNvVEEtB FEExUXvGHEUGHENbcUAEMvKAMwEUAEMyPUQyYEUXwIEEMxQvLAANAE",
   "xM NSHUT NYAMwETwOM NTEUMvMAx NJEUAENAbaUQAwBA MAELEEyARAExEURIxIT MBAAKETxUOQwEUQyT NGGEET",
   "wFIYAQxON TEUAEQwONTIEENvNDU NJAAwGGAAMyEU MBUyUOQbb LARGExKINDI MVOPxOMwSENxHUETwTIEE SHEUOQ",
   "wYAEMAExI NTEUMvPARUMwEESHIwITwUNGAAMvSAKEUAEwET TUwHET NJAQyUAEQTUwIEEwUEvTAAMwU MAEMGBIEE",
   "yNSIEEvVEUMvWUAETvYAFU LEERAEWAwEURAEtC BUNGvFUEvGBAYIwHAPyRAEvKAAwEN FATIGUEzLAWxTxUKAQyM",
   "ySEUXzHEUAEPwPARAQwUOP NKAARAExTvLAMxPwIQwUvMA KEUAERIyNSIEExEMBAySIwBAA CABBAGE-TREEbaPICKET",
   "yNYIxEEKEETyRAEyUMzXxIyRIEENyTxUAEMyEwGBASAQwIEEwUAEvNANSANAQxQwDAMyPxEUAEREEzTxIDAxOMBUwGAQ",
   "xGENyUzAEN NYAMzEETzMzONxKAQyUE MAEMBAxOMwJAEMyMxEEEEyUXxUEQwSAxEUAENxHAQxOMxUNyOT NGOMwTAAxEN",
   "yUNGBAxU MBITwYIR MKPARAQ MEUNwZAxEUMvPENwINxRIEENvRUvSETFONxUXwHIQxUEQwUAETvTAASHAEwETxUTEUX",
   "wITA YUEyUAEPvVEUAEPENyXvWANGKUOQwUPvYAAwEUQwU MUOMAExMxWOQtD FAAwEUFEUAETvGHAAxEUAEvKET",
   "xUAETMEUNyMyOT MBUAEyPwUxNxOMxQwWAETwYEEvLEEEExTxUAEPyMwIEEwOQwUMvMwAENJETxLEERIwBAAz SEVENxUO",
   "wEEEExUNyTwFEUAEzTxIEExOyNwGBEUNyIEEyOFUMwONIwUwVOPvNDAMxEEyUXxONwGGAAMbbAEzPyEUXyUOMyWAENxKAP",
   "yEUAEQbaRIyIEEyUNyYEEwIwJAPxEUAEMzTxIyEExUEQwSHEEyUTxIEEPbaTxUMwTEEyUMxUUwUwYAMxETxIxUEvPAPwEE",
   "xUTAEwIPwUQxUTvRAEMwEN MUCHzOLDwIIvSAPxQwEUAEQwHEEyUAEzXxIIxOQxUwOTwUAExExUvTAEwEEEExUAENyNyT",
   "wIwOQwUxOTvWAPwUAENvYAEMMAEwENwUOMyPxWOQtE AvFAxQwEEwOMwU CALLyIyREMEDYxEyTvGBETyUXwHAAMAExET",
   "yUAEzNzXxOMvIvKETxUAEyXwIwOwPEUXwUETxOPxTvLAAMxPxQwEUAEMwOMxONyTxQwUvMAxEyMxPxQwBEEyUMwENwFEUQ",
   "wGBAyENwIxEEwONwUAEwVIvNAxEwDAA MY HOUSEbaSOFTNESSyPxIAQyQxUNwGAxEUREUTxGEEEEzUAEbcT",
   "yUAESHAE NYAMzPzRAExKAzAMIyEUAEMbaXyUMzPxOPyQxUAEbaTwJAEMLIxEEz EPOCHyUXwKOMwSHIEEyUEzOPwTAP",
   "xUMwYI BETWEENzCLEAVERwZAQxUQvOvPA PEOPLEzLURALxAyMwEEMxUTyXwIxEEQyTwOxONwUxAEyQxExMvRAExQwEUX",
   "wIMGBAvSAAwEExTwHEUAEQxIQxOyQwOMwUAENvTAAyQxEN NTEUMxMxQwENxUyAEQwOOyNxQwUAExMyAEvVEExUAEwOM",
   "vWEUXwUExOvYAPwEUAEbaTyMyXwIEExTwOQ COVERzSWIMMINGwUAENxEQxNxQtF EEvFOMvKAwENxTwOwPAwUwYEEvLA",
   "wIwOQvMwAwBAAxENwEEEEwOvNDAAwGGAxKWAENwIwJAEMxUAEwSHAwTEEwUxAEwYIvPEExUXwUAEvREExNxUXwIEExIwU",
   "vSAMBAwEUXwHIIxOxUwIwUUvTAAxEwETvUvVUEQvWAwUEvYAwOQoIoUAEpEnRAEoEEpNpUXoIEEpIoUnSAMBAoEUXoHEUX",
   "pIIpOpUoIoUUnTAApEoENpToInUnWAoUEnYAoOQoUQgNJAEMLIgQUESTION MARKgSEMICOLONcNANAdJOdK",
   "eNOTE WITH DOLLAR SIGNoEURO SIGNoPOUND SIGNoYEN SIGNcR CHARTeOF SOAPdBER POLEcSEBALLdKET",
   "gBALL AND HOOPdSA VAH COMBINING HIGH TONEy-LOW TONEuLOW TONEx-MID TONEuMID TONEkFULL STOP",
   "kLETTER ArBArCErDHIIsOrEsEsNNIrFArGAHsBUrHWAHrIrJOrKAsPAHrMBErOsOrPArSErTOrUsWUrVUrWAtDDArYEIN",
   "sIErZOcTdAK CONSONANT SIGN HvNGgLETTER AnBAnCAnDAnGAnHAnInJAnKARO BAnLAnMApNDAILING HAyNAySA",
   "oBAnNAoDAoGAoORTHERN TAoYAnPApKPAK WAnRAnSAoIMALUNGUN AyGAyHAyLAyMAyPAyRAySAyWAyYAoOUTHERN TA",
   "nUnWAnYAgPANGOLATjONGONANgSIGN TOMPIhYMBOL BINDU JUDULtNA METEKtPANGOLATuINARBORAS",
   "gVOWEL SIGN EsErIrKARO IwOrOrPAKPAK ErUs FOR SIMALUNGUN SAdHeTUBdTERYbEACH WITH UMBRELLA",
   "dMED ASCENDING MUSICAL NOTEShDESCENDING MUSICAL NOTEShEIGHTH NOTEShSIXTEENTH NOTESdNSdR FACE",
   "eDED PERSONdTING HEARTdVERcCAUSEcDcER MUGdTLEcLdLe PEPPERfSYMBOLfWITH CANCELLATION STROKE",
   "eHOP BELLcNGALI ABBREVIATION SIGNjNJIjU LENGTH MARKiCURRENCY DENOMINATOR SIXTEEN",
   "rNUMERATOR FOURbbONEbe LESS THAN THE DENOMINATORbbTHREEbcWOiDIGIT EIGHToFIVEpOURoNINEoONE",
   "oSEVENpIXoTHREEpWOoZEROiGANDA MARKiISSHARiLETTER AqAqIqUpBAqHApCAqHApDAqDArHAqHApEpGAqHApHApI",
   "qIpJAqHApKAqHAsNDA TApLApMApNAqGAqNAqYApOpPAqHApRAr WITH LOWER DIAGONALxMIDDLE DIAGONALqHAqRA",
   "pSAqHAqSApTAqHAqTArHApUqUpVEDIC ANUSVARAqOCALIC LyLxRyRpYAqYAiRUPEE MARKoSIGNiSANDHI MARK",
   "jIGN ANUSVARAoVAGRAHAnCANDRABINDUnNUKTAnVIRAMApSARGAiVOWEL SIGN AAuIuUtEtIuItOtUuUtVOCALIC L",
   "bcLbbRbcRdT ARROW POINTING DOWNWARDS THEN NORTH EASTeO BOXdZENE RINGm WITH CIRCLEcT SYMBOL",
   "dWEENcVERAGE BOXbHAIKSUKI DANDAlIGIT EIGHTqFIVErOURqNINEqONEqSEVENrIXqTHREErWOqZERO",
   "lOUBLE DANDAkGAP FILLER-1v2kHUNDREDS UNIT MARKkLETTER AsAsIsUrBAsHArCAsHArDAsDAtHAsHArErGAsHA",
   "rHArIsIrJAsHArKAsHArLArMArNAsGAsNAsYArOrPAsHArRArSAsHAsSArTAsHAsTAtHArUsUrVAsOCALIC LzRbaRrYA",
   "kNUMBER EIGHTwYrFIFTYtVEsORTYtURrNINEvTYrONErSEVENwTYsIXuTYrTENsHIRTYtREEsWENTYtO",
   "kSIGN ANUSVARAqVAGRAHApCANDRABINDUpVIRAMArSARGAkVOWEL SIGN AAwIwUvEvIwIvOvUwUvVOCALIC LbdRbeR",
   "kWORD SEPARATORbICYCLEgISTcG REVERSE SOLIDUSeSOLIDUScKINIcLLED CAPeIARDScOHAZARD SIGNcRD",
   "dTHDAY CAKEcSONcTCOIN SIGNdING LIPbLACK BOWTIEgCENTRE WHITE STARhHESS BISHOP",
   "s ROTATED NINETY DEGREESbbTWO HUNDRED SEVENTY DEGREESmEQUIHOPPERw ROTATED NINETY DEGREESmKING",
   "q ROTATED NINETY DEGREESzTWO HUNDRED SEVENTY DEGREESnNIGHTs ROTATED FORTY-FIVE DEGREES",
   "bbNINETY DEGREESbbONE HUNDRED THIRTY-FIVE DEGREESbbTHREE HUNDRED FIFTEEN DEGREES",
   "bcWO HUNDRED SEVENTY DEGREESbnTWENTY-FIVE DEGREESs-BISHOPtQUEENtROOKmPAWN",
   "q ROTATED NINETY DEGREESzTWO HUNDRED SEVENTY DEGREESmQUEENr ROTATED NINETY DEGREES",
   "baTWO HUNDRED SEVENTY DEGREESmROOKq ROTATED NINETY DEGREESzTWO HUNDRED SEVENTY DEGREES",
   "mTURNED BISHOPtKINGuNIGHTtPAWNtQUEENtROOKhIRCLEm FOR RECORDnWITH DOWN ARROWsTWO WHITE DOTS",
   "sWHITE DOT RIGHThLUB SUIThROSS ON SHIELDhURVED DOWNWARDS AND LEFTWARDS ARROWbbRIGHTWARDS ARROW",
   "nLEFTWARDS AND DOWNWARDS ARROWbbUPWARDS ARROWnRIGHTWARDS AND DOWNWARDS ARROWbcUPWARDS ARROW",
   "nUPWARDS AND LEFTWARDS ARROWzRIGHTWARDS ARROWgDIAMONDn CENTREDoMINUS WHITE XoON CROSSoSUIT",
   "oWITH DOWN ARROWhOWN POINTING BACKHAND INDEXk-POINTING DOUBLE TRIANGLEuISOSCELES RIGHT TRIANGL",
   "EuSMALL TRIANGLEuTRIANGLEkWARDS EQUILATERAL ARROWHEADhRAUGHTS KINGpMANiOPLETgFLAGiORETTEhOLDER",
   "iUR POINTED STARgHARD SHELL FLOPPY DISKhEARTl SUITiXAGONhORIZONTAL ELLIPSEiURGLASS",
   "gLARGE CIRCLEmSQUAREhEFT LANE MERGElPOINTING BACKHAND INDEXuINDEXk-POINTING DOUBLE TRIANGLE",
   "bj WITH VERTICAL BARuISOSCELES RIGHT TRIANGLEuPOINTERuSMALL TRIANGLEuTRIANGLEkWARDS BULLET",
   "qEQUILATERAL ARROWHEADhOWER LEFT TRIANGLEmRIGHT TRIANGLEiZENGEgMEDIUM DIAMOND",
   "oOWN-POINTING TRIANGLEbj CENTREDnLEFT-POINTING TRIANGLEbj CENTREDoOZENGE",
   "nRIGHT-POINTING TRIANGLEbk CENTREDnSMALL DIAMONDtLOZENGEtSQUAREoQUAREnUP-POINTING TRIANGLE",
   "bh CENTREDhOON LILITHgNIBgOCTAGONgPARALLELOGRAMhENNANTjTAGONhUSHPINgQUESTION MARK ORNAMENT",
   "gRECTANGLEhIGHT POINTING BACKHAND INDEXvINDEXl-POINTING DOUBLE TRIANGLEbk WITH VERTICAL BAR",
   "vISOSCELES RIGHT TRIANGLEvPENTAGONwOINTERvSMALL TRIANGLEvTRIANGLEbd WITH DOUBLE VERTICAL BAR",
   "lWARDS ARROWwHEADrBULLETrEQUILATERAL ARROWHEADhOSETTEgSAFETY SCISSORShCISSORShHOGI PIECE",
   "hKULL AND CROSSBONEShLIGHTLY SMALL CIRCLEvSQUAREhMALL DIAMONDmLOZENGEmSQUAREnTARiILING FACE",
   "hNOWMANhPADE SUIThQUAREm BUTTONnCENTREDnFOR STOPhTARhUN WITH RAYSgTELEPHONEhINY DIAMOND",
   "lLOZENGElSQUAREhOUCHTONE TELEPHONEhRUCKhWO-WAY LEFT WAY TRAFFICgUNIVERSAL RECYCLING SYMBOL",
   "hP POINTING BACKHAND INDEXi-POINTING DOUBLE TRIANGLEsISOSCELES RIGHT TRIANGLEsSMALL TRIANGLE",
   "sTRIANGLEiPER LEFT TRIANGLEmRIGHT TRIANGLEiWARDS EQUILATERAL ARROWHEADgVERTICAL ELLIPSE",
   "pRECTANGLEjY SMALL DIAMONDrLOZENGErSQUAREf-FEATHERED NORTH EAST ARROWqRIGHTWARDS ARROW",
   "qSOUTH EAST ARROWgLETTER CAPITAL CvHvIvRvZdNK SYMBOLcOCK SEXTANT-1p2q3r4s5s6r5s6r6q4r5s6r6q5r6",
   "q6p3q4r5s6r6q56q6p4q5r6q6p5q6p6o2p3q4r5s6r6q5r6q6p4q5r6p5q6p6o3p4q5r6q6p5q6p6o4p5q6p6o5p6o6",
   "dSSOMdWFISHcUE BOOKfHEARTeBERRIESbOARcLD EIGHT SPOKED ASTERISKfFIVE SPOKED ASTERISK",
   "fGREEK CROSSfSALTIREgIX SPOKED ASTERISKfWHITE CIRCLElSQUAREcMdBcNEcOKeMARKi TABSeSdMERANG",
   "cPOMOFO FINAL LETTER GwHwKwPwTjLETTER ArHrIsNNrMrNsGsNrUsNNqBrUqCrHqDqErErHrIrNsGsNrRqFqGrHrN",
   "rUrWqHqIrHrMrNNtNrRrUqJrIqKrWqLrHqMqNrGsGrNqOr WITH DOT ABOVErErMrNGsNrOrUqPqQqRqSrHqTqUrNNqV",
   "qXqZrHrIrYcTTLE WITH POPPING CORKeOM ARC ANTICLOCKWISE ARROWhCURLY BRACKEThHALF BLACK CIRCLE",
   "mINTEGRALmLEFT PARENTHESISmRIGHT PARENTHESIShLEFT CORNERnROPmHALF BRACKEThPARENTHESIS",
   "hRIGHT CORNERoROPnHALF BRACKEThSQUARE BRACKETv OVER TOP SQUARE BRACKEThTORTOISE SHELL BRACKET",
   "cUQUETh OF FLOWERScW AND ARROWdL OF HYGIEIAfWITH SPOONeINGdTIEg WITH LEFT HALF BLACK",
   "mRIGHT HALF BLACKcX DRAWINGS DOUBLE DOWN AND HORIZONTALbdLEFTbdRIGHTuHORIZONTAL",
   "uUP AND HORIZONTALbbLEFTbbRIGHTuVERTICALbc AND HORIZONTALbhLEFTbhRIGHTpWN DOUBLE AND HORIZONTA",
   "L SINGLEbdLEFT SINGLEbdRIGHT SINGLEsHEAVY AND HORIZONTAL LIGHTbcLEFT LIGHTbhUP LIGHT",
   "bcRIGHT LIGHTbiUP LIGHTbcUP HORIZONTAL LIGHTsLIGHT AND HORIZONTAL HEAVYbcLEFT HEAVYbhUP HEAVY",
   "bcRIGHT HEAVYbiUP HEAVYbcUP HORIZONTAL HEAVYsSINGLE AND HORIZONTAL DOUBLEbdLEFT DOUBLE",
   "bdRIGHT DOUBLEnHEAVY DOUBLE DASH HORIZONTALbfVERTICALvWNx AND HORIZONTALbcLEFTbcRIGHT",
   "tHORIZONTALtLEFTx AND LIGHT RIGHTtQUADRUPLE DASH HORIZONTALbiVERTICALtRIGHT",
   "tTRIPLE DASH HORIZONTALbfVERTICALtUPv AND HORIZONTALbaLEFTbbIGHT DOWNbaRIGHTtVERTICAL",
   "bb AND HORIZONTALbgLEFTbgRIGHTnLEFT DOWN HEAVY AND RIGHT UP LIGHTsHEAVY AND RIGHT DOWN LIGHT",
   "biUP LIGHTbiVERTICAL LIGHTsLIGHT AND RIGHT DOWN HEAVYbiUP HEAVYbiVERTICAL HEAVY",
   "sUP HEAVY AND RIGHT DOWN LIGHToIGHT ARC DOWN AND LEFTbgRIGHTxUP AND LEFTbeRIGHTtDIAGONAL CROSS",
   "bcDIAMONDbcMIDDLE LEFT TO LOWER CENTREcd TO MIDDLE RIGHTbrUPPER CENTRE TO MIDDLE RIGHT",
   "ct TO LOWER CENTREbjRIGHT TO LOWER CENTREbsUPPER CENTRE TO MIDDLE LEFT TO LOWER CENTRE",
   "bcUPPER CENTRE TO MIDDLE LEFTcd AND MIDDLE RIGHT TO LOWER CENTREceTO LOWER CENTRE",
   "ct TO MIDDLE RIGHTbzRIGHTce AND MIDDLE LEFT TO LOWER CENTREcfTO LOWER CENTREcu TO MIDDLE LEFT",
   "biLEFT TO LOWER RIGHTbiRIGHT TO LOWER LEFTuOUBLE DASH HORIZONTALbfVERTICALvWNx AND HORIZONTAL",
   "bcLEFTbcRIGHTtHORIZONTALbd WITH VERTICAL STROKEtLEFTx AND HEAVY RIGHTtQUADRUPLE DASH HORIZONTA",
   "LbiVERTICALtRIGHTtTRIPLE DASH HORIZONTALbfVERTICALtUPv AND HEAVY DOWNbbORIZONTALbaLEFTbaRIGHT",
   "tVERTICALbb AND HORIZONTALbgLEFTbgRIGHTnRIGHT DOWN HEAVY AND LEFT UP LIGHT",
   "tHEAVY AND LEFT DOWN LIGHTbiUP LIGHTbiVERTICAL LIGHTtLIGHT AND LEFT DOWN HEAVYbiUP HEAVY",
   "biVERTICAL HEAVYtUP HEAVY AND LEFT DOWN LIGHTnUP DOUBLE AND HORIZONTAL SINGLEbbLEFT SINGLE",
   "bbRIGHT SINGLEqHEAVY AND DOWN HORIZONTAL LIGHTbaHORIZONTAL LIGHTbaLEFT DOWN LIGHTbfLIGHT",
   "baRIGHT DOWN LIGHTbgLIGHTqLIGHT AND DOWN HORIZONTAL HEAVYbaHORIZONTAL HEAVYbaLEFT DOWN HEAVY",
   "bfHEAVYbaRIGHT DOWN HEAVYbgHEAVYqSINGLE AND HORIZONTAL DOUBLEbbLEFT DOUBLEbbRIGHT DOUBLE",
   "nVERTICAL DOUBLE AND HORIZONTAL SINGLEbhLEFT SINGLEbhRIGHT SINGLEwHEAVY AND HORIZONTAL LIGHT",
   "bgLEFT LIGHTbgRIGHT LIGHTwLIGHT AND HORIZONTAL HEAVYbgLEFT HEAVYbgRIGHT HEAVY",
   "wSINGLE AND HORIZONTAL DOUBLEbhLEFT DOUBLEbhRIGHT DOUBLEdING GLOVEcYdS SYMBOLbPHbRAHMI DANDA",
   "iIGIT EIGHTnFIVEoOURnNINEnONEnSEVENoIXnTHREEoWOnZEROiOUBLE DANDAhLETTER ApApIpUoBApHAoCApHAoDA",
   "pDAqHApHAoEoGApHAoHAoIpIoJApHAoKApHAoLApLAoMAoNApGApNApYAoOpLD TAMIL LLAbaLAyNNNAyRRAySHORT E",
   "beOoPApHAoRAoSApHApSAoTApHApTAqHAoUpUoVApOCALIC LxLwRxRoYAhNUMBER EIGHTtYoFIFTYqVEpORTYqUR",
   "oJOINERoNINEsTYoONEr HUNDREDsTHOUSANDoSEVENtTYpIXrTYoTENpHIRTYqREEpWENTYqO",
   "hPUNCTUATION CRESCENT BARtDOTvUBLE DOTtLINEuOTUShSIGN ANUSVARAmCANDRABINDUmJIHVAMULIYA",
   "mOLD TAMIL VIRAMAmUPADHMANIYAmVISARGAhVIRAMAiOWEL SIGN AAtItUsBHATTIPROLU AAsEsItIsO",
   "tLD TAMIL SHORT EbiOsUtUsVOCALIC LbbLbaRbbRdILLE PATTERN BLANKqDOTS-1w2x3y4z5ba6bb7bc8bb8ba7",
   "bb8ba8z6ba7bb8ba8z7ba8z8y5z6ba7bb8ba8z7ba8z8y6z7ba8z8y7z8y8x4y5z6ba7bb8ba8z7ba8z8y6z7ba8z8y7z8",
   "y8x5y6z7ba8z8y7z8y8x6y7z8y8x7y8x8w3x4y5z6ba7bb8ba8z7ba8z8y6z7ba8z8y7z8y8x5y6z7ba8z8y7z8y8x6y7",
   "z8y8x7y8x8w4x5y6z7ba8z8y7z8y8x6y7z8y8x7y8x8w5x6y7z8y8x7y8x8w6x7y8x8w7x8w8v2w3x4y5z6ba7bb8ba8z7",
   "ba8z8y6z7ba8z8y7z8y8x5y6z7ba8z8y7z8y8x6y7z8y8x7y8x8w4x5y6z7ba8z8y7z8y8x6y7z8y8x7y8x8w5x6y7z8y8",
   "x7y8x8w6x7y8x8w7x8w8v3w4x5y6z7ba8z8y7z8y8x6y7z8y8x7y8x8w5x6y7z8y8x7y8x8w6x7y8x8w7x8w8v4w5x6y7",
   "z8y8x7y8x8w6x7y8x8w7x8w8v5w6x7y8x8w7x8w8v6w7x8w8v7w8v8eNcEADeK PERMITTED HEREeST-FEEDINGdVE",
   "cICKdDE WITH VEILeGE AT NIGHTdEFCASEfScOCCOLIdKEN BARhCIRCLE WITH NORTHWEST ARROWhHEARTdOM",
   "dWN HEARTbSbUBBLE TEAgScCKETcGdINESE END OF SECTIONjLETTER AqBAqCAqDAqGAqHAqJAqKAqLAqMArPAqNA",
   "rGAsKArRArYAsCAqPAqRAqSAqTAqVAqYAjPALLAWAjVOWEL SIGN AEuEuIuOuUcHID LETTER AnBAnDAnGAnHAnInKA",
   "nLAnMAnNAoGAnPAnRAnSAnTAnUnWAnYAgVOWEL SIGN IrUcILDING CONSTRUCTIONcLLETg OPERATOReHORN",
   "i WITH SOUND WAVESeSEYEcRRITOcSd STOPdT IN SILHOUETTEeS IN SILHOUETTEcTTERgFLYbYTE ORDER MARK",
   "cZANTINE MUSICAL SYMBOL AGOGI ARGIbiOTERIbfGORGIbjOTERIbfMESIbhTRIAbfPOLI ARGIbkGORGI",
   "baNATRICHISMAbbTIKENOKYLISMAbhMAbaPESO EKFONITIKONbgXO NEObbLIbbODERMA ARCHAIONbiNEO",
   "bcSTROFOI SYNDESMOS NEObkTELOUS ICHIMATOSbiSbj DIPLIbkNEObcTHEMAbaRGONbdSYNTHETONbbKTIKO DI",
   "bhGAbhKEbhNIbhPAbhVOUbhZOzCHAMILIbfONbbOREVMA ARCHAIONbiNEObbROA KLITONbfSPATHIbfZYGOSzDASEIA",
   "baIARGONbcSTOLI APLI MEGALIboIKRIbiDIPLIbiTHESEOSbbESIS APLI DYO DODEKATA",
   "bgDIGRAMMOS EX DODEKATAbgMONOGRAMMOS TESSERA DODEKATAbgTETARTIMORIONbhRIGRAMMOS OKTO DODEKATA",
   "bjTIMORIONbbFTOGGOS OUbbGORGONbh PARESTIGMENON ARISTERA ANOcfKATObwDEXIAbcRAMMA GGbbPLI",
   "be ARCHAIONbaYOzEKSTREPTONbaLAFRONbaNARXIS KAI FTHORA VOUbbDOFONONbaPEGERMA",
   "baTERON ARGOSYNTHETONbgPARAKALESMAbaXO EKFONITIKONzFANEROSIS DIFONIASbjMONOFONIASbjTETRAFONIAS",
   "baHTORA SKLIRON CHROMA VASISbaTHORA ARCHAIONbo DEYTEROU ICHOUbgDIATONIKI DIbqKEbqNANAbrI ANO",
   "btKATObqPAbqZObgENARMONIOS ANTIFONIAbgI YFESIS TETARTIMORIONbgMALAKON CHROMA DIFONIAS",
   "bvMONOFONIASbgNAOS ICHOSbhENANObgSKLIRON CHROMA SYNAFIbvVASISboDIATONON DIzGENIKI DIESIS",
   "bgYFESISbaORGON ARCHAIONbgNEO ANObkKATObgPARESTIGMENON ARISTERAbuDEXIAbeSYNTHETON",
   "bcTHMIKON N APLOUNbmDIPLOUNbaRONTHISMATAzICHADINbaMIDIARGONbcFONONbdTHORAbhON",
   "baSAKIA TELOUS ICHIMATOSbbON ARCHAIONbeNEOzKATAVA TROMIKONbfSMAbcHISTIbaENTIMA ARCHAION",
   "bhNEO ANOblKATOblMESObgTAbi ARCHAIONbjNEO ANObnKATObnMESObaLASMAbf ANObgKATObaONTEVMAbh ALLO",
   "bbRONISbbUFISMAbaRATIMA ALLObiRCHAIONbhNEObgTAbfOKOUFISMAbgYPORROONbbEMASTIbaYLISMA",
   "zLEIMMA DYO CHRONONbgENOS CHRONOUbgIMISEOS CHRONOUbgTESSARON CHRONONbhRION CHRONONbbMOI",
   "baYGISMAzMARTYRIA ALLI DEYTEROS ICHOSbnPROTOS ICHOSbiDEYTEROS ICHOSbiLEGETOS ICHOS",
   "biPLAGIOS ICHOSbqTETARTOS ICHOSbjROTOS ICHOSbnVARYS ICHOSbiTETARTOS ICHOSbrLEGETOS ICHOS",
   "bjRIFONIASblTOS ICHOSbiVARYS ICHOSbaIKRON ISONzNANAzOLIGON ARCHAIONbgNEObaMALONbaXEIA DIPLI",
   "bfEKFONITIKONbfNEObeI ARCHAIONbaYRANISMA ARCHAIONbjNEOzPARAKALESMA ARCHAIONblNEObeLITIKI",
   "bk ARCHAIONblNEObcICHONbaELASTONbh NEObbRISPOMENIbbTASMAbeTIbfOKOUFISMAbaIASMA ARCHAIONbgNEO",
   "baSIFISTOLYGISMAbhNbi NEObhPARAKALESMAbhSYNAGMAbcLIbdONzRAPISMAbaEVMAzSAXIMATAbaEISMAbf NEO",
   "baIMANSIS ARSEOSbo DISIMOUbpTETRASIMOUbqRISIMOUbiTHESEOSbp DISIMOUbqTETRASIMOUbrRISIMOU",
   "baTAVROSbg APODEXIAbbIGMAbbRAGGISMATAbaYNAGMA ARCHAIONbhMETA STAVROUbhNEObcEVMAbbRMAbeTIKI",
   "zTELEIAbbSSERAbbTRAPLIbaHEMAbe APLOUNbeTISMOS ESObmXObcS KAI APOTHESbbITAbaINAGMAbaRIAbcGORGON",
   "bcPLIbbOMIKOLYGISMAbgN ALLObjRCHAIONbiNEObgPARAKALESMAbhSIFISTONbgSYNAGMAzVAREIA DIPLI",
   "bgEKFONITIKONbgNEObfI ARCHAIONbbTHYzXIRON KLASMAzYFEN ANObeKATObcSIS APLI DYO DODEKATA",
   "bgDIGRAMMOS EX DODEKATAbgMONOGRAMMOS TESSERA DODEKATAbgTRIGRAMMOS OKTO DODEKATAbjTIMORION",
   "baPOKRISISbi DIPLIbcRROIbbSILIaCACTUScDA UNAdUCEUScLENDARdL ME HANDcMERAg WITH FLASHdPINGcN",
   "dADIAN SYLLABICS AuAvIvYuIvVILIK BuNuTHAPASCAN MbeSuYtBEAVER DENE LbfRuIBLE-CREE YuLACKFOOT A",
   "bdEbdIbdKAbeEbeIbeObdNAbeEbeIbeObdObdSbdWbeAbeEbeIbeOtCuAvAwIvRRIER CHAbdEbeEbdIbdObdUbbDEE",
   "bdNE GEEbeTAL SbcIbcLAbdEbeEbdIbdObdUbcZAbdEbeEbdIbdObdUbbEEbbGAbdAbcEbdEbcHAbdEbeEbdIbdObdU",
   "bcIbcObcUbcWAbdUbbHbcEEbcIbcWAbdEbeEbdIbdObdUbbIbcNITIAL ZbbJAbcEbdEbcIbcJAbdEbeEbdIbdObdUbcO",
   "bcUbcWAbbKHAbdEbeEbdIbdObdUbcKbdAbdEbeEbdIbdObdUbbLAbcEbdEbcHAbdEbeEbdIbdObdUbcIbcObcUbbMAbcE",
   "bdEbcIbcObcUbbNAbcEbdEbcGbcIbcObcUbbPbcAbcEbdEbcIbcObcUbbRAbcEbdEbcIbcObcUbbSAbcEbdEbcHbdAbdE",
   "beEbdIbdObdUbcIbcObcUbbTHAbdEbeEbdIbdObdUbcLAbdEbeEbdHAbeEbfEbeIbeObeUbdIbdObdUbcSAbdEbeEbdI",
   "bdObdUbcTAbdEbeEbdIbdObdSAbeEbfEbeIbeObeUbdUbbWAbcEbdEbcIbcObcUbbYAbcEbdEbcIbcObcUbbZbcAbcEbdE",
   "bcIbcObcUuEuHI SIGNuIvIuOvOuWAwAvEvIwIvOwOtEuASTERN WuNtFuAvAwIuEuIvIvNAL ACUTE",
   "zBOTTOM HALF RINGzDOUBLE ACUTEbgSHORT VERTICAL STROKESbbWN TACKzGRAVEzMIDDLE DOTzPLUS",
   "zRAISED DOTbaIGHT HALF RINGbbNGzSHORT HORIZONTAL STROKEbaMALL RINGzTOP HALF RINGuOvOuULL STOP",
   "uWAAtGLOTTAL STOPtHKuYPHENtIuIuNtKuAvAwIvYuEuIvIuOvOuWvAwAwYvEvIwIvOwOtLuAvAwIvYuEuHvAwAvIwIvO",
   "wOuIvIuOvOuWAwAvEvIwIvOwOtMuAvAwIvYuEvDIAL LbaRuHuIvIuOvOwSE-CREE SKuWAwAvEvIwIvOwOtN",
   "u-CREE THEbcIbdIuAvAwIvSKAPI CWAAbbKWAAbbMWAAbbNWAAbbS-WbcCWAbcKWbeAbcPWAbcTWAbcWAAbbTWAAbbWAA",
   "bcOObbYWAAvTTILIK HAbeAbdIbeIbdObeObcSHRAbgAbfIbgIbfObgOvYuEuGvAwAxIwIvIwIvOwOuHuIvIuNGwAxAwI",
   "xIwOxOuOvOvYuUNAVIK HbcAbdAbcEbcIbdIbcObdOyUT HuWAwAvEvIwIvOwOtOuJIBWAY CbbKbbMbbNbcWIbeIbdO",
   "beObbPbbSbcHbbTuNuOuYtPuAvAwIvYuEuIvIuOvOvYuWAwAvEvIwIvOwOwYtQuAvAwIvIuIvIuOvOtRu-CREE REbbWE",
   "uAvAwIvYuEuIvIuOvOuWAwAvEEvIwIvOwOtSuAvAwIvYwISI HAbbEbbIbbObcObaJIbbUbcUbaMbaSHAbcEbcIbcObdO",
   "bcWEbaTHbaYIuEuHvAwAwYvEvIwIvOwOwYvWAxAwEwIxIwOxOxYuIvIuOvOvUTH-SLAVEY KAHbhEHbhIHbhOHvYuPAvE",
   "vIvOuWvAwAvEvIwIvOwOtTuAvAwIvYuEuHv-CREE THbdAbeAbdEbdIbeIbdObeOvAwAvEvIwIvOwOvWAxAwEuIvIuLHA",
   "wEwIwOxOwWEuOvOuTAvEvHwAxAwEwIwOxOwWEvIvOuWAwAvEvIwIvOwOuYAvEvIvOtWAvAvYuEvST-CREE CWAbgAbfE",
   "bfIbgIbfObgObdFWAAbdKWAbgAbfEbfIbgIbfObgObdLbeAbfAbeEbeObfObeWAbgAbfEbfIbgIbfObgObdMbeWAbgAbfE",
   "bfIbgIbfObgObdNWAbgAbfEbdPbeWAbgAbfEbfIbgIbfObgObdRbeAbeEbeIbeObeWAAbdSHWAbhAbgEbgIbhIbgObhO",
   "beWAbgAbfEbfIbgIbfObgObdTHWAAbeWAbgAbfEbfIbgIbfObgObdWAbfAbeEbeIbfIbeObfObdYbeWAbgAbfEbfIbgI",
   "bfObgOxERN WuIvIuOvOwDS-CREE FINAL THbeTHbgAbgEbgIbgObgWAbiAbhEEbhIbiIbhObiOtYu-CREE COObaKOO",
   "baLOObaMOObaNOObaOObaPOObbWAAbaSOObaTOObaWbaYOOuAvAwIvYuEuIvIuOvOvYuWAwAvEvIwIvOwOdCEL",
   "g CHARACTERhTAGgLATION XfRdDLEeYdNED FOODdOEcPITULUMdRICORNcR SLIDINGdD FILE BOXfINDEX",
   "k DIVIDERSdE OFeTf INSERTION POINTdIAN LETTER Ap2oBoC-18q39oDp2oEp2oGp2oIpIoKp2oLpDq2oMpBq2q3",
   "q4oNpDpGpNoOoPp2oQoRpRoSpHq2pSpTq2oTpTq2oUpUqUr2r3rUoXdONeUSEL HORSEdP STREAMEReENTRY SAW",
   "dRIAGE RETURNeOTcSTLEcTd FACEi WITH TEARS OF JOYoWRY SMILEcUCASIAN ALBANIAN CITATION MARK",
   "tLETTER ALTbbORbaBETbaCARbcYNbbHAbdTbcIbcOYbbYAWbdYbaDATbbYANbbZAYbcYAYbaEBbbYNbaFAMbaGHEYS",
   "bbIMbaHEYTbaINYAbbRBbbWNbaJAYNbbHOXbaKARbbIWbaLANbbYITbaMAQbaNOWCbaONbaPENbbIWRbaQARbcYbaRAT",
   "baSEYKbbHAbdKbcOYbaTASbbIWRbbYAYbaVEYZbaXEYNbaYAYDbbOWDbaZARLbbHAbcILdTION SIGNbCHbEDI SIGN",
   "eLLAcLTIC CROSScNT SIGNeRE LINE SYMBOLgLINE LOW LINElOVERLINEcRESbGJbHAINSeRdKMA AU MARKhDANDA",
   "iIGIT EIGHTnFIVEoOURnNINEnONEnSEVENoIXnTHREEoWOnZEROiOUBLE DANDAhLETTER AAoBAApHAAoCAApHAAoDAA",
   "pDAAqHAApHAAoEoGAApHAAoHAAoIoJAApHAAoKAApHAAoLAApHAAoMAAoNAApGAApNAApYAAoPAApHAAoRAAoSAAoTAA",
   "pHAApTAAqHAAoUoVAAoWAAoYAApYAAhMAAYYAAhO MARKhQUESTION MARKhSECTION MARKiIGN ANUSVARA",
   "mCANDRABINDUmVISARGAhVIRAMAiOWEL SIGN AtAtItUsEtIsItIsOtIsUtUdM CONSONANT SIGN FINAL HbaMbaNG",
   "uLAuRAuWAuYAfDIGIT EIGHTlFIVEmOURlNINElONElSEVENmIXlTHREEmWOlZEROfLETTER AnImBAnBAnHAmCHAoHA",
   "mDAnDAnHAmEmFINAL CHsGsKsLsNtGsPsRsSSsTsYmGAnHAmHAmImJAnHAmKAnHAmLAmMAnUEmNAnGAoUEnHAoJAoUEnUE",
   "mOmPAnHAnPAmRAmSAnSAmTAnHAmUmVAmYAfPUNCTUATION DANDAsOUBLE DANDArSPIRALrTRIPLE DANDA",
   "fVOWEL SIGN AArIrUqEIqIrIqOrEqUrEdRACTER TABULATIONu SETvWITH JUSTIFICATIONlIE",
   "eT WITH DOWNWARDS TRENDlUPWARDS TRENDy AND YEN SIGNcECK MARKfER BOARDn FILLdERING MEGAPHONE",
   "eSE WEDGEdQUERED FLAGdROKEE LETTER AqDArErIrLArOrUrVqEqGArErIrOrUrVqHArErIrNArOrUrVqIqKAqLArE",
   "rIrOrUrVqMArErIrOrUrVqNAsHrErIrOrUrVqOqQUAsEsIsOsUsVqSrArErIrOrUrVqTArErIrLAsEsIsOsUsVrSAsEsI",
   "sOsUsVqUqVqWArErIrOrUrVqYArErIrOrUrVjSMALL LETTER AwDAxExIxLAxOxUxVwEwGAxExIxOxUxVwHAxExIxNAxO",
   "xUxVwIwKAwLAxExIxOxUxVwMAxExIxOxUxVwNAyHxExIxOxUxVwOwQUAyEyIyOyUyVwSxAxExIxOxUxVwTAxExIxLAyEyI",
   "yOyUyVxSAyEyIyOyUyVwUwVwWAxExIxOxUxVwYAxExIxOxUxVeRIESfY BLOSSOMdSTNUTcI RHOdCKENdLD",
   "fREN CROSSINGdPMUNKdRONcOCOLATE BARdPSTICKSdRASMIAN LETTER ALEPHtYINsBETHsCURLED WAWsDALETH",
   "sGIMELsHEuTHsKAPHsLAMEDHsMEMsNUNsPEsRESHsSAMEKHtHINtMALL ALEPHsTAWsWAWsYODHsZAYINlNUMBER FOUR",
   "sONEv HUNDREDsTENtHREEtWENTYuOcRISTMAS TREEcURCHbINEMAcRCLE DIVIDED BY HORIZONTAL BAR AND TOP ",
   "HALF DIVIDED BY VERTICAL BARhWITH ALL BUT UPPER LEFT QUADRANT BLACKmHORIZONTAL BAR",
   "mLEFT HALF BLACKnOWER HALF BLACKmRIGHT HALF BLACKmSMALL CIRCLE TO THE RIGHTnUPERIMPOSED X",
   "mTWO HORIZONTAL STROKES TO THE RIGHTmUPPER HALF BLACKsRIGHT QUADRANT BLACKmVERTICAL FILL",
   "gD ANTICLOCKWISE ARROWv-ROTATED DIVISION SIGNjSTERISK OPERATORiBOLD XjULLET",
   "iC WITH OVERLAID BACKSLASHjCjDjROSS FORMEEu WITH FOUR DOTSbaTWO DOTSoPOMMEEnING LANESiDASH",
   "jIGIT EIGHToFIVEpOURoNINEoONEoSEVENpIXoTHREEpWOoZEROkVISION SIGNsLASHjOLLAR SIGN WITH OVERLAID",
   " BACKSLASHkT OPERATORiEQUALSiGREATER-THANiHANGUL CHIEUCHw AqIEUCu ApHIEUHu ApIEUNGu AvU",
   "pKHIEUKHw AqIYEOKv ApMIEUMu ApNIEUNu ApPHIEUPHw AqIEUPu ApRIEULu ApSIOSt ApTHIEUTHw AqIKEUTv A",
   "jEAVY WHITE RIGHTWARDS ARROWjORIZONTAL BAR WITH NOTCHjUMAN FIGUREiIDEOGRAPH ACCEPTtDVANTAGE",
   "tLLIANCEtTTENTIONsCENTREtONGRATULATIONuPYuRRECTsEARTHtIGHTtNTERPRISEtXCELLENTsFEMALEtINANCIAL",
   "uREuVEtOURsHAVEtIGHsITEMsKINDERGARTENtOTOsLABORtEFTtOWsMALEtEDICINEuTALtOONsNAMEtIGHTuNEsONE",
   "sPRINTsQUESTIONsRELIGIONuSOURCEvTtIGHTsSCHOOLtECRETuVENtIXtOCIETYtPECIALtTOCKuUDYtUITABLEuN",
   "uPERVISEsTENtHREEtWOsWATERtOODjNFORMATION SOURCEjTALIC LATIN CAPITAL LETTER CbkRiKATAKANA ArE",
   "rHAsEsIsOsUrIrKAsEsIsOsUrMAsEsIsOsUrNAsEsIsOsUrOrRAsEsIsOsUrSAsEsIsOsUrTAsEsIsOsUrUrWAsEsIsO",
   "rYAsOsUjOREAN CHARACTER CHAMKOzJUEUIiLATIN CAPITAL LETTER AbdBbdCbdDbdEbdFbdGbdHbdIbdJbdKbdL",
   "bdMbdNbdObdPbdQbdRbdSbdTbdUbdVbdWbdXbdYbdZoSMALL LETTER AbbBbbCbbDbbEbbFbbGbbHbbIbbJbbKbbLbbM",
   "bbNbbObbPbbQbbRbbSbbTbbUbbVbbWbbXbbYbbZjESS-THANiMINUSjULTIPLICATION SIGN WITH CIRCUMFLEX ACCE",
   "NTiNUMBER EIGHTEENuY ON BLACK SQUAREqLEVENpFIFTEENtYu ON BLACK SQUAREqORTYu EIGHTvFIVEwOUR",
   "vNINEvON BLACK SQUARExEvSEVENwIXvTHREEwWOrURTEENpNINETEENpSEVENTEENvY ON BLACK SQUAREqIXTEEN",
   "tY ON BLACK SQUAREpTENs ON BLACK SQUAREqHIRTEENuYv EIGHTwFIVExOURwNINEwON BLACK SQUAREyEwSEVEN",
   "xIXwTHREExWOqWELVEsNTYv EIGHTwFIVExOURwNINEwON BLACK SQUAREyEwSEVENxIXwTHREExWO",
   "iOPEN CENTRE EIGHT POINTED STARiPARALLELjERPENDICULARjLUSjOSTAL MARKiREVERSE SOLIDUS",
   "jING OPERATORiSQUAREiTIMESjRIANGLEq DOWNiVERTICAL BARiWHITE BULLEToSTARjZiXiZERO WITH SLASH",
   "eULATION FUNCTIONfMFLEX ACCENTfS TENTcTYSCAPEj AT DUSKbJK COMPATIBILITY IDEOGRAPH-2F800bg1bg2",
   "bg3bg4bg5bg6bg7bg8bg9bgAbgBbgCbgDbgEbgFbf10bg1bg2bg3bg4bg5bg6bg7bg8bg9bgAbgBbgCbgDbgEbgFbf20",
   "bg1bg2bg3bg4bg5bg6bg7bg8bg9bgAbgBbgCbgDbgEbgFbf30bg1bg2bg3bg4bg5bg6bg7bg8bg9bgAbgBbgCbgDbgEbgF",
   "bf40bg1bg2bg3bg4bg5bg6bg7bg8bg9bgAbgBbgCbgDbgEbgFbf50bg1bg2bg3bg4bg5bg6bg7bg8bg9bgAbgBbgCbgD",
   "bgEbgFbf60bg1bg2bg3bg4bg5bg6bg7bg8bg9bgAbgBbgCbgDbgEbgFbf70bg1bg2bg3bg4bg5bg6bg7bg8bg9bgAbgB",
   "bgCbgDbgEbgFbf80bg1bg2bg3bg4bg5bg6bg7bg8bg9bgAbgBbgCbgDbgEbgFbf90bg1bg2bg3bg4bg5bg6bg7bg8bg9",
   "bgAbgBbgCbgDbgEbgFbfA0bg1bg2bg3bg4bg5bg6bg7bg8bg9bgAbgBbgCbgDbgEbgFbfB0bg1bg2bg3bg4bg5bg6bg7",
   "bg8bg9bgAbgBbgCbgDbgEbgFbfC0bg1bg2bg3bg4bg5bg6bg7bg8bg9bgAbgBbgCbgDbgEbgFbfD0bg1bg2bg3bg4bg5",
   "bg6bg7bg8bg9bgAbgBbgCbgDbgEbgFbfE0bg1bg2bg3bg4bg5bg6bg7bg8bg9bgAbgBbgCbgDbgEbgFbfF0bg1bg2bg3",
   "bg4bg5bg6bg7bg8bg9bgAbgBbgCbgDbgEbgFbe900bg1bg2bg3bg4bg5bg6bg7bg8bg9bgAbgBbgCbgDbgEbgFbf10bg1",
   "bg2bg3bg4bg5bg6bg7bg8bg9bgAbgBbgCbgDbgEbgFbf20bg1bg2bg3bg4bg5bg6bg7bg8bg9bgAbgBbgCbgDbgEbgF",
   "bf30bg1bg2bg3bg4bg5bg6bg7bg8bg9bgAbgBbgCbgDbgEbgFbf40bg1bg2bg3bg4bg5bg6bg7bg8bg9bgAbgBbgCbgD",
   "bgEbgFbf50bg1bg2bg3bg4bg5bg6bg7bg8bg9bgAbgBbgCbgDbgEbgFbf60bg1bg2bg3bg4bg5bg6bg7bg8bg9bgAbgB",
   "bgCbgDbgEbgFbf70bg1bg2bg3bg4bg5bg6bg7bg8bg9bgAbgBbgCbgDbgEbgFbf80bg1bg2bg3bg4bg5bg6bg7bg8bg9",
   "bgAbgBbgCbgDbgEbgFbf90bg1bg2bg3bg4bg5bg6bg7bg8bg9bgAbgBbgCbgDbgEbgFbfA0bg1bg2bg3bg4bg5bg6bg7",
   "bg8bg9bgAbgBbgCbgDbgEbgFbfB0bg1bg2bg3bg4bg5bg6bg7bg8bg9bgAbgBbgCbgDbgEbgFbfC0bg1bg2bg3bg4bg5",
   "bg6bg7bg8bg9bgAbgBbgCbgDbgEbgFbfD0bg1bg2bg3bg4bg5bg6bg7bg8bg9bgAbgBbgCbgDbgEbgFbfE0bg1bg2bg3",
   "bg4bg5bg6bg7bg8bg9bgAbgBbgCbgDbgEbgFbfF0bg1bg2bg3bg4bg5bg6bg7bg8bg9bgAbgBbgCbgDbgEbgFbeA00bg1",
   "bg2bg3bg4bg5bg6bg7bg8bg9bgAbgBbgCbgDbgEbgFbf10bg1bg2bg3bg4bg5bg6bg7bg8bg9bgAbgBbgCbgDbcF900bf1",
   "bf2bf3bf4bf5bf6bf7bf8bf9bfAbfBbfCbfDbfEbfFbe10bf1bf2bf3bf4bf5bf6bf7bf8bf9bfAbfBbfCbfDbfEbfF",
   "be20bf1bf2bf3bf4bf5bf6bf7bf8bf9bfAbfBbfCbfDbfEbfFbe30bf1bf2bf3bf4bf5bf6bf7bf8bf9bfAbfBbfCbfD",
   "bfEbfFbe40bf1bf2bf3bf4bf5bf6bf7bf8bf9bfAbfBbfCbfDbfEbfFbe50bf1bf2bf3bf4bf5bf6bf7bf8bf9bfAbfB",
   "bfCbfDbfEbfFbe60bf1bf2bf3bf4bf5bf6bf7bf8bf9bfAbfBbfCbfDbfEbfFbe70bf1bf2bf3bf4bf5bf6bf7bf8bf9",
   "bfAbfBbfCbfDbfEbfFbe80bf1bf2bf3bf4bf5bf6bf7bf8bf9bfAbfBbfCbfDbfEbfFbe90bf1bf2bf3bf4bf5bf6bf7",
   "bf8bf9bfAbfBbfCbfDbfEbfFbeA0bf1bf2bf3bf4bf5bf6bf7bf8bf9bfAbfBbfCbfDbfEbfFbeB0bf1bf2bf3bf4bf5",
   "bf6bf7bf8bf9bfAbfBbfCbfDbfEbfFbeC0bf1bf2bf3bf4bf5bf6bf7bf8bf9bfAbfBbfCbfDbfEbfFbeD0bf1bf2bf3",
   "bf4bf5bf6bf7bf8bf9bfAbfBbfCbfDbfEbfFbeE0bf1bf2bf3bf4bf5bf6bf7bf8bf9bfAbfBbfCbfDbfEbfFbeF0bf1",
   "bf2bf3bf4bf5bf6bf7bf8bf9bfAbfBbfCbfDbfEbfFbdA00bf1bf2bf3bf4bf5bf6bf7bf8bf9bfAbfBbfCbfDbfEbfF",
   "be10bf1bf2bf3bf4bf5bf6bf7bf8bf9bfAbfBbfCbfDbfEbfFbe20bf1bf2bf3bf4bf5bf6bf7bf8bf9bfAbfBbfCbfD",
   "bfEbfFbe30bf1bf2bf3bf4bf5bf6bf7bf8bf9bfAbfBbfCbfDbfEbfFbe40bf1bf2bf3bf4bf5bf6bf7bf8bf9bfAbfB",
   "bfCbfDbfEbfFbe50bf1bf2bf3bf4bf5bf6bf7bf8bf9bfAbfBbfCbfDbfEbfFbe60bf1bf2bf3bf4bf5bf6bf7bf8bf9",
   "bfAbfBbfCbfDbe70bf1bf2bf3bf4bf5bf6bf7bf8bf9bfAbfBbfCbfDbfEbfFbe80bf1bf2bf3bf4bf5bf6bf7bf8bf9",
   "bfAbfBbfCbfDbfEbfFbe90bf1bf2bf3bf4bf5bf6bf7bf8bf9bfAbfBbfCbfDbfEbfFbeA0bf1bf2bf3bf4bf5bf6bf7",
   "bf8bf9bfAbfBbfCbfDbfEbfFbeB0bf1bf2bf3bf4bf5bf6bf7bf8bf9bfAbfBbfCbfDbfEbfFbeC0bf1bf2bf3bf4bf5",
   "bf6bf7bf8bf9bfAbfBbfCbfDbfEbfFbeD0bf1bf2bf3bf4bf5bf6bf7bf8bf9eRADICAL BAMBOOnLUEnOLT OF CLOTH",
   "oNEoXnRUSH ONEsTWOmC-SIMPLIFIED BIRDzCARTzDRAGONzEATbaVENzFISHbaLYbaROGzGATEbaOLDzHORSEzLEAF",
   "baONGzSALTbaEEbaHELLbaILKbaPEECHzTANNED LEATHERbaOOTHbaURTLEzWINDnHOKEnITYoVILIANnLIFFoOTHES",
   "nOWmDEATHnIVINATIONnOGmEAT ONEqTHREErWOnWEnYEmFIREnOOTmGHOSTnRASS ONEsTHREEtWOmHANDnEADpRT ONE",
   "sTWOnORNmJ-SIMPLIFIED DRAGONzEVENzTOOTHbaURTLEnADEmKNIFE ONEsTWOmLAME FOURrONErTHREEsWO",
   "nONG ONErTWOmMEAToSHnOONoRTARoTHERoUND ONEsTWOmNET FOURqONEqTHREErWOmOLDmPAW ONEqTWOnERSON",
   "mRAINoMoPnEPEATmSEALoCOND ONEtTHREEuWOnHEEPnILKoMPLIFIED HALF TREE TRUNKyORNxWALKyHEATxYELLOW",
   "nMALL ONEsTWOnNAKEoOUT ONEsTWOnPIRIT ONEtTWOnUNmTABLEnHREADnIGERnURTLEmWALK ONErTWOoTER ONE",
   "sTWOnEST ONErTWOeSTROKE BXGlDlHmGmPnWGmXWGmZnGnTnWoGnZoPoZpGlNlPmDmGmZlQlSmGmPmTmWnGnZmZnWGnZ",
   "lTmNlWGlXGbLAMSHELL MOBILE PHONEdPPER BOARDfING HANDS SIGNdSSICAL BUILDINGcEAR SCREEN SYMBOL",
   "cINKING BEER MUGSjGLASSESdPBOARDcOCK FACE EIGHT OCLOCKq-THIRTYmLEVEN OCLOCKr-THIRTY",
   "lFIVE OCLOCKp-THIRTYmOUR OCLOCKp-THIRTYlNINE OCLOCKp-THIRTYlONE OCLOCKo-THIRTYlSEVEN OCLOCK",
   "q-THIRTYmIX OCLOCKo-THIRTYlTEN OCLOCKo-THIRTYmHREE OCLOCKq-THIRTYmWELVE OCLOCKr-THIRTY",
   "nO OCLOCKo-THIRTYfWISE CLOSED CIRCLE ARROWlONTOUR INTEGRALkDOWNWARDS AND UPWARDS OPEN CIRCLE A",
   "RROWSkGAPPED CIRCLE ARROWkINTEGRALkOPEN CIRCLE ARROWkRIGHT AND LEFT SEMICIRCLE ARROWS",
   "pWARDS AND LEFTWARDS OPEN CIRCLE ARROWScb WITH CIRCLED ONE OVERLAYkTOP SEMICIRCLE ARROW",
   "lRIANGLE-HEADED OPEN CIRCLE ARROWdSE UPfD BOOKhINTERSECTION WITH SERIFShLOCK WITH KEY",
   "hMAILBOX WITH LOWERED FLAGuRAISED FLAGhSUBSETn OR EQUAL TOjPERSETp OR EQUAL TOhUMBRELLA",
   "iNION WITH SERIFSy AND SMASH PRODUCTdUDf WITH LIGHTNINGlRAINlSNOWlTORNADOdWN FACEbOATcCKROACH",
   "eTAIL GLASSdONUTcFFINcINcLLISION SYMBOLdONf EQUALSgSIGNcMBINING ACUTE ACCENTw BELOWqTONE MARK",
   "p-GRAVE-ACUTEqMACRONlLMOST EQUAL TO ABOVEbaBELOWlNNUITY SYMBOLmTICLOCKWISE ARROW ABOVE",
   "yRING OVERLAYlSTERISK ABOVEtBELOWkBINDU BELOWlREVEp BELOWp-MACRONmIDGE ABOVErBELOWkCANDRABINDU",
   "mRONp BELOWlEDILLAlIRCUMFLEX ACCENTbb BELOWlLOCKWISE ARROW ABOVEuRING OVERLAYlOMMA ABOVE",
   "v RIGHTqBELOWmNJOINING MACRONbb BELOWlYRILLIC DASIA PNEUMATAtHUNDRED MILLIONS SIGN",
   "bbTHOUSANDS SIGNtKAVYKAtLETTER AbaBEbbIG YUSbaCHEbaDEbbJERVbaEFbbLbbMbbNbbRbbSbc-TEbaFITAbaGHE",
   "baHAbcRD SIGNbaIbbEbbOTIFIED AbjBIG YUSbjEbaKAbaLITTLE YUSbaMONOGRAPH UKbaObbMEGAbaPEbaSHA",
   "bcCHAbbOFT SIGNbaTEbbSEbaUbbKRAINIAN IEbaVEbaYATbbERUbbIbbUbaZEbbHEtMILLIONS SIGN",
   "tPALATALIZATIONvYEROKuOKRYTIEuSILI PNEUMATAtTEN MILLIONS SIGNuHOUSAND MILLIONS SIGNuITLO",
   "y LEFT HALFzRIGHT HALFtVZMETkDELETION MARKmVANAGARI DIGIT EIGHTbbFIVEbcOURbbNINEbbONEbbSEVEN",
   "bcIXbbTHREEbcWObbZEROvLETTER AbcKAbcNAbcPAbcRAbcUbcVIvSIGN AVAGRAHAlIAERESISt BELOWt-RING",
   "lOT ABOVEt LEFTuRIGHToBELOWt LEFTnTED ACUTE ACCENTrGRAVE ACCENTmUBLE ACUTE ACCENTrBREVEw BELOW",
   "rCIRCUMFLEX ABOVErGRAVE ACCENTrINVERTED BREVEbf BELOWrLOW LINErMACRONx BELOWrOPEN MARK BELOW",
   "sVERLINErPARENTHESES ABOVEsLUS SIGN ABOVEbbBELOWrRIGHTWARDS ARROW BELOWtNG BELOWrTILDE",
   "w LEFT HALFxRIGHT HALFrVERTICAL LINE ABOVEbfBELOWbaSTROKE OVERLAYqD CIRCUMFLEX ACCENT",
   "mWN TACK BELOWoWARDS ARROWkENCLOSING CIRCLEba BACKSLASHuDIAMONDuKEYCAPuSCREENvQUARE",
   "uUPWARD POINTING TRIANGLElQUALS SIGN BELOWkFERMATAlOUR DOTS ABOVEkGLAGOLITIC LETTER AZU",
   "bcBIG YUSbdUKYbcCHRIVIbcDJERVIbdOBRObcFITAbdRITUbcGLAGOLIbcHERUbcIbdNITIAL IZHE",
   "bdOTATED BIG YUSbkSMALL YUSbdZHEbcKAKObcLJUDIJEbcMYSLITEbcNASHIbcONUbcPOKOJIbcRITSIbcSHAbeTA",
   "bdLOVObdMALL YUSbcTSIbdVRIDObcUKUbcVEDEbcYATIbdERIbfUbeSTUbdObdUbcZEMLJAbdHIVETE",
   "lRANTHA DIGIT FIVEzOURyONEySIXyTHREEzWOyZEROsLETTER AzKAzNAzPAzVInPHEME JOINERnVE ACCENT",
   "w BELOWqTONE MARKp-ACUTE-GRAVEqMACRONmEEK DIALYTIKA TONOSqKORONISqMUSICAL PENTASEMEyTETRASEME",
   "zRISEMEqPERISPOMENIqYPOGEGRAMMENIkHOMOTHETIC ABOVEmOK ABOVEmRNkINFINITYmVERTED BREVEy BELOW",
   "vIDGE BELOWtDOUBLE ARCH ABOVEbfBELOWlS BELOWkKATAKANA-HIRAGANA SEMI-VOICED SOUND MARK",
   "bcVOICED SOUND MARKmVYKA ABOVE LEFTxRIGHTkLATIN LETTER SMALL CAPITAL GblLblMblNblR",
   "qSMALL LETTER Abe WITH DIAERESISbeEbeLPHAbeObeVbdBbeETAbdCbe CEDILLAbdDbdEbeSHbeTHbdF",
   "beLATTENED OPEN A ABOVEbdGbdHbdIbeNSULAR DblGblRblTbdKbdLbe WITH DOUBLE MIDDLE TILDEbeONG SbdM",
   "bdNbdObe WITH DIAERESISbkLIGHT CENTRALIZATION STROKEbdPbdRbe BELOWbfROTUNDAbdSbeCHWAbdT",
   "beURNED W BELOWbdUbe WITH DIAERESISbkLIGHT CENTRALIZATION STROKEbdVbdWbe BELOWbdXbdZ",
   "lEFT ANGLE ABOVEvBELOWqRROW ABOVEvBELOWuHEAD ABOVEzBELOWpHALF RING ABOVEzBELOWrRPOON ABOVE",
   "pPARENTHESIS ABOVE LEFTbbBELOW LEFTpRIGHT ARROW ABOVEbbBELOWpTACK BELOWoWARDS ARROW OVERLAY",
   "uHARPOON WITH BARB DOWNWARDSlIGATURE LEFT HALFbc BELOWtRIGHT HALFbd BELOW",
   "nHT CENTRALIZATION STROKE BELOWlONG DOUBLE SOLIDUS OVERLAYpSOLIDUS OVERLAYqTROKE OVERLAY",
   "pVERTICAL LINE OVERLAYmW LINEkMACRONq BELOWrLEFT HALFba BELOWrRIGHT HALFbb BELOWq-ACUTErBREVE",
   "rGRAVElINUS SIGN BELOWkNOT TILDE ABOVElUMBER SIGN ABOVEkOGONEKq ABOVElLD PERMIC LETTER ANbcDOI",
   "bcNENOEbcSIIbcZATAlPEN MARK BELOWlVERLINEkPALATALIZED HOOK BELOWmRENTHESES ABOVEwBELOWwOVERLAY",
   "lLUS SIGN ABOVEuBELOWkRETROFLEX HOOK BELOWmVERSE SOLIDUS OVERLAYrD COMMA ABOVE",
   "lIGHT ARROW ABOVEwBELOWvHEAD ABOVEbbND DOWN ARROWHEAD BELOWbeUP ARROWHEAD BELOWbaBELOW",
   "qHALF RING ABOVEbaBELOWsRPOON ABOVEqPARENTHESIS ABOVE RIGHTbcBELOW RIGHTqTACK BELOW",
   "pWARDS HARPOON WITH BARB DOWNWARDSmNG ABOVEpBELOWpOVERLAYkSEAGULL BELOWlHORT SOLIDUS OVERLAY",
   "rTROKE OVERLAYqVERTICAL LINE OVERLAYlNAKE BELOWlQUARE BELOWsRACKETS ABOVE",
   "lTRONG CENTRALIZATION STROKE BELOWlUSPENSION MARKkTHREE DOTS ABOVElILDEp BELOWqLEFT HALF BELOW",
   "qOVERLAYqRIGHT HALF BELOWlRIPLE ACUTE ACCENTrDOTrUNDERDOTlURNED COMMA ABOVEkUP TACK ABOVE",
   "sBELOWmWARDS ARROW BELOWlR ABOVElS ABOVEkVERTICAL LINE ABOVEyBELOWtTILDEkWIDE BRIDGE ABOVE",
   "pINVERTED BRIDGE BELOWmGGLY LINE BELOWkX ABOVEmBELOWl-X BELOWkZIGZAG ABOVErBELOWdETdMA",
   "eERCIAL ATlMINUS SIGNdPASSeLEMENTeOSITION SYMBOLeRESSIONcNFETTI BALLeOUNDED FACEeUSED FACE",
   "dGRUENT WITH DOT ABOVEdICAL TAPERdJUNCTIONdSTRUCTION SIGNnWORKERdTAINS AS MEMBER",
   "mNORMAL SUBGROUPbb OR EQUAL TOjWITH LONG HORIZONTAL STROKEoOVERBARoVERTICAL BAR AT END OF HORI",
   "ZONTAL STROKEeINUOUS UNDERLINE SYMBOLeOUR INTEGRALeROL KNOBSiSEQUENCE INTRODUCER",
   "dVENIENCE STOREcOKED RICEeIEfNGcPTIC CAPITAL LETTER AKHMIMIC KHEIxLFAwBOHAIRIC KHEI",
   "wCROSSED SHEIyYPTOGRAMMIC EIEbkGANGIAbkNIbkSHEIwDALDAxEIxIALECT-P ALEFbgHORIbgKAPAbgNIwEIEwFEI",
   "xIwGAMMAyNGIAwHATExORIwIAUDAwKAPAxHEIyIxSIwL-SHAPED HAxAULAwMIwNIwOxLD COPTIC AINbhDJAbhESH",
   "bhGANGIAbhHAbjTbiEIbiORIbhOOUbhSHEIbjIMAbaNUBIAN NGIbiYIbhSHIMAbhWAUxOUwPIxSIwROwSAMPIxHEIyIMA",
   "xIMAxOUwTAUxHETHEwUAwVIDAwZATAiOMBINING NI ABOVErSPIRITUS ASPERbaLENIShEPACT DIGIT EIGHTtFIVE",
   "uOURtNINEtONEtSEVENuIXtTHREEuWOnNUMBER EIGHT HUNDREDzYuFIFTYwVE HUNDREDvORTYwUR HUNDRED",
   "uNINE HUNDREDyTYuONE HUNDREDuSEVEN HUNDREDzTYvIX HUNDREDxTYuTENvHIRTYwREE HUNDREDvWENTY",
   "wO HUNDREDnTHOUSANDS MARKhFRACTION ONE HALFiULL STOPhMORPHOLOGICAL DIVIDER",
   "hOLD NUBIAN DIRECT QUESTION MARKsFULL STOPsINDIRECT QUESTION MARKsVERSE DIVIDER",
   "hSMALL LETTER AKHMIMIC KHEIvLFAuBOHAIRIC KHEIuCROSSED SHEIwYPTOGRAMMIC EIEbiGANGIAbiNIbiSHEI",
   "uDALDAvEIvIALECT-P ALEFbeHORIbeKAPAbeNIuEIEuFEIvIuGAMMAwNGIAuHATEvORIuIAUDAuKAPAvHEIwIvSI",
   "uL-SHAPED HAvAULAuMIuNIuOvLD COPTIC AINbfDJAbfESHbfGANGIAbfHAbhTbgEIbgORIbfOOUbfSHEIbhIMA",
   "yNUBIAN NGIbgYIbfSHIMAbfWAUvOUuPIvSIuROuSAMPIvHEIwIMAvIMAvOUuTAUvHETHEuUAuVIDAuZATAiYMBOL KAI",
   "pHI ROoMI ROoPI ROoSHIMA SIMApTAUROSoTAU ROdYLEFT SYMBOLeRIGHT SIGNcRALdNISH VERSE DIVIDER",
   "dRESPONDS TOcUCH AND LAMPdNTERBOREhSINKfING ROD TENS DIGIT EIGHTyFIVEzOURyNINEyONEySEVENzIX",
   "yTHREEzWOnUNIT DIGIT EIGHTyFIVEzOURyNINEyONEySEVENzIXyTHREEzWOdPLE WITH HEARTcWd FACEbRcAB",
   "cEDIT CARDdSCENT MOONcICKETh BAT AND BALLcOCODILEdISSANTdSS MARKgOF JERUSALEMjLORRAINE",
   "gPATTY WITH LEFT CROSSBARrRIGHT CROSSBARhOMMEEm WITH HALF-CIRCLE BELOWfED FLAGS",
   "iNEGATIVE SQUARED LATIN CAPITAL LETTER PiSWORDSfING LANESdWNcUTCHdZEIRO SIGNcYING CAT FACE",
   "hFACEdSTAL BALLbSIbUBE ROOTcCUMBERcNEIFORM NUMERIC SIGN EIGHT ASHbdDISHbdGESH2bdSHAR2bdU",
   "be VARIANT FORMbdVARIANT FORM USSUbu3yLAMITE FIFTYbgORTYbfONE THIRDbfTWO THIRDSxFIVE ASH",
   "bf TENUbcBAN2bg VARIANT FORMbdURUbcDISHbcGESH2bgUbcSHAR2bgUbdIXTHS DISHbcUbd VARIANT FORM",
   "yOUR ASHbf TENUbcBAN2bg VARIANT FORMbdURUbcDISHbcGESH2bgUbcSHAR2bgUbcUbd VARIANT FORM",
   "bcVARIANT FORM LIMMUbu AbvBbu4xNIGIDAESHbdMINzNE ASHbcDISHbcGESH2bcSHAR2bcUbd VARIANT FORM",
   "bcVARIANT FORM ILIMMUbv Abv3bv4xOLD ASSYRIAN ONE QUARTERboSIXTHyNE BAN2bcURUbbEIGHTH ASHbcSHE3",
   "bbGESH2bfUbbHALF GURbbQUARTER ASHbjGURbbSHARUbbTHIRD DISHbhVARIANT FORM AxSEVEN ASHbdDISH",
   "bdGESH2bdSHAR2bdUbe VARIANT FORMbdVARIANT FORM IMIN AbvBbu3yHAR2 TIMES GAL PLUS DISHbsMIN",
   "yIX ASHbe TENUbbDISHbbGESH2bbSHAR2bbUbc VARIANT FORMbbVARIANT FORM ASH9xTHREE ASHbg TENUbdBAN2",
   "beURUbh VARIANT FORMbdDISHbdGESH2bhUbdSHAR2bi VARIANT FORMbhUbi VARIANT FORM",
   "bdVARIANT FORM ESH16bt21yWO ASHbe TENUbbBAN2bcURUbbESHE3bbGESH2bfUbbSHAR2bfUbbTHIRDS DISH",
   "biVARIANT FORM AkPUNCTUATION SIGN DIAGONAL COLONbkQUADCOLONbkTRICOLONbbOLD ASSYRIAN WORD DIVID",
   "ERbbVERTICAL COLONkSIGN Aq TIMES AxBADxGAN2 TENUxHAxIGIxLAGAR GUNUxMUSHxSAGq2qBr GUNU",
   "sTIMES ASH2yDUN3 GUNUyGALbaN2 TENUyHAyIGI GUNUzMINyLAGAByNUNbb TENUySHESHbaU2yU PLUS U PLUS U",
   "r2s TIMES AzBALAGzGAN2 TENUzME PLUS ENzSHA3zTAK4qDr TIMES ESH2qKr TIMES ERIN2ySHITA PLUS GISH",
   "qLr TIMES ALyDIM2yGISHyHAyKAD3zIySHEyUSHrANrEPHqMARt TIMES KUGbaSHEqNr OVER AN",
   "sPLUS NAGA OPPOSING AN PLUS NAGAbcSQUAREDsTHREE TIMESrSHEqPINqRADt TIMES KURrKABqSAL2rH",
   "s KABA TENUtOVER ASH OVER ASHbk CROSSING ASH OVER ASH OVER ASHbcTUG2 OVER TUG2 TUG2 OVER TUG2 ",
   "PAPtZIDA TENUs2sGABpBArDs TIMES DISH TENUrG3rHAR2v TIMES AB2bcNIbcZArLs OVER BALsAGrRsA2qI",
   "r TIMES AyGARyIGI GUNUqUr CROSSING BUsOVER BU ABbaTIMES NA2baUNrLUGu OVER BULUGrRs2pDA",
   "r TIMES TAK4rGs KISIM5 TIMES A PLUS MASHbhMARbgBALAGbhIbgGAbi PLUS MASHbhIbiR2bhUDbgHAbgIR",
   "bi PLUS LUbgKAKbgLAbhUbi PLUS MASH2biMbgNEbgPAP PLUS PAPbgSIbgTAK4bgU2 PLUS GIR2boMASHbhSH",
   "tTIMES KURs3rMrRsA3t4qIrBrMs TIMES IGIzSHEzU U Us2t TIMES UDrNs KASKAL U GUNU DISHrSH",
   "t PLUS SHUqUr GUNUsOVER DUsSHESHIGrBs TIMES ESH2zSHEs2rGs TIMES ANSHEbaSHbc AT LEFTzDINbaUN",
   "zERIN2zGAbaIbbR2 GUNUbbSHzHAbaIzIGI GUNUzKASKALbaURbbSHU2bf PLUS KASKALzLAK-020bbMbc TIMES KUR",
   "baUH PLUS GISHzMASHbaESbaIzNIzPIzSHEbaI GUNUsUDrHrNs3t GUNUy GUNUs4rR2pEq OVER E NUN OVER NUN",
   "rTIMES PAPq2r TIMES A PLUS HA PLUS DAyGARyKURyMIyPAPySALzHEyUqDINqGIRqLqNr CROSSING EN",
   "sOPPOSING ENsSQUAREDsTIMES GAN2bc TENUyMEqRENrIN2u XqSH2t CROSSING ESH2qZENt SHESHIG TIMES ASH",
   "biHIbiIGI GUNUbiLAbkLbiMEbkSbiSUuTIMES Abb PLUS LALbk TIMES LALbbNbaBADbaDUN3 GUNUbj GUNUbaGUD",
   "baHAbc GUNUbaIGI GUNUbaKASKALbg SQUAREDbbU3baLAbcL TIMES LALbbIbbUbaSHEbbUbaU2bbDpGAr GUNUr2",
   "s OVER GA2tTIMES A PLUS DA PLUS HAbgHAbgIGIbaB2 TENU PLUS TABbaNbb PLUS KAK PLUS AbaSHbc2",
   "bd PLUS GALzBADbbHAR2bbR PLUS RAbaURbc PLUS RAzDAbaIbbM GUNUbdTIMES SHEbaUBbbG TIMES IGI GUNU",
   "bjKASKALzELbb PLUS LAbaNbb TIMES GAN2 TENUbaRENzGAbbN2 TENUbbRbc PLUS DIbiNEbaIbb4bc PLUS A",
   "bbR2 PLUS SUzHA PLUS AbhLU PLUS ESH2bbLbc PLUS LAbaI PLUS LIbaUB2zIGI GUNU",
   "baSH PLUS HU PLUS ASHzKAKbbSKALbaIDbc PLUS LALbaU3 PLUS ANbbSHU2 PLUS KASKALzLAbbMbc TIMES KUR",
   "baUHzME PLUS ENbaIbaUSHzNEbb PLUS E2bhGIbaUNbc OVER NUNzPAzSALbbRbaHEbc PLUS TURbbIDbcMbaUM",
   "zTAK4zUbaDbb PLUS DUzZIZ2rBAt CROSSING GABAuROTATED NINETY DEGREESrDs OVER GAD GAR OVER GARrL",
   "s GAD OVER GAD GAR OVER GARsAMrMrNs2t CROSSING GAN2uOVER GAN2uTENUrRs3rSHANqE22rSHTIN",
   "w TIMES KURbdUqIr CROSSING GIsTIMES EyUr4s CROSSING GI4tOVER GI4rDIMrGrR2t GUNUs3",
   "t TIMES A PLUS IGIbaGAN2 TENUbaIGIbaLU PLUS IGIbaPArSALsHt CROSSING GISHuTENUvIMES BAD",
   "baGISH CROSSING GISHbaTAK4qUr CROSSING GUr2s GUNUtTIMES IGI GUNUzKAKbc TIMES IGI GUNUzNUN",
   "zSAL PLUS TUG2rDs OVER GUD LUGALtPLUS GISH TIMES TAK4tTIMES A PLUS KURzKURrLrMs TIMES SHErRs7",
   "sUNtSHpHAr GUNUsTENUw GUNUrLqIr TIMES ASHbb OVER HI TIMES ASHbb2yBADyDISHyGADyKINyNUNySHEyUqU",
   "rB2t TIMES ANbaHALbaKASKALbaLISHbaUDrL2rSHpIq AqBqDIMt OVER IDIM BURbeSQUAREDqGrIs DIBtGUNU",
   "tOVER IGI SHIR OVER SHIR UD OVER UDtRIqLr TIMES GAN2 TENUr2qMr CROSSING IMsOPPOSING IMsSQUARED",
   "sTIMES TAK4rINqNqRqSHpKAr TIMES AzDba PLUS KU3zNSHEzSH2bb3yBADbaLAGbaRzIzUyERIN2zSH2yGAbaL",
   "baN2 TENUbaRbb PLUS SHA3 PLUS AzIbaR2baSHbc CROSSING GISHbdPLUS SARzUbaDbaR7yHI TIMES ASH2yIGI",
   "zMyKAbaKzIbaDyLIzUbaMyMEba PLUS DUbgGIbgTEzIba PLUS NUNUZyNEzUNyPAzIyRUySAbaRzHAbaEbaIDbaUbbL",
   "zIGzUHURyTARzUyUz U Uz2zDzMUM TIMES PAzRba2zSHyZIr2s CROSSING KA2rBrD2s3s4s5t OVER KAD5rK",
   "s TIMES IGI GUNUrLs CROSSING KALtTIMES BADrM2s4rP ELAMITErSKALv LAGAB TIMES U OVER LAGAB TIMES",
   " UwOVER KASKAL LAGAB TIMES U OVER LAGAB TIMES UqESH2qIr TIMES BADyUzDrDrNrSALsHsIM5",
   "v OVER KISIM5qUr OVER HI TIMES ASH2 KU OVER HI TIMES ASH2r3r4s VARIANT FORMr7rLs GUNUrNrR",
   "s OPPOSING KURrSHU2qWU318pLArGABu SQUAREDvTIMES Abc PLUS DA PLUS HAbiGARbiLALbcLbcN",
   "bcSH ZIDA TENUbbBADbcIbbDARbbENbbGAbdRbcIbcUDbe PLUS GUDbbHAbdLbcI TIMES NUNbbIGI GUNUbcM",
   "bd PLUS HAbjLUbbKIbdNbcU3bdLbe PLUS HI PLUS AbbLAGABbcISHbcUbdLbbMEbd PLUS ENbcUSHbbNE",
   "bbSHE PLUS SUMbdITA PLUS GISH PLUS ERIN2brTENUbdU2bf PLUS SHU2bcUMbbTAGbdK4",
   "bcE PLUS A PLUS SU PLUS NAbbUbc PLUS AbiU PLUS Ubc2 PLUS ASHbcDbcSHbbZU OVER ZUtRu GUNU",
   "z OVER LAGAR GUNU SHEvTIMES SHEbe PLUS SUMrHSHUrK-003u21v5u30u50v1u62u79 OVER LAK-079 GUNUu80",
   "v1 OVER LAK-081u92t130u42t210v9u20v5v8u38u65v6t343v7v8u83v4u90t441v9w TIMES GUbdIGI",
   "bdPAP PLUS LU3bmPAP PLUS LU3bdU2 PLUS BAu50v7u70u83u90v2v3v5t550t608u17w TIMES ASHbdBAD",
   "bdDUN3 GUNU GUNUbdKU3bdLAbdTARbeEbdU2beDbeRUDAu36u48w TIMES DUBbdGAbdIGIbg GUNUbdNI",
   "bdPAP PLUS PAP PLUS LU3bdSHESH PLUS KIbdUDbeRUDAt724u49rLs TIMES LALrMs TIMES KURbc PLUS RUqI",
   "rLrMMU2rSHqUr TIMES BADr2s CROSSING LU2tGUNU TIMES ASHtOPPOSING LU2tSHESHIGba TIMES BADuQUARED",
   "tTENUuIMES ALzBADzDISHzESH2bd PLUS LALbeTENUzGAN2 TENUzHALbaI TIMES BADzIMzKAD2bc3bd PLUS ASH",
   "baIzLA PLUS ASHbbGABzME PLUS ENzNEbaUzPAPbc PLUS PAP PLUS LU3zSHUbaI PLUS ASHbbK2 PLUS BUzTAK4",
   "baUG2r3rGALu OPPOSING LUGALwVER LUGALvSHESHIGrHrLrMs OVER LUMbb GAR OVER GARpMAr GUNU",
   "sTIMES TAK4r2rHrRrSHt2qErSsHqIr PLUS ZA7rNqUr OVER MUrGs GUNUrNSUBrRGU2rSHt CROSSING MUSH",
   "uOVER MUSHbd TIMES A PLUS NAbkGAbkKAKuTIMES AbaKURbaZAt3u GUNUvTIMES Abc PLUS DIbbDIbbZApNAr2",
   "r4rGAt INVERTEDuOPPOSING NAGAuTIMES SHU TENUtRrMs NUTILLUs2qEr SHESHIGsTIMES AyUDqIr TIMES Er2",
   "rMs TIMES GAN2 TENUbbR PLUS GAN2 TENUrNs9sDA2v TIMES ANbdSHbf PLUS ASHbcBALbcDIM GUNUbcGIbeSH",
   "bdUDbeLbcHIbcKESH2bcLAK-050bcMASHbdE PLUS GAN2 TENUbcNEbdUNbcPAP PLUS PAPbcSHEbf PLUS A ANbmSH",
   "bo PLUS ASHbcUbd PLUS Ubd2 PLUS ASHbdRUDAbdSHrSAGqUr11t OVER NU11 BUR OVER BUR",
   "uROTATED NINETY DEGREESuTENUrNs CROSSING NUNbf LAGAR OVER LAGARtLAGAR TIMES GARbfMASHbfSAL",
   "bi OVER NUN LAGAR TIMES SALbfUSHtOVER NUNtTENUsUZu AB2 TIMES ASHGABbfBIbfDUGbfGUDbfIGI GUNU",
   "bfKAD3bfLAbfNEbfSILA3bfU2vKISIM5 TIMES BIbk UpPArDrNrPqESH2u ASTERISKqIr CROSSING PIsTIMES AzB",
   "yBIzUyEyIzByUz2rR2sIGu OPPOSING PIRIGvTIMES KALbbUDbbZApRArBqIqUpSArGs GUNUx TIMES HAtNUTILLU",
   "tOVER SAGtTIMES AzDUbbBzENzHAzIGI GUNUzKAKbaURzLUMzMIzNUNzSALbaHE AT LEFTbbIDzTABbbK4zU2baBbaM",
   "baRbaSHrLs LAGAB TIMES ASH2rNGA2rRqHAs3t TIMES AbaBADbaGISHbaNEbaSHU2baTURbaUbb PLUS As6t TENU",
   "sB6sR2rEs HUtOVER SHEbb GAD OVER GAD GAR OVER GARbcTAB OVER TAB GAR OVER GARtPLUS HUB2yNAM2",
   "ySARsG9sNsSHu2uLAMrIDt TIMES AbaIMsMt TIMES AbaBALbbULUGbaDINbaGARbaIGIbd GUNUbaKUSHU2baLUL",
   "baMUGbaSALsNIGsRt OVER SHIR BUR OVER BURuTENUsTArUs OVER INVERTED SHUs2t PLUS DUG TIMES NI",
   "zE2 TIMES ANsBURqIr GUNUsTIMES TAK4rGs4t OVER SIG4 SHU2rK2rLA3qUr OVER SUrDs2rHURrMsASHrRs9pTA",
   "r ASTERISKsGUNUsTIMES HIyMIrBs OVER TAB NI OVER NI DISH OVER DISHtSQUAREDrGs TIMES BIzGUDzSHE",
   "bbUzTUG2zUDrK4t PLUS SAGrRqEr GUNUqIr TENUr2rLrRs OVER TIRbb GAD OVER GAD GAR OVER GAR",
   "tTIMES TAK4qUrG2rKrMs TIMES GAN2 TENUzTHREE DISHrRs OVER TUR ZA OVER ZApUq GUD",
   "rOVER U PA OVER PA GAR OVER GARySUR OVER SURyU REVERSED OVER U REVERSEDrUs Uq2qBqDr GUNU",
   "sKUSHU2sSHESHIGz TIMES BADsTIMES BADyMIyU PLUS U PLUS Ubn GUNUrUGqMr TIMES LAGAByMEba PLUS DA",
   "ySHA3yUrBINrUMt TIMES KASKALbaPAqNr GUNUqRr CROSSING URsSHESHIGr2s INVERTEDtTIMES A PLUS HA",
   "bgNAbaLzHAzNUNzU2bb PLUS ASHbhBIbaDr4rIs3rUs TIMES AbaSHGABzBARzDARA3baUNzGAbbLbbN2 TENUbbRbaU",
   "zHAzIGIbaMbaSHzKIzLAK-668baU3bbMzMINzPAzSHEbaIG4zTUzU PLUS GUDbaDbaRUDAsDAu TIMES UqSH",
   "s TIMES AzKUbbRzTAK4s2sUMXsXqTUKIqZ3s TIMES KASKALrUpZAr SQUARED TIMES KURsTENUr7rGrMXqE2qI",
   "r OVER ZIr3rBs KABA TENUrGrZ2qUr OVER ZU PLUS SARr5s TIMES AzTHREE DISH TENUrBURrM",
   "cP ON BLACK SQUAREeWITH STRAWdCAKEdIDOcRLING STONEeY BRACKET EXTENSIONgLOGICAL ANDoORiOP",
   "dRENCY EXCHANGEjSIGNeY AND RICEdVED STEM PARAGRAPH SIGN ORNAMENTcSTARDeOMScT OF MEATbYCLONE",
   "cLINDRICITYcPRIOT SYLLABLE ArErIrJAsOrKAsEsIsOsUrLAsEsIsOsUrMAsEsIsOsUrNAsEsIsOsUrOrPAsEsIsOsU",
   "rRAsEsIsOsUrSAsEsIsOsUrTAsEsIsOsUrUrWAsEsIsOrXAsErZAsOeO-MINOAN SIGN CM001w2w4w5w6w7w8w9v10w1",
   "w2xBw3w5w7w9v21w3w4w5w6w7w8w9v30w3w4w5w6w7w8w9v40w1w4w6w7w9v50w1w2w3w4w5w6w8w9v60w1w2w3w4w6w7",
   "w8w9v70w1w2w3w4w5xBw6w8w9v80w1w2w3w4w5w6w7w8w9v90w1w2w4w5w6w7w8w9u100w1w2w3w4w5w7w8w9v10w2w4",
   "u301w2cRILLIC CAPITAL LETTER Az WITH BREVEbfDIAERESISzBKHASIAN CHEbl WITH DESCENDERbiDZEbiHA",
   "zLEUT KAyBARRED Obg WITH DIAERESISbaSHKIR KAzEzIG YUSbaNOCULAR OzLENDED YUSzROAD OMEGA",
   "zYELORUSSIAN-UKRAINIAN IyCCHEzHEbb WITH DESCENDERbiIAERESISbhVERTICAL STROKEzLOSED LITTLE YUS",
   "zROSSED OyDCHEzEzJEbbRVzOUBLE MONOCULAR ObfOzWEzZEbbLObaHEbaWEbaZEbbHEyEz WITH DIAERESISzFzL",
   "ba WITH DESCENDERbgHOOKbgMIDDLE HOOKbgTAILzMba WITH TAILzNba WITH DESCENDERbgHOOKbgLEFT HOOK",
   "bgMIDDLE HOOKbgTAILzRba WITH TICKzSba WITH DESCENDERyFITAyGHEbb WITH DESCENDERbhMIDDLE HOOK",
   "bhSTROKEbn AND HOOKbhUPTURNzJEyHAba WITH DESCENDERbgHOOKbgSTROKEbaRD SIGNzWEyIz WITH DIAERESIS",
   "bfGRAVEbfMACRONzEba WITH BREVEbgGRAVEzObaTAbbIFIED AbhBIG YUSbhCLOSED LITTLE YUSbhE",
   "bhLITTLE YUSbhYATzZHITSAbf WITH DOUBLE GRAVE ACCENTyJEyKAba WITH DESCENDERbgHOOKbgSTROKE",
   "bgVERTICAL STROKEzHAKASSIAN CHEzJEzOMI DEbeJEbeZJEbdLJEbdNJEbdSJEbdTJEbdZJEbaPPAzSIyLHA",
   "zITTLE YUSzJEyMONOCULAR ObcGRAPH UKyNEUTRAL YERzJEyOz WITH DIAERESISzMEGAbd WITH TITLOzTyPE",
   "ba WITH DESCENDERbgMIDDLE HOOKzSIyQAyREVERSED DZEbhTSEbhYUbhZEzHAzOUND OMEGAySCHWA",
   "bd WITH DIAERESISzEMISOFT SIGNzHAbaCHAbaHAbc WITH DESCENDERbaORT Ibf WITH TAILbeUbaWEzOFT DE",
   "bdELbeMbdSIGNzTRAIGHT Ubi WITH STROKEyTCHEzEba WITH DESCENDERbgMIDDLE HOOKzSEbaHEbaSEbaWEzWEyU",
   "z WITH DIAERESISbgOUBLE ACUTEbfMACRONzKbaRAINIAN IEyVEyWEyYAbaEbaTzERUbc WITH BACK YER",
   "biDIAERESISzIzNzUyZEba WITH DESCENDERbhIAERESISbaMLYAzHEbb WITH BREVEbhDESCENDERbiIAERESISbaWE",
   "sIGATURE A IEbaEN GHEbaTE TSEjKAVYKAjLETTER MULTIOCULAR OqPALOCHKAqSMALL CAPITAL ELjPAYEROK",
   "jSMALL LETTER Ax WITH BREVEbdDIAERESISxBKHASIAN CHEbj WITH DESCENDERbgDZEbgHAxLEUT KAwBARRED O",
   "be WITH DIAERESISySHKIR KAxExIG YUSyNOCULAR OxLENDED YUSxROAD OMEGAxYELORUSSIAN-UKRAINIAN I",
   "wCCHExHEz WITH DESCENDERbgIAERESISbfVERTICAL STROKExLOSED LITTLE YUSxROSSED OwDCHExExJEzRV",
   "xOUBLE MONOCULAR ObdOxWExZEzLOyHEyWEyZEzHEwEx WITH DIAERESISxFxLy WITH DESCENDERbeHOOK",
   "beMIDDLE HOOKbeTAILxMy WITH TAILxNy WITH DESCENDERbeHOOKbeLEFT HOOKbeMIDDLE HOOKbeTAILxR",
   "y WITH TICKxSy WITH DESCENDERwFITAwGHEz WITH DESCENDERbfMIDDLE HOOKbfSTROKEbl AND HOOKbfUPTURN",
   "xJEwHAy WITH DESCENDERbeHOOKbeSTROKEyRD SIGNxWEwIx WITH DIAERESISbdGRAVEbdMACRONxEy WITH BREVE",
   "beGRAVExOyTAzIFIED AbfBIG YUSbfCLOSED LITTLE YUSbfEbfLITTLE YUSbfYATxZHITSA",
   "bd WITH DOUBLE GRAVE ACCENTwJEwKAy WITH DESCENDERbeHOOKbeSTROKEbeVERTICAL STROKExHAKASSIAN CHE",
   "xJExOMI DEbcJEbcZJEbbLJEbbNJEbbSJEbbTJEbbZJEyPPAxSIwLHAxITTLE YUSxJExONG-LEGGED DEwMONOCULAR O",
   "baGRAPH UKwNARROW OxEUTRAL YERxJEwOx WITH DIAERESISxMEGAbb WITH TITLOxTwPALOCHKAxE",
   "y WITH DESCENDERbeMIDDLE HOOKxSIwQAwREVERSED DZEbfTSEbfYUbfZExHAxOUND OMEGAbbED VEwSCHWA",
   "bb WITH DIAERESISxEMISOFT SIGNxHAyCHAyHAba WITH DESCENDERyORT Ibd WITH TAILbcUyWExOFT DEbbEL",
   "bcMbbSIGNxTRAIGHT Ubg WITH STROKEwTALL HARD SIGNbbTEbbYATxCHExEy WITH DESCENDERbeMIDDLE HOOK",
   "xHREE-LEGGED TExSEyHEySEyWExWEwUx WITH DIAERESISbeOUBLE ACUTEbdMACRONxKyRAINIAN IExNBLENDED UK",
   "wVEwWExIDE ESwYAyEyTxERUba WITH BACK YERbgDIAERESISxIxNxUwZEy WITH DESCENDERbfIAERESISyMLYAxHE",
   "z WITH BREVEbfDESCENDERbgIAERESISyWEqIGATURE A IEyEN GHEyTE TSEjTHOUSANDS SIGNaDAGGERg KNIFE",
   "hWITH LEFT GUARDmRIGHT GUARDcLET SYMBOLcNCERdGOcRK SHADEgUNGLASSEScSH SYMBOLfWITH LEFT UPTURN",
   "eED LOW LINEhOVERLINEhTRIANGLE-HEADED RIGHTWARDS ARROWcTA LINK ESCAPEbC1c2c3c4cSbEAF PERSON",
   "cCIDUOUS TREEeMAL EXPONENT SYMBOLiSEPARATOR KEY SYMBOLdREASE FONT SIZE SYMBOLcERcGREE CELSIUS",
   "hFAHRENHEIThSIGNcLdETEdIVERY TRUCKdTA EQUAL TOcNTISTRY SYMBOL LIGHT DOWN AND HORIZONTAL",
   "bq WITH CIRCLEbwTRIANGLEbwWAVExUP AND HORIZONTALbo WITH CIRCLEbuTRIANGLEbuWAVE",
   "xVERTICAL AND BOTTOM LEFTbrRIGHTbkTOP LEFTboRIGHTbkWAVEbgWITH CIRCLEblTRIANGLEcPARTMENT STORE",
   "cRELICT HOUSE BUILDINGcSCENDING NODEdERET CAPITAL LETTER AYxBEExCHEExDEExEFyLyMyNzGyRySzHyTHyW",
   "xGAYxHxJEExKAYxLONG AbdHbcEbcIbcObdOxOIyWxPEExSHORT AbeHbdEbdIbdObeOxTEEyHEExVEExWUxYEExZEE",
   "yHEEiSMALL LETTER AYvBEEvCHEEvDEEvEFwLwMwNxGwRwSxHwTHwWvGAYvHvJEEvKAYvLONG AbbHbaEbaIbaObbOvOI",
   "wWvPEEvSHORT AbcHbbEbbIbbObcOvTEEwHEEvVEEvWUvYEEvZEEwHEEfTg ISLANDdKTOP COMPUTERiWINDOW",
   "cVANAGARI ABBREVIATION SIGNmCUTE ACCENTlCARETlDANDAmIGIT EIGHTrFIVEsOURrNINErONErSEVENsIX",
   "rTHREEsWOrZEROmOUBLE DANDAlGAP FILLERmRAVE ACCENTlHEADSTROKElJAIN OMlLETTER AtAtItUtWtYsBAtBA",
   "tHAsCAuNDRA AzEzOtHAsDAtDAuDAvHAuHAtHAsEsFAsGAtGAtHAuHAtLOTTAL STOPsHAtEAVY YAsItIsJAtHAtJAsKA",
   "tHAuHAsLAtLAuLAsMAuRWARI DDAsNAtGAtNAuNAtYAsOtEtOEsPAtHAsQAsRAtHAtRAsSAtHAuORT AyEyOtSAsTAtHA",
   "tTAuHAsUtEtUuEsVAtOCALIC LbbLbaRbbRsYAtYAsZAtHAlOMlSIGN ANUSVARArVAGRAHAqCANDRABINDU",
   "bb AVAGRAHAbcTHREEbdWObcVIRAMAqDOUBLE CANDRABINDU VIRAMAqHIGH SPACING DOTqINVERTED CANDRABINDU",
   "qNUKTAqPUSHPIKAqSIDDHAMrPACING CANDRABINDUqVIRAMAsSARGAmTRESS SIGN ANUDATTAxUDATTA",
   "lVOWEL SIGN AAxIxUxWxYwCANDRA EbdLONG EbdOwEwIxIwOxExOEwPRISHTHAMATRA EwSHORT EbcOwUxExUyE",
   "wVOCALIC LbfLbeRbfRdICE CONTROL FOURpONEpSTRINGpTHREEqWObIAERESISdMETER SIGNeOND OPERATOR",
   "iSHAPE WITH A DOT INSIDEiTARGETiWITH BOTTOM HALF BLACKnLEFT HALF BLACKnRIGHT HALF BLACK",
   "nTOP HALF BLACKcE FACE-1j2j3j4j5j6dSEL LOCOMOTIVEcFFERENCE BETWEENcGIT EIGHTl COMMAmFULL STOP",
   "gFIVEk COMMAlFULL STOPhOURk COMMAlFULL STOPgNINEk COMMAlFULL STOPgONEj COMMAkFULL STOPgSEVEN",
   "l COMMAmFULL STOPhIXj COMMAkFULL STOPgTHREEl COMMAmFULL STOPhWOj COMMAkFULL STOPgZEROk COMMA",
   "lFULL STOPdRAM FOR EARTHqLY HEAVENuUMANlGREATER YANGuINlHEAVENLY EARTHmUMAN EARTHlLESSER YANG",
   "tINcMENSION ORIGINcNGBAT CIRCLED SANS-SERIF DIGIT EIGHTbhFIVEbiOURbhNINEbhONEbhSEVENbiIX",
   "bhTHREEbiWObhZERObbNUMBER TENiNEGATIVE CIRCLED DIGIT EIGHTbfFIVEbgOURbfNINEbfONEbfSEVENbgIX",
   "bfTHREEbgWOzNUMBER TENzSANS-SERIF DIGIT EIGHTbqFIVEbrOURbqNINEbqONEbqSEVENbrIXbqTHREEbrWO",
   "bqZERObkNUMBER TENcRECT CURRENT SYMBOL FORM TWOhHITcSABLED CARePPOINTED BUT RELIEVED FACEnFACE",
   "dCONTINUOUS UNDERLINE SYMBOLdGUISED FACEcTTO MARKcVES AKURU DIGIT EIGHTsFIVEtOURsNINEsONE",
   "sSEVENtIXsTHREEtWOsZEROnOUBLE DANDAmEND OF TEXT MARKmGAP FILLERmINITIAL RAmLETTER AuAtBAuHAtCA",
   "uHAtDAuDAvHAuHAtEtGAuHAtHAtIuItJAtKAuHAtLAuLAtMAtNAuGAuNAuYAtOtPAuHAtRAtSAuHAuSAtTAuHAuTAtUuU",
   "tVAtYAuYAtZAmMEDIAL RAtYAmPREFIXED NASAL SIGNmSIGN ANUSVARArCANDRABINDUrHALANTArNUKTAmVIRAMA",
   "nOWEL SIGN AAyIxExIyIxOxUyUdIDESeNG MASKeSION SIGNkLASHjTIMESdORCE SYMBOLcYA LAMPcZZY FACE",
   "gSYMBOLbLEbNA DOUBLE HELIXbO NOT LITTER SYMBOLcCUMENTi WITH PICTUREoTEXTs AND PICTUREcDO",
   "cES NOT CONTAIN AS MEMBERuNORMAL SUBGROUPbj OR EQUALjDIVIDEp WITH REVERSED NEGATION SLASH",
   "jFORCEjPRECEDEq OR EQUALlOVEjSUCCEEDq OR EQUALcGd FACEdRA ABBREVIATION SIGNgLETTER AoAoIoUnBA",
   "oHAnCAoHAnDAoDApHAoHAnEnGAoHAnHAnIoInJAoHAnKAoHAnLAnMAnNAoGAoNAoYAnOnPAoHAnRAoRAnSAoHAoSAnTA",
   "oHAoTApHAnUoUnVAnYAgSIGN ANUSVARAlNUKTAlVIRAMAnSARGAgVOWEL SIGN AAsIsUrErIsIrOrUsUrVOCALIC R",
   "baRcLLAR SIGNdPHINcMINO TILE HORIZONTAL BACKw-00-00bb1bb2bb3bb4bb5bb6y1-00bb1bb2bb3bb4bb5bb6",
   "y2-00bb1bb2bb3bb4bb5bb6y3-00bb1bb2bb3bb4bb5bb6y4-00bb1bb2bb3bb4bb5bb6y5-00bb1bb2bb3bb4bb5bb6",
   "y6-00bb1bb2bb3bb4bb5bb6mVERTICAL BACKu-00-00z1z2z3z4z5z6w1-00z1z2z3z4z5z6w2-00z1z2z3z4z5z6",
   "w3-00z1z2z3z4z5z6w4-00z1z2z3z4z5z6w5-00z1z2z3z4z5z6w6-00z1z2z3z4z5z6cNG SIGNcORcT ABOVEeMINUS",
   "eOPERATORePLUSdTED CIRCLEiROSShFENCEhLINE FACEhOBELOShRIGHT-POINTING ANGLEhSOLIDUSiQUARE",
   "hTRANSPOSITION MARKERcUBLE ACUTE ACCENThCIRCLED DIGIT EIGHTvFIVEwOURvNINEvONEvSEVENwIXvTHREE",
   "wWOpNUMBER TENiOLON EQUALiURLY LOOPhDAGGERiOWN TACKhEXCLAMATION MARKhHIGH-REVERSED-9 QUOTATION",
   " MARKiYPHENhINTEGRALlRSECTIONhLEFT ARC GREATER-THAN BRACKETiOGICAL ANDpORjW LINE",
   "k-9 QUOTATION MARKlREVERSED-9 QUOTATION MARKhNESTED GREATER-THANoLESS-THANx WITH UNDERBAR",
   "hOBLIQUE HYPHENhPLUSiRECEDESjIMEm QUOTATION MARKhQUESTION MARKhRIGHT ARC LESS-THAN BRACKET",
   "hSOLIDUS OPERATORiQUARE INTERSECTIONoUNIONiTACKED COMMAjROKE NOT SIGNiUBSETjCCEEDSjPERSET",
   "jSPENSION MARKhUNIONiP TACKhVERTICAL BARt DOUBLE LEFT TURNSTILEbbRIGHT TURNSTILE",
   "uLEFT TURNSTILEqLINEhWAVY OVERLINEg-ENDED MULTIMAPhLINE EQUAL TO OR GREATER-THANyLESS-THAN",
   "mSLANTED EQUAL TO OR GREATER-THANbgLESS-THANuGREATER-THAN OR EQUAL TOuLESS-THAN OR EQUAL TO",
   "hSTRUCK CAPITAL CwGAMMAwHwNwPxIwQwRwZoITALIC CAPITAL DvSMALL DbbEbbIbbJoN-ARY SUMMATION",
   "oSMALL GAMMAuPIgD FEMALE SIGNiMALE SIGNiSYMBOLdGHNUTcVE OF PEACEcWN ARROWHEADfFISH TAIL",
   "fRIGHT DIAGONAL ELLIPSISfTACKj WITH CIRCLE BELOWe-POINTING RED TRIANGLEoSMALL RED TRIANGLE",
   "oTRIANGLE WITH LEFT HALF BLACKbcRIGHT HALF BLACKeWARD FACING HOOKu WITH DOTqNOTCHED HOOK",
   "bc WITH DOTiS ANCORAlRROWp AND RIGHT ONE EIGHTH BLOCKqFROM BARqLEFTWARDS OF UPWARDS ARROW",
   "qTO BARqWITH CORNER LEFTWARDSvDOUBLE STROKEvEQUILATERAL ARROWHEADvHORIZONTAL STROKE",
   "vLARGE TRIANGLE ARROWHEADvMEDIUM TRIANGLE ARROWHEADvNOTCHED TAILvSMALL EQUILATERAL ARROWHEAD",
   "bbTRIANGLE ARROWHEADvTIP LEFTWARDSzRIGHTWARDSkBLACK ARROWqCIRCLED WHITE ARROWkCOMPRESSED ARROW",
   "kDASHED ARROWlOUBLE ARROWkFINGER-POST ARROWkHARPOON WITH BARB LEFT BESIDE DOWNWARDS HARPOON WI",
   "TH BARB RIGHTboUPWARDS HARPOON WITH BARB RIGHTbhFROM BARbhTO BARbgWARDSbcRIGHT FROM BAR",
   "biTO BARbhWARDSlEAVY ARROWqCOMPRESSED ARROWkPAIRED ARROWSkQUADRUPLE ARROWkROCKET",
   "kSANS-SERIF ARROWlQUARED ARROWkTRIANGLE ARROWHEADs-HEADED ARROWbf LEFTWARDS OF UPWARDS TRIANGL",
   "E-HEADED ARROWbgTO BARbgWITH BOLD SHAFTblDOUBLE HORIZONTAL STROKEblHEAVY SHAFT",
   "blLONG TIP LEFTWARDSbuRIGHTWARDSblMEDIUM SHAFTblNARROW SHAFTblVERY HEAVY SHAFTbaDASHED ARROW",
   "baPAIRED ARROWSbaZIGZAG ARROWnPLE ARROWlWO HEADED ARROWn-HEADED ARROW WITH TRIANGLE ARROWHEADS",
   "kWHITE ARROWv WITHIN TRIANGLE ARROWHEADkZIGZAG ARROWbRACHMA SIGNdFTING POINT RIGHTWARDS ARROW",
   "dGONg FACEcESScIVE SLOW SIGNcOMEDARY CAMELdOLING FACEdP OF BLOODeLETcUM WITH DRUMSTICKSbUCK",
   "cMPLINGcPLOYAN AFFIX ATTACHED E HOOKyI HOOKyLEFT-TO-RIGHT SECANTySECANTyTAILbaNGENTbf HOOK",
   "pHIGH ACUTEuCIRCLEuDOTuGRAVEuLINEvONG GRAVEuTIGHT ACUTEuVERTICALbc SECANTuWAVE",
   "pLEFT HORIZONTAL SECANTqOW ACUTEuRROWtCIRCLEtDOTtGRAVEtLINEuONG GRAVEtTIGHT ACUTEtVERTICAL",
   "bb SECANTtWAVEpMID HORIZONTAL SECANTtVERTICAL SECANTpRIGHT HORIZONTAL SECANTjDOUBLE MARK",
   "jLETTER ArOUqBqDr SrHqErErUqFr NqGr R SqHrLqIrEqJr Mt SsNt SsSt WITH DOTsWITH DOT",
   "baS INSIDE AND ABOVEqKr MsR SrKqLrHrONG IvUqMr Nt SsSsWITH DOTqNr Mt SsSsWITH DOTrASAL AwIwOwU",
   "qOrArOHrUrWqPr NrERNIN AMyNqRr SrHrOMANIAN IzUqSr Jt SsKt RsMsNsPt RsSsTt RsWITH DOTba BELOW",
   "rHORT IrLOAN ANwDHwEExHxNwJwONxWwUqTr R SsSrHqUr NrHrIqVrOCALIC MqWr RrArEIrHrIrOsWqXrWqYE",
   "jPUNCTUATION CHINOOK FULL STOPjSIGN O WITH CROSSjTHICK LETTER SELECTORbVDaE-MAIL SYMBOLbAGLEcR",
   "d OF MAIZEhRICEeWITH HEARING AIDdTHf GLOBE AMERICASnSIA-AUSTRALIAmEUROPE-AFRICAhROUND",
   "cST SYRIAC CROSSbDITORIAL CORONISbGGcYPTIAN HIEROGLYPH A001x2x3x4x5yAx6yAyBx7x8x9w10x1x2x3x4yA",
   "x5x6x7yAx8x9w20x1x2x3x4x5x6x7x8x9w30x1x2yAx3x4x5x6x7x8x9w40yAx1x2yAx3yAx4x5yAx6x7x8x9w50x1x2x3",
   "x4x5x6x7x8x9w60x1x2x3x4x5x6x7x8x9w70vA001y2y3y4y5y6y7zAzBy8y9x10y1y2y3y4y5y6y7y8y9x20y1y2y3y4",
   "y5y6y7y8y9x30y1y2uB001x2x3x4x5yAx6x7x8x9vEGIN SEGMENTuC001x2yAyByCx3x4x5x6x7x8x9w10yAx1x2x3x4",
   "x5x6x7x8x9w20x1x2x3x4uD001x2x3x4x5x6x7x8yAx9w10x1x2x3x4x5x6x7x8x9w20x1x2x3x4x5x6x7yAx8x9w30x1",
   "yAx2x3x4yAx5x6x7x8x9w40x1x2x3x4x5x6yAx7x8yAx9w50yAyByCyDyEyFyGyHyIx1x2yAx3x4yAx5x6x7x8x9w60x1",
   "x2x3x4x5x6x7yAyByCyDyEyFyGyHuE001x2x3x4x5x6x7x8yAx9yAw10x1x2x3x4x5x6yAx7yAx8x9w20yAx1x2x3x4x5",
   "x6x7x8yAx9w30x1x2x3x4yAx6x7x8vND SEGMENTuF001yAx2x3x4x5x6x7x8x9w10x1x2x3yAx4x5x6x7x8x9w20x1yA",
   "x2x3x4x5x6x7x8x9w30x1yAx2x3x4x5x6x7yAx8yAx9w40x1x2x3x4x5yAx6yAx7yAx8x9w50x1yAyByCx2x3uG001x2x3",
   "x4x5x6yAx7yAyBx8x9w10x1yAx2x3x4x5x6x7x8x9w20yAx1x2x3x4x5x6yAx7x8x9w30x1x2x3x4x5x6yAx7yAx8x9w40",
   "x1x2x3yAx4x5yAx6x7x8x9w50x1x2x3x4uH001x2x3x4x5x6yAx7x8vORIZONTAL JOINERuI001x2x3x4x5yAx6x7x8x9",
   "yAw10yAx1yAx2x3x4x5vNSERT AT BOTTOM ENDblSTARTbeTOP ENDbiSTARTuK001x2x3x4x5x6x7x8uL001x2yAx3x4",
   "x5x6yAx7x8uM001yAyBx2x3yAx4x5x6x7x8x9w10yAx1x2yAyByCyDyEyFyGyHx3x4x5yAx6yAx7yAx8x9w20x1x2yAx3",
   "x4yAx5x6x7x8yAx9w30x1yAx2x3yAyBx4x5x6x7x8x9w40yAx1x2x3x4uN001x2x3x4x5x6x7x8x9w10x1x2x3x4x5x6x7",
   "x8yAyBx9w20x1x2x3x4x5yAx6x7x8x9w30x1x2x3yAx4yAx5yAx6x7yAx8x9w40x1x2vL001y2y3y4y5zAy6y7y8y9x10",
   "y1y2y3y4y5y6y7zAy8y9x20vU001y2y3y4y5y6y7y8y9x10zAy1zAy2y3y4y5y6y7y8zAy9x20y1y2zAuO001yAx2x3x4",
   "x5yAx6yAyByCyDyEyFx7x8x9w10yAyByCx1x2x3x4x5x6x7x8x9yAw20yAx1x2x3x4yAx5yAx6x7x8x9yAw30yAx1x2x3",
   "yAx4x5x6yAyByCyDx7x8x9w40x1x2x3x4x5x6x7x8x9w50yAyBx1vVERLAY MIDDLEuP001yAx2x3yAx4x5x6x7x8x9w10",
   "x1uQ001x2x3x4x5x6x7uR001x2yAx3yAyBx4x5x6x7x8x9w10yAx1x2x3x4x5x6yAx7x8x9w20x1x2x3x4x5x6x7x8x9",
   "uS001x2yAx3x4x5x6yAx7x8x9w10x1x2x3x4yAyBx5x6x7yAx8x9w20x1x2x3x4x5x6yAyBx7x8x9w30x1x2x3x4x5yAx6",
   "x7x8x9w40x1x2x3x4x5x6uT001x2x3yAx4x5x6x7yAx8yAx9yAw10x1yAx2x3x4x5x6yAx7x8x9w20x1x2x3x4x5x6x7x8",
   "x9w30x1x2yAx3yAx4x5x6uU001x2x3x4x5x6yAyBx7x8x9w10x1x2x3x4x5x6x7x8x9w20x1x2x3yAx4x5x6x7x8x9yA",
   "w30x1x2yAx3x4x5x6x7x8x9w40x1x2uV001yAyByCyDyEyFyGyHyIx2yAx3x4x5x6x7yAyBx8x9w10x1yAyByCx2yAyBx3",
   "x4x5x6x7x8x9w20yAyByCyDyEyFyGyHyIyJyKyLx1x2x3yAx4x5x6x7x8yAx9yAw30yAx1yAx2x3yAx4x5x6x7yAx8x9",
   "w40yAvERTICAL JOINERuW001x2x3yAx4x5x6x7x8x9yAw10yAx1x2x3x4yAx5x6x7yAx8yAx9w20x1x2x3x4yAx5uX001",
   "x2x3x4yAyBx5x6yAx7x8yAuY001yAx2x3x4x5x6x7x8uZ001x2yAyByCyDx3yAyBx4yAx5yAx6x7x8x9w10x1x2x3x4x5",
   "yAyByCyDyEyFyGyHyIx6yAyByCyDyEyFyGyHbIGHT PETALLED OUTLINED BLACK FLORETTEhOINTED BLACK STAR",
   "oPINWHEEL STARoRECTILINEAR BLACK STARgSPOKED ASTERISKgTEARDROP-SPOKED PROPELLER ASTERISK",
   "fH NOTEbJECT SYMBOLbLBASAN LETTER ApBEpCEqHEpDEqHEpEqIpFEpGEqHAMMArEqJEpHEpIpJEpKEqHEpLEqLEpME",
   "pNAqDEqEqJEpOpPEpQEpREqREpSEqHEpTEqHEpUpVEpXEpYpZEqHEcECTRIC ARROWjLIGHT BULBjPLUGjTORCH",
   "iAL INTERSECTIONdMENT OFk OPENING DOWNWARDStUPWARDSlWITH DOT ABOVEqLONG HORIZONTAL STROKE",
   "qOVERBARqTWO HORIZONTAL STROKESqUNDERBARqVERTICAL BAR AT END OF HORIZONTAL STROKEdPHANTdVATOR",
   "cFcYMAIC LETTER ALEPHqYINpBETHpDALETHpGIMELpHErTHpKAPHpLAMEDHpMEMpNUNpPEpQOPHpRESHpSADHErMEKH",
   "qHINpTAWqETHpWAWpYODHpZAYINjIGATURE ZAYIN-YODHbM DASHdQUADdSPACEcOJI COMPONENT BALDqCURLY HAIR",
   "qRED HAIRqWHITE HAIRgMODIFIER FITZPATRICK TYPE-1-2bg3bg4bg5bg6cPHASIS SYMBOLdTY DOCUMENTgNEST",
   "hOTEk PADnGEgPAGEkSgSETj WITH LEFT ARROW ABOVEpOVERBARpRIGHT ARROW ABOVEpSMALL CIRCLE ABOVE",
   "bN DASHdQUADdSPACEcD OF GUARDED AREAhLINEhMEDIUMhPROOFkTECTED AREAhSELECTED AREAhTEXT",
   "iRANSMISSIONt BLOCKeWITH LEFTWARDS ARROW ABOVEcQdUIRYcTER SYMBOLcVELOPE",
   "i WITH DOWNWARDS ARROW ABOVEoLIGHTNINGbOLcMcTbPAbQUAL AND PARALLEL TOgTO BY DEFINITION",
   "jOR GREATER-THANmLESS-THANmPRECEDESmSUCCEEDSfS COLONhSIGNl ABOVE LEFTWARDS ARROWsPLUS SIGN",
   "sRIGHTWARDS ARROWsTILDE OPERATORnND SLANTED PARALLELbg WITH TILDE ABOVEmWITH BUMPY ABOVE",
   "rDOT BELOWrINFINITY BELOWrTWO DOTS ABOVE AND TWO DOTS BELOWhWITH ASTERISKdIANGULAR TO",
   "eVALENT TOlWITH FOUR DOTS ABOVEbRASE TO THE LEFTnRIGHTcIS FORM ONEkTWOcROR-BARRED BLACK CIRCLE",
   "tDIAMONDtSQUAREnWHITE CIRCLEtDIAMONDtSQUAREbSAcCdAPEcTIMATED SYMBOLiSbTBcHIOPIC COLON",
   "lMBINING GEMINATION AND VOWEL LENGTH MARKbeMARKtVOWEL LENGTH MARKmMAjDIGIT EIGHTpFIVEqOURpNINE",
   "pONEpSEVENqIXpTHREEqWOjFULL STOPjNUMBER EIGHTYqFIFTYrORTYqHUNDREDqNINETYqSEVENTYrIXTYqTEN",
   "t THOUSANDrHIRTYrWENTYjPARAGRAPH SEPARATORkREFACE COLONjQUESTION MARKjSECTION MARKlMICOLON",
   "kYLLABLE BAuAtBAvAuEvEuIuOuUtEuEtItOuAtUtWAuEvEuIsCAuAtCAvAuEvEuHAwAvEwEvHAxAwExEwIwOwUvIvOvU",
   "uIuOuUtEuEtHAvAuEvEuIuOvAuUuWAtItOuAtUtWAsDAuAtDAvAuEvEuHAAvEwEvIvOvUuIuOvAuUuWAtEuEtItOuAtU",
   "tWAtZAAuEvEuIuOuUsFAuAtEuEtItOtUtWAuEvEuItYAsGAuAtEuEtGAvAuEvEuIuOuUuWAwAvEwEvItItLOTTAL AbbA",
   "baEbbEbaIbaObbAbaUbaWAtOuAtUuRAGE BWEEbbIzFWEEbbIzGWEbcEbbIzHHWAzKWEbcEbbIzMWEEbbIzPWEEbbIzQWE",
   "bcEbbItWAvAuEvEuItYAvAuEvEuIuOuUsHAuAtEuEtHAvAuEvEuIuOuUuWAvEwEvIuYAwAvEwEvIvOvUtItOuAtUsJAuA",
   "tEuEtItOuAtUtWAsKAuAtEuEtItOuAtUtWAvAuEvEuItXAvAuEvEuIuOuUuWAwAvEwEvItYAvAuEvEuIuOuUsLAuAtEuE",
   "tItOuAtUtWAsMAuAtEuEtItOuAtUtWAuEvEuItYAsNAuAtEuEtItOuAtUtWAtYAvAuEvEuIuOvAuUuWAsPAuAtEuEtHAvA",
   "vRYNGEAL AbeAbdEbeEbdIbdObdUuEvEuIuOvAuUuWAtItOuAtUtWAuEvEuIsQAuAtEuEtHAvAuEvEuIuOuUuWAwAvEwE",
   "vItItOuAtUtWAvAuEvEuItYAvAuEvEuIuOuUsRAuAtEuEtItOuAtUtWAtYAsSAuAtEuBATBEIT BWAbcFWAbcMWAbcPWA",
   "uEtHAvAuEvEuIuOvAuUuWAtItOuAtSAvAuEvEuIuOuUtUtWAtZAvAuEvEuIuOuUuWAsTAuAtEuEtHAvAuEvEuIuOvAuU",
   "uWAtItOuAtSAvAuEvEuIuOuUuWAtTHAAvEwEvIvOvUtUtWAtZAvAuEvEuIuOvAuUsVAuAtEuEtItOtUtWAsWAuAtEuEtI",
   "tOuAtUsXAuAtEuEtItOuAtUtWAvAuEvEuItYAvAuEvEuIuOuUsYAuAtEuEtItOuAtUsZAuAtEuEtHAvAuEvEuIuOuUuWA",
   "tItOuAtUtWAtZAvAuEvEuIuOuUjTONAL MARK CHIRETuDERETz-HIDETvIFATuHIDETuKENATvURTuRIKRIK",
   "uSHORT RIKRIKuYIZETjWORDSPACEcXbULER CONSTANTcRO SIGNe-CURRENCY SIGNePEAN CASTLEjPOST OFFICE",
   "bVERGREEN TREEbXCESSdLAMATION MARKmQUESTION MARKcPRESSIONLESS FACEcTENDED ARABIC-INDIC DIGIT E",
   "IGHTbcFIVEbdOURbcNINEbcONEbcSEVENbdIXbcTHREEbdWObcZEROdRATERRESTRIAL ALIEN",
   "eEMELY HEAVY FIVE SPOKED ASTERISKqGREEK CROSSqSALTIRErIX SPOKED ASTERISKqWHITE CIRCLEwSQUARE",
   "bYEdGLASSESdSaFACE HOLDING BACK TEARSfMASSAGEfPALMfSAVOURING DELICIOUS FOODgCREAMING IN FEAR",
   "fTHROWING A KISSfWITH COLD SWEATmWBOY HATkDIAGONAL MOUTHkFINGER COVERING CLOSED LIPS",
   "kHEAD-BANDAGEkLOOK OF TRIUMPHkMEDICAL MASKlONOCLEkNO GOOD GESTUREkOK GESTURElNE EYEBROW RAISED",
   "lPEN EYES AND HAND OVER MOUTHpMOUTHu AND COLD SWEATvVOMITINGkPARTY HORN AND PARTY HAT",
   "lEEKING EYElLEADING EYESkROLLING EYESkSTUCK-OUT TONGUEba AND TIGHTLY-CLOSED EYESbfWINKING EYE",
   "kTEARS OF JOYlHERMOMETERkUNEVEN EYES AND WAVY MOUTHjOUT MOUTHdSIMILE SIGNdTORYcIRYcLAFEL",
   "dLEN LEAFeING DIAGONAL CROSSING NORTH EAST ARROWbaRISING DIAGONALrIN WHITE CIRCLE IN BLACK SQU",
   "AREcMILYcRSI SYMBOLcTHER CHRISTMAScX ICONeMACHINEbEARFUL FACEdTHERcMALE SIGN",
   "dININE ORDINAL INDICATORcNCERcRRIS WHEELeYbFbIELD HOCKEY STICK AND BALLcGURE DASHhSPACE",
   "cLE CABINETfFOLDERfSEPARATORdM FRAMESfPROJECTORcNITE PART INTEGRALcREe ENGINEgXTINGUISHER",
   "eCRACKEReWORK SPARKLERiSdST PLACE MEDALgQUARTER MOONs SYMBOLtWITH FACEgSTRONG ISOLATEcSH",
   "e CAKE WITH SWIRL DESIGNeEYEeING POLE AND FISHdTED HAND SIGNcVE DOT MARKjPUNCTUATION",
   "bLAG IN HOLEdMINGOdT SHOEeBREADeNESScEUR-DE-LISdXED BICEPScOPPY DISKdRAL HEARTdWER",
   "g PLAYING CARDSiUNCTUATION MARKcUSHED FACEcYdING DISChENVELOPEhSAUCERbOGdGYcLDERcNDUEcOT",
   "ePRINTScR ALLdCESdK AND KNIFEo WITH PLATEeED PARAGRAPHOSeINGdM FEEDdTUNE COOKIEcUNTAIN",
   "dR BALLOON-SPOKED ASTERISKfCLUB-SPOKED ASTERISKgORNER ARROWS CIRCLING ANTICLOCKWISEfDOT MARK",
   "jPUNCTUATIONfLEAF CLOVERfPOINTED BLACK STARfTEARDROP-SPOKED ASTERISKe-PER-EM SPACEeTH ROOT",
   "cX FACEbRACTION NUMERATOR ONEjSLASHdME WITH AN XlPICTURElTILEScEEZING FACEdNCH FRANC SIGNjIES",
   "cIED SHRIMPcOG FACEdNT-FACING BABY CHICKgTILTED SHADOWED WHITE RIGHTWARDS ARROWdWN",
   "fING FACE WITH OPEN MOUTHbScIbUEL PUMPcLL BLOCKfMOON SYMBOLkWITH FACEfOUTER JOINfSTOP",
   "eWIDTH AMPERSANDlPOSTROPHElSTERISKkBROKEN BARkCENT SIGNlIRCUMFLEX ACCENTlOLONmMMAoERCIAL AT",
   "kDIGIT EIGHTqFIVErOURqNINEqONEqSEVENrIXqTHREErWOqZEROlOLLAR SIGNkEQUALS SIGNlXCLAMATION MARK",
   "kFULL STOPkGRAVE ACCENTmEATER-THAN SIGNkHYPHEN-MINUSkLATIN CAPITAL LETTER AbfBbfCbfDbfEbfFbfG",
   "bfHbfIbfJbfKbfLbfMbfNbfObfPbfQbfRbfSbfTbfUbfVbfWbfXbfYbfZqSMALL LETTER AbdBbdCbdDbdEbdFbdGbdH",
   "bdIbdJbdKbdLbdMbdNbdObdPbdQbdRbdSbdTbdUbdVbdWbdXbdYbdZlEFT CURLY BRACKETpPARENTHESIS",
   "pSQUARE BRACKETpWHITE PARENTHESISmSS-THAN SIGNlOW LINEkMACRONkNOT SIGNlUMBER SIGNkPERCENT SIGN",
   "lLUS SIGNlOUND SIGNkQUESTION MARKmOTATION MARKkREVERSE SOLIDUSlIGHT CURLY BRACKETqPARENTHESIS",
   "qSQUARE BRACKETqWHITE PARENTHESISkSEMICOLONlOLIDUSkTILDEkVERTICAL LINEkWON SIGNkYEN SIGN",
   "cNCTION APPLICATIONdERAL URNcSEbVS1d2d3d4aGAME DIEcRLICbEARe WITH HANDLESjOUT HUBcM STONEdINI",
   "cNIEcOMETRIC PROPORTIONjALLY EQUAL TOrIVALENT TOdRGIAN CAPITAL LETTER AENzNyBANyCANzHARbaINzIL",
   "yDONyENyGANzHANyHAEbaRzEzIEzOEyINyJHANzILyKANzHARyLASyMANyNARyONyPARzHARyQARyRAEySANzHINyTAN",
   "baRyUNyVINyWEyXANyYNyZENzHARjLETTER AENrINrNqBANqCANrHARsINrILqDONqELIFIrNqFIqGANrHANqHAEsR",
   "tD SIGNrErIErOEqINqJHANrILqKANrHARqLABIAL SIGNsSqMANqNARqONqPARrHARqQARqRAEqSANrHINqTANsR",
   "rURNED GANqUNqVINqWEqXANqYNqZENrHARjMTAVRULI CAPITAL LETTER AENbiINbiNbhBANbhCANbiHARbjINbiIL",
   "bhDONbhELIFIbiNbhFIbhGANbiHANbhHAEbjRbkD SIGNbiEbiIEbiOEbhINbhJHANbiILbhKANbiHARbhLABIAL SIGN",
   "bjSbhMANbhNARbhONbhPARbiHARbhQARbhRAEbhSANbiHINbhTANbjRbiURNED GANbhUNbhVINbhWEbhXANbhYNbhZEN",
   "biHARjPARAGRAPH SEPARATORjSMALL LETTER AENxNwBANwCANxHARyINxILwDONwENwGANxHANwHAEyRxExIExOEwIN",
   "wJHANxILwKANxHARwLASwMANwNARwONwPARxHARwQARwRAEwSANxHINwTANyRwUNwVINwWEwXANwYNwZENxHAR",
   "cRMAN PENNY SIGNcTA MARKbHOSTbIMEL SYMBOLcRAFFE FACEdLeS SYMBOLbLAGOLITIC CAPITAL LETTER AZU",
   "baBIG YUSbbUKYbaCAUDATE CHRIVIbbHRIVIbaDJERVIbbOBRObbZELObaFITAbbRITUbaGLAGOLIbaHERUbaI",
   "bbNITIAL IZHEbbOTATED BIG YUSbiSMALL YUSbbZHEbdITSAbaKAKObaLATINATE MYSLITEbbJUDIJEbaMYSLITE",
   "baNASHIbaONUbbTUbaPEbbOKOJIbaRITSIbaSHAbcTAbePICbbLOVObbMALL YUSbj WITH TAILbbPIDERY HA",
   "baTROKUTASTI AbbSIbbVRIDObaUKUbaVEDEbaYATIbbERIbdUbcSTUbbObbUbaZEMLJAbbHIVETElSMALL LETTER AZU",
   "yBIG YUSzUKYyCAUDATE CHRIVIzHRIVIyDJERVIzOBROzZELOyFITAzRITUyGLAGOLIyHERUyIzNITIAL IZHE",
   "zOTATED BIG YUSbgSMALL YUSzZHEbbITSAyKAKOyLATINATE MYSLITEzJUDIJEyMYSLITEyNASHIyONUzTUyPE",
   "zOKOJIyRITSIySHAbaTAbcPICzLOVOzMALL YUSbh WITH TAILzPIDERY HAyTROKUTASTI AzSIzVRIDOyUKUyVEDE",
   "yYATIzERIbbUbaSTUzOzUyZEMLJAzHIVETEdSS OF MILKcEICH STARKcOBE WITH MERIDIANSdVESdWING STAR",
   "bOAL NETdTcGGLEScLFERcRILLAcTHIC LETTER AHSApIHVUSoBAIRKANoDAGSoEISoFAIHUoGIBAoHAGLpWAIRoIGGWS",
   "pUJAoJERoKUSMAoLAGUSoMANNAoNAUTHSpINE HUNDREDsTYoOTHALoPAIRTHRAoQAIRTHRAoRAIDAoSAUILoTEIWS",
   "pHIUTHoURUSoWINJAbRADUATION CAPdNTHA AU LENGTH MARKiLETTER AqAqIqUpBAqHApCAqHApDAqDArHAqHApEE",
   "pGAqHApHApIqIpJAqHApKAqHApLAqLApMApNAqGAqNAqYApOOpPAqHApRApSAqHAqSApTAqHAqTArHApUqUpVA",
   "qEDIC ANUSVARAvDOUBLE ANUSVARAqOCALIC LyLxRyRpYAiOMiSIGN ANUSVARAoVAGRAHAnCANDRABINDU",
   "oOMBINING ANUSVARA ABOVEnNUKTAnPLUTAnVIRAMApSARGAiVOWEL SIGN AAuIuUtEEtIuItOOtUuUtVOCALIC LbcL",
   "bbRbcRdPESdVE ACCENTcEATER-THAN ABOVE DOUBLE-LINE EQUAL ABOVE LESS-THAN",
   "tLESS-THAN ABOVE DOUBLE-LINE EQUALtRIGHTWARDS ARROWtSIMILAR ABOVE LESS-THANbbOR EQUAL",
   "uLANTED EQUAL ABOVE LESS-THAN ABOVE SLANTED EQUALoND NOT APPROXIMATErSINGLE-LINE NOT EQUAL TO",
   "nBESIDE LESS-THANoUT NOT EQUAL TOyIVALENT TOnCLOSED BY CURVEbc ABOVE SLANTED EQUAL",
   "nEQUAL TO OR LESS-THANnOR APPROXIMATEqEQUAL TOtIVALENT TOqLESS-THANqSLANTED EQUAL TO",
   "bg WITH DOT ABOVEbv LEFTbqINSIDEoVER EQUAL TOrLAPPING LESS-THANnSIGNnWITH CIRCLE INSIDEsDOT",
   "sQUESTION MARK ABOVEdEK ACROPHONIC ATTIC FIFTYbc STATERSbdTALENTSbeHOUSANDbl STATERSzVE",
   "bb HUNDREDbj STATERSbkTALENTSbcSTATERSbcTALENTSbdHOUSANDbk TALENTSxONE DRACHMAbbHALF",
   "bcUNDRED STATERSbjTALENTSbbQUARTERbbTHOUSAND STATERSbkTALENTSxTEN MNASbbSTATERSbbTALENTS",
   "bcHOUSAND STATERSrCARYSTIAN FIVE HUNDREDsYRENAIC TWO DRACHMASrDELPHIC FIVE MNAS",
   "rEPIDAUREAN FIVE HUNDREDbcTWObf DRACHMASrHERAEUM ONE PLETHRONuMIONIAN FIFTYbcONEbcTEN",
   "rMESSENIAN TENrNAXIAN FIVE HUNDREDrSTRATIAN FIFTY MNASrTHESPIAN FIFTYbcVE HUNDREDbfTHOUSAND",
   "baONEbd HUNDREDbeTHOUSANDbaTENbbHIRTYbcREE HUNDREDbbWOsROEZENIAN FIFTYbh ALTERNATE FORMbeVE",
   "bg HUNDREDbcTENbf ALTERNATE FORMhNO TELEIAhROURA SIGNiTABE SIGNgBETA SYMBOL",
   "gCAPITAL DOTTED LUNATE SIGMA SYMBOLoKAI SYMBOLoLETTER ALPHAba WITH DASIAbl AND OXIA",
   "bu AND PROSGEGRAMMENIbqPERISPOMENIcb AND PROSGEGRAMMENIbrROSGEGRAMMENIbqVARIA",
   "bv AND PROSGEGRAMMENIbgMACRONbgOXIAbgPROSGEGRAMMENIbhSILIbl AND OXIAbu AND PROSGEGRAMMENI",
   "bqPERISPOMENIcb AND PROSGEGRAMMENIbrROSGEGRAMMENIbqVARIAbv AND PROSGEGRAMMENIbgTONOSbgVARIA",
   "bhRACHYwRCHAIC SAMPIvBETAvCHIvDELTAvEPSILONbc WITH DASIAbn AND OXIAbsVARIAbiOXIAbiPSILI",
   "bn AND OXIAbsVARIAbiTONOSbiVARIAwTAy WITH DASIAbj AND OXIAbs AND PROSGEGRAMMENIboPERISPOMENI",
   "bz AND PROSGEGRAMMENIbpROSGEGRAMMENIboVARIAbt AND PROSGEGRAMMENIbeOXIAbePROSGEGRAMMENIbfSILI",
   "bj AND OXIAbs AND PROSGEGRAMMENIboPERISPOMENIbz AND PROSGEGRAMMENIbpROSGEGRAMMENIboVARIA",
   "bt AND PROSGEGRAMMENIbeTONOSbeVARIAvGAMMAvHETAvIOTAz WITH DASIAbk AND OXIAbpPERISPOMENIbpVARIA",
   "bgIALYTIKAbfMACRONbfOXIAbfPSILIbk AND OXIAbpPERISPOMENIbpVARIAbfTONOSbfVARIAbgRACHYvKAPPA",
   "vLAMDAvMUvNUvOMEGAba WITH DASIAbl AND OXIAbu AND PROSGEGRAMMENIbqPERISPOMENI",
   "cb AND PROSGEGRAMMENIbrROSGEGRAMMENIbqVARIAbv AND PROSGEGRAMMENIbgOXIAbgPROSGEGRAMMENIbhSILI",
   "bl AND OXIAbu AND PROSGEGRAMMENIbqPERISPOMENIcb AND PROSGEGRAMMENIbrROSGEGRAMMENIbqVARIA",
   "bv AND PROSGEGRAMMENIbgTONOSbgVARIAxICRONbc WITH DASIAbn AND OXIAbsVARIAbiOXIAbiPSILI",
   "bn AND OXIAbsVARIAbiTONOSbiVARIAvPAMPHYLIAN DIGAMMAwHIwIwSIvRHOy WITH DASIAvSANwHOwIGMAvTAU",
   "wHETAvUPSILONbc WITH DASIAbn AND OXIAbsPERISPOMENIbsVARIAbjIALYTIKAbiMACRONbiOXIAbiTONOS",
   "biVARIAbjRACHYvXIvYOTvZETApUNATE SIGMA SYMBOLoREVERSED DOTTED LUNATE SIGMA SYMBOL",
   "xLUNATE SIGMA SYMBOLoTHETA SYMBOLgDASIAl AND OXIAqPERISPOMENIqVARIAhIALYTIKA AND OXIA",
   "uPERISPOMENIuVARIAqTONOShRACHMA SIGNgFIVE OBOLS SIGNhOUR OBOLS SIGNgGRAMMA SIGNgINDICTION SIGN",
   "iSTRUMENTAL NOTATION SYMBOL-1bk1bk2bk3bk4bk7bk8bk9bj2bk3bk4bk5bk6bk7bk9bj30bk2bk6bk7bk8bk9bj4",
   "bk0bk2bk3bk5bk7bk8bk9bj5bk0bk1bk2bk3bk4bj7bj8gKAI SYMBOLiPPA SYMBOLhORONIShYATHOS BASE SIGN",
   "gLETTER ARCHAIC KOPPAnDIGAMMAnKOPPAnSAMPIoMALL CAPITAL GAMMAbbLAMDAbbOMEGAbbPIbcSIbbRHOoTIGMA",
   "nYOThITRA SIGNhOWER NUMERAL SIGNhUNATE EPSILON SYMBOLnSIGMA SYMBOLgMETRETES SIGNhUSICAL LEIMMA",
   "gNUMERAL SIGNgOBOL SIGNhNE HALF SIGNt ALTERNATE FORMkQUARTER SIGNhUNKIA SIGNhXIAgPERISPOMENI",
   "hHI SYMBOLhI SYMBOLhROSGEGRAMMENIhSILIl AND OXIAqPERISPOMENIqVARIAgQUESTION MARK",
   "gREVERSED LUNATE EPSILON SYMBOLhHO SYMBOLkWITH STROKE SYMBOLgSINUSOID SIGN",
   "hMALL DOTTED LUNATE SIGMA SYMBOLmLETTER ALPHAy WITH DASIAbj AND OXIAbs AND YPOGEGRAMMENI",
   "boPERISPOMENIbz AND YPOGEGRAMMENIboVARIAbt AND YPOGEGRAMMENIboYPOGEGRAMMENIbeMACRONbeOXIA",
   "bi AND YPOGEGRAMMENIbePERISPOMENIbp AND YPOGEGRAMMENIbfSILIbj AND OXIAbs AND YPOGEGRAMMENI",
   "boPERISPOMENIbz AND YPOGEGRAMMENIboVARIAbt AND YPOGEGRAMMENIboYPOGEGRAMMENIbeTONOSbeVARIA",
   "bj AND YPOGEGRAMMENIbfRACHYbeYPOGEGRAMMENIuRCHAIC KOPPAbbSAMPItBETAtCHItDELTAuIGAMMAtEPSILON",
   "ba WITH DASIAbl AND OXIAbqVARIAbgOXIAbgPSILIbl AND OXIAbqVARIAbgTONOSbgVARIAuTAw WITH DASIA",
   "bh AND OXIAbq AND YPOGEGRAMMENIbmPERISPOMENIbx AND YPOGEGRAMMENIbmVARIAbr AND YPOGEGRAMMENI",
   "bmYPOGEGRAMMENIbcOXIAbg AND YPOGEGRAMMENIbcPERISPOMENIbn AND YPOGEGRAMMENIbdSILIbh AND OXIA",
   "bq AND YPOGEGRAMMENIbmPERISPOMENIbx AND YPOGEGRAMMENIbmVARIAbr AND YPOGEGRAMMENI",
   "bmYPOGEGRAMMENIbcTONOSbcVARIAbh AND YPOGEGRAMMENIbcYPOGEGRAMMENItFINAL SIGMAtGAMMAtHETAtIOTA",
   "x WITH DASIAbi AND OXIAbnPERISPOMENIbnVARIAbeIALYTIKAbm AND OXIAbrPERISPOMENIbrTONOSbrVARIA",
   "bdMACRONbdOXIAbdPERISPOMENIbeSILIbi AND OXIAbnPERISPOMENIbnVARIAbdTONOSbdVARIAbeRACHYtKAPPA",
   "uOPPAtLAMDAtMUtNUtOMEGAy WITH DASIAbj AND OXIAbs AND YPOGEGRAMMENIboPERISPOMENI",
   "bz AND YPOGEGRAMMENIboVARIAbt AND YPOGEGRAMMENIboYPOGEGRAMMENIbeOXIAbi AND YPOGEGRAMMENI",
   "bePERISPOMENIbp AND YPOGEGRAMMENIbfSILIbj AND OXIAbs AND YPOGEGRAMMENIboPERISPOMENI",
   "bz AND YPOGEGRAMMENIboVARIAbt AND YPOGEGRAMMENIboYPOGEGRAMMENIbeTONOSbeVARIA",
   "bj AND YPOGEGRAMMENIbeYPOGEGRAMMENIvICRONba WITH DASIAbl AND OXIAbqVARIAbgOXIAbgPSILI",
   "bl AND OXIAbqVARIAbgTONOSbgVARIAtPAMPHYLIAN DIGAMMAuHIuIuSItRHOw WITH DASIAbcPSILItSAMPIvNuHO",
   "uIGMAuTIGMAtTAUuHETAtUPSILONba WITH DASIAbl AND OXIAbqPERISPOMENIbqVARIAbhIALYTIKAbp AND OXIA",
   "buPERISPOMENIbuTONOSbuVARIAbgMACRONbgOXIAbgPERISPOMENIbhSILIbl AND OXIAbqPERISPOMENIbqVARIA",
   "bgTONOSbgVARIAbhRACHYtXItZETAmREVERSED DOTTED LUNATE SIGMA SYMBOLvLUNATE SIGMA SYMBOL",
   "hUBSCRIPT SMALL LETTER BETAbdCHIbdGAMMAbdPHIbdRHOhYMBOL TAU RHOgTALENT SIGNhHETA SYMBOL",
   "iREE OBOLS SIGNmQUARTERS SIGNhONOShRYBLION BASE SIGNhWO OBOLS SIGNkTHIRDS SIGN",
   "gUPSILON WITH ACUTE AND HOOK SYMBOLtDIAERESIS AND HOOK SYMBOLtHOOK SYMBOLgVARIA",
   "hOCAL NOTATION SYMBOL-1bd0bd1bd2bd3bd4bd5bd6bd7bd8bd9bc2bd0bd1bd2bd3bd4bc3bc4bc5bd0bd1bd2bd3",
   "bd4bc6bc7bc8bc9gXESTES SIGNgYEAR SIGNhPOGEGRAMMENIgZERO SIGNeN APPLEgBOOKgHEARTgSALAD",
   "cIMACING FACEdNNING CAT FACE WITH SMILING EYESjFACEn WITH ONE LARGE AND ONE SMALL EYE",
   "tSMILING EYESuTAR EYEScOUP MARKgSEPARATORdWING HEARTbSbUARANI SIGNeDSMANcIDE DOGdTAR",
   "cJARATI ABBREVIATION SIGNjDIGIT EIGHTpFIVEqOURpNINEpONEpSEVENqIXpTHREEqWOpZEROjLETTER ArArIrU",
   "qBArHAqCArHAqDArDAsHArHAqEqGArHAqHAqIrIqJArHAqKArHAqLArLAqMAqNArGArNArYAqOqPArHAqRAqSArHArSA",
   "qTArHArTAsHAqUrUqVArOCALIC LzLyRzRqYAqZHAjOMjRUPEE SIGNjSIGN ANUSVARApVAGRAHAoCANDRABINDU",
   "pIRCLE NUKTA ABOVEoMADDAHoNUKTAoSHADDApUKUNoTHREE-DOT NUKTA ABOVEpWO-CIRCLE NUKTA ABOVEoVIRAMA",
   "qSARGAjVOWEL CANDRA EwOpSIGN AAvIvUuCANDRA EbbOuEuIvIuOuUvUuVOCALIC LbdLbcRbdR",
   "cNJALA GONDI DIGIT EIGHTuFIVEvOURuNINEuONEuSEVENvIXuTHREEvWOuZEROoLETTER AwAwIwUvBAwHAvCAwHA",
   "vDAwDAxHAwHAvEEvGAwHAvHAvIwIvJAwHAvKAwHAvLAwLAvMAvNAwGAvOOvPAwHAvRAvSAvTAwHAwTAxHAvUwUvVAvYA",
   "oOMoSIGN ANUSVARAtVISARGAoVIRAMApOWEL SIGN AAbaIbaUzEEzIbaIzOOzUbaUcRMUKHI ABBREVIATION SIGN",
   "kDDAKjDIGIT EIGHTpFIVEqOURpNINEpONEpSEVENqIXpTHREEqWOpZEROjEK ONKARjIRIjLETTER ArArIrUqBArHA",
   "qCArHAqDArDAsHArHAqEEqFAqGArHAsHAqHAqIrIqJArHAqKArHAsHAqLArLAqMAqNArGArNArYAqOOqPArHAqRArRAqSA",
   "rHAqTArHArTAsHAqUrUqVAqYAqZAjSIGN ADAK BINDIoBINDIoNUKTAoUDAAToVIRAMAqSARGAoYAKASHjTIPPIjURA",
   "jVOWEL SIGN AAvIvUuEEuIvIuOOuUvUaHADEScIR SPACEeCUTcLFWIDTH BLACK SQUAREkDOWNWARDS ARROW",
   "kFORMS LIGHT VERTICALkHANGUL FILLERrLETTER AzEyCHIEUCHzIEUCyEzOzUyHIEUHyIzEUNGyKHIEUKHzIYEOK",
   "be-SIOSyMIEUMyNIEUNbd-CIEUCbeHIEUHyOzEyPHIEUPHzIEUPbd-SIOSyRIEULbd-HIEUHbeKIYEOKbeMIEUM",
   "bePHIEUPHbfIEUPbeSIOSbeTHIEUTHySIOSzSANGCIEUCbdKIYEOKbdPIEUPbdSIOSbdTIKEUTyTHIEUTHzIKEUTyUyWA",
   "baEzEbaOzIyYAbaEzEbaOzIzOzUkIDEOGRAPHIC COMMAwFULL STOPkKATAKANA LETTER AbaEbaHAbbEbbIbbObbU",
   "baIbaKAbbEbbIbbObbUbaMAbbEbbIbbObbUbaNbbAbbEbbIbbObbUbaObaRAbbEbbIbbObbUbaSAbbEbbIbbMALL AbgE",
   "bgIbgObgTUbgUbgYAbhObhUbbObbUbaTAbbEbbIbbObbUbaUbaWAbbObaYAbbObbUtMIDDLE DOT",
   "tSEMI-VOICED SOUND MARKtVOICED SOUND MARKs-HIRAGANA PROLONGED SOUND MARKkLEFT CORNER BRACKET",
   "oWARDS ARROWkRIGHT CORNER BRACKETpWARDS ARROWkUPWARDS ARROWkWHITE CIRCLEcMBURGERdMERg AND PICK",
   "lSICKLElWRENCHdSAeTER FACEcND WITH INDEX AND MIDDLE FINGERS CROSSEDqFINGER AND THUMB CROSSED",
   "eBAGgLLeSHAKEdGUL CHOSEONG CEONGCHIEUMCHIEUCHbcIEUCbbSIOSbcSANGCIEUCbgSIOSrHIEUCHx-HIEUH",
   "yKHIEUKHtTUEUMCHIEUCHzIEUCySIOSzSANGCIEUCbdSIOSrIEUCv-IEUNGqFILLERqHIEUHv-SIOSqIEUNGv-CHIEUCH",
   "xIEUCwHIEUHwKIYEOKwMIEUMwPANSIOSxHIEUPHxIEUPwRIEULwSIOSwTHIEUTHxIKEUTqKAPYEOUNMIEUMyPHIEUPH",
   "zIEUPyRIEULySSANGPIEUPrHIEUKHrIYEOKw-TIKEUTqMIEUMv-KIYEOKwPIEUPwSIOSwTIKEUTqNIEUNv-CIEUCwHIEUH",
   "wKIYEOKwPIEUPwSIOSwTIKEUTqPANSIOSrHIEUPHx-HIEUHyPIEUPrIEUPv-CHIEUCHxIEUCwHIEUHwKHIEUKHxIYEOK",
   "wNIEUNwPHIEUPHwSIOSba-CIEUCbbKIYEOKbbPIEUPbbTHIEUTHbcIKEUTxSANGSIOSwTHIEUTHxIKEUTqRIEULv-CIEUC",
   "wHIEUHwKAPYEOUNPIEUPxHIEUKHxIYEOKwMIEUMwNIEUNwPIEUPwSIOSxSANGKIYEOKbbPIEUPbbTIKEUTwTIKEUTqSIOS",
   "u-CHIEUCHwIEUCvHIEUHvIEUNGvKHIEUKHwIYEOKvMIEUMvNIEUNvPHIEUPHwIEUPba-KIYEOKvRIEULvSSANGSIOS",
   "vTHIEUTHwIKEUTrSANGCIEUCba-HIEUHvHIEUHvIEUNGvKIYEOKvNIEUNvPIEUPvRIEULvSIOSz-PIEUPvTHIEUTH",
   "wIKEUTvYEORINHIEUHqTHIEUTHrIKEUTw-CIEUCxKIYEOKxMIEUMxPIEUPxRIEULxSIOSqYEORINHIEUHsSIEUNG",
   "hDOUBLE DOT TONE MARKhFILLERhJONGSEONG CHIEUCHsIEUCw-PIEUPxSSANGPIEUPrHIEUHw-MIEUMxNIEUNxPIEUP",
   "xRIEULrIEUNGw-KHIEUKHyIYEOKxSSANGKIYEOKrKAPYEOUNMIEUMzPHIEUPHbaIEUPzRIEULsHIEUKHsIYEOK",
   "x-CHIEUCHyHIEUHyKHIEUKHyNIEUNyPIEUPyRIEULySIOSbc-KIYEOKrMIEUMw-CHIEUCHyIEUCxHIEUHxKIYEOKxNIEUN",
   "xPANSIOSyIEUPbc-SIOSxRIEULxSIOSySANGNIEUNbcSIOSrNIEUNw-CHIEUCHyIEUCxHIEUHxKIYEOKxPANSIOSxRIEUL",
   "xSIOSxTHIEUTHyIKEUTrPANSIOSy-KAPYEOUNPIEUPzPIEUPsHIEUPHy-PIEUPzSIOSzTHIEUTHsIEUPw-CHIEUCHyIEUC",
   "xHIEUHxMIEUMxPHIEUPHxRIEULbc-PHIEUPHxSIOSbb-TIKEUTxTIKEUTrRIEULw-HIEUHxKAPYEOUNPIEUPyHIEUKH",
   "yIYEOKbd-HIEUHbeSIOSxMIEUMbc-HIEUHbdKIYEOKbdSIOSxNIEUNxPANSIOSyHIEUPHyIEUPbc-HIEUHbdPHIEUPH",
   "bdSIOSbdTIKEUTxSIOSySANGKIYEOKbcSIOSxTHIEUTHyIKEUTbd-HIEUHxYEORINHIEUHbi-HIEUHzSIEUNGrSIOS",
   "v-CHIEUCHxIEUCwHIEUHwKAPYEOUNPIEUPxIYEOKwMIEUMwPANSIOSxIEUPwRIEULwTHIEUTHxIKEUTsSANGCIEUC",
   "wIEUNGwKIYEOKwMIEUMwNIEUNwPIEUPwRIEULbb-KHIEUKHwSIOSba-KIYEOKbbTIKEUTwTIKEUTbc-PIEUPwYESIEUNG",
   "rTHIEUTHsIKEUTx-CHIEUCHzIEUCyKIYEOKyPIEUPyRIEULySIOSbc-KIYEOKyTHIEUTHrYEORINHIEUHtSIEUNG",
   "z-HIEUHbaKHIEUKHbbIYEOKbaMIEUMbaPANSIOSbaSIOSbbSANGKIYEOKiUNGSEONG As-EUtOtUsEsRAEAw-AxEyOxIxU",
   "rEsOt-EUuOuUsUt-AuEvOvUuOuUrFILLERrIs-AuRAEAtEUtItOu-ItUtYAv-OvEuEvOuOuUrOs-EuOtOu-ItUtYAvEuE",
   "vOsErSSANGARAEArUs-AuEtEO-EUtI-ItUtYEvOrWAtEsEtOsIrYAt-OuUuYOtEsEtOu-OvUvYAsIt-UsOt-AvEuEOuIuO",
   "uYAwEvEOsUt-AvEuEvOuIuOuUuYEwOhLETTER ApEpRAEAtEoCHIEUCHpIEUCoEpOpUoHIEUHoIpEUNGoKAPYEOUNMIEUM",
   "wPHIEUPHxIEUPwSSANGPIEUPpHIEUKHpIYEOKu-SIOSoMIEUMt-PANSIOSvIEUPuSIOSoNIEUNt-CIEUCuHIEUH",
   "uPANSIOSuSIOSuTIKEUToOpEoPANSIOSpHIEUPHpIEUPt-CIEUCuKIYEOKuSIOSy-KIYEOKzTIKEUTuTHIEUTHvIKEUT",
   "oRIEULt-HIEUHuKIYEOKba-SIOSuMIEUMuPANSIOSvHIEUPHvIEUPz-SIOSuSIOSuTHIEUTHvIKEUTuYEORINHIEUH",
   "oSIOSs-CIEUCtKIYEOKtNIEUNtPIEUPtTIKEUTpSANGCIEUCtHIEUHtIEUNGtKIYEOKtNIEUNtPIEUPtSIOStTIKEUT",
   "oTHIEUTHpIKEUToUoWAqEpEqOpIoYAqEpEqOrRINHIEUHqSIEUNGw-PANSIOSxSIOSpIpOq-IrYAtEpUq-IrYEtO",
   "hSINGLE DOT TONE MARKeZHOU NUMERAL EIGHTrFIVEsOURrNINErONErSEVENsIXrTENsHIRTYtREEsWENTYtO",
   "dIFI ROHINGYA DIGIT EIGHTwFIVExOURwNINEwONEwSEVENxIXwTHREExWOwZEROqLETTER AxBAxCAxDAyDAxFAxGA",
   "xHAxJAxKAyHAyINNA WAbdYAxLAxMAxNAyGAyYAxPAxRAyRAxSAyHAxTAyTAxVAxWAxYAxZAqMARK NA KHONNAvSAKIN",
   "qSIGN HARBAHAYvTAHALAxNAxSSIqVOWEL AwEwIwOwUdUNOO LETTER ApBApDApGApHApIpKApLApMApNAqGApPApRA",
   "pSApTApUpWApYAiSIGN PAMUDPODiVOWEL SIGN ItUcPPY PERSON RAISING ONE HANDcRD DISKcTCHING CHICK",
   "dRAN LETTER ALEPHpYNoBETHoDALETH-RESHoGIMELoHEqTHoKAPHoLAMEDHoMEMoNUNoPEoQOPHoSADHEqMEKHpHIN",
   "oTAWpETHoWAWoYODHoZAYNhNUMBER FIVEoONEr HUNDREDoTENpWENTYbEADPHONEeSTONEj GRAVEYARD SYMBOL",
   "dR-NO-EVIL MONKEYeT DECORATIONgHANDSgWITH ARROWlRIBBONlTIP ON THE LEFTdVY AMPERSAND ORNAMENT",
   "hRROW SHAFT WIDTH ONEbb HALFbcTHIRDyTWO THIRDShSTERISKgBALLOT XhLACK CURVED DOWNWARDS AND RIGH",
   "TWARDS ARROWtUPWARDS AND RIGHTWARDS ARROWmHEARTl-FEATHERED NORTH EAST ARROWwRIGHTWARDS ARROW",
   "wSOUTH EAST ARROWgCHECK MARKjVRON SNOWFLAKEhIRCLEm WITH CIRCLE INSIDEsSTROKE AND TWO DOTS ABOV",
   "EmD SALTIREhONCAVE-POINTED BLACK RIGHTWARDS ARROWgDASHED TRIANGLE-HEADED RIGHTWARDS ARROW",
   "hIVISION SIGNhOLLAR SIGNiUBLE COMMA QUOTATION MARK ORNAMENTnTURNED COMMA QUOTATION MARK ORNAME",
   "NTiWNWARDS ARROW WITH EQUILATERAL ARROWHEADbbLARGE EQUILATERAL ARROWHEAD",
   "gEIGHT POINTED BLACK STARuPINWHEEL STARuRECTILINEAR BLACK STARmSPOKED ASTERISK",
   "mTEARDROP-SPOKED PROPELLER ASTERISKhQUALS SIGNhXCLAMATION MARK ORNAMENTxSYMBOL",
   "gFIVE POINTED BLACK STARlSPOKED ASTERISKhOUR BALLOON-SPOKED ASTERISKgGREEK CROSS",
   "gHEART EXCLAMATION MARK ORNAMENThORIZONTAL FILLgINTERROBANG ORNAMENTgLARGE CIRCLEiTIN CROSS",
   "hEFT-POINTING ANGLE BRACKET ORNAMENTbaQUOTATION MARK ORNAMENTkWARDS ARROW WITH EQUILATERAL ARR",
   "OWHEADbbLARGE EQUILATERAL ARROWHEADhIGATURE OPEN ET ORNAMENThOW DOUBLE COMMA QUOTATION MARK OR",
   "NAMENTkSINGLE COMMA QUOTATION MARK ORNAMENTjER RIGHT-SHADOWED WHITE RIGHTWARDS ARROW",
   "gMINUS SIGNhULTIPLICATION XgNORTH EAST ARROWrPOINTING BUDbaVINE LEAFmWEST POINTING BUD",
   "baVINE LEAFgOPEN CENTRE CROSShUTLINED BLACK STARhVAL WITH OVAL INSIDEgPLUS SIGN",
   "gRIGHT-POINTING ANGLE BRACKET ORNAMENTbbQUOTATION MARK ORNAMENTlWARDS ARROW",
   "w WITH EQUILATERAL ARROWHEADbcLARGE EQUILATERAL ARROWHEADhOUND-TIPPED RIGHTWARDS ARROWgSALTIRE",
   "iNS-SERIF INTERROBANG ORNAMENThCRIPT LIGATURE ET ORNAMENThINGLE COMMA QUOTATION MARK ORNAMENT",
   "nTURNED COMMA QUOTATION MARK ORNAMENTiX POINTED BLACK STARkSPOKED ASTERISKhOUTH EAST ARROW",
   "rPOINTING BUDbaVINE LEAFmWEST POINTING BUDbaVINE LEAFhPARKLEgTEARDROP-SHANKED RIGHTWARDS ARROW",
   "qPOKED ASTERISKwPINWHEEL ASTERISKhRIANGLE-HEADED RIGHTWARDS ARROWhWELVE POINTED BLACK STAR",
   "vPINWHEEL STARgUPPER RIGHT-SHADOWED WHITE RIGHTWARDS ARROWiWARDS ARROW WITH EQUILATERAL ARROWH",
   "EADzLARGE EQUILATERAL ARROWHEADgVERTICAL BARgWEDGE-TAILED RIGHTWARDS ARROWhHITE CIRCLE",
   "mDOWN-POINTING TRIANGLEmSQUAREhIDE-HEADED RIGHTWARDS ARROWcBREW ACCENT ATNAH HAFUKHoDARGApEHI",
   "oETNAHTAoGERESHu MUQDAMrSHAYIMoILUYoMAHAPAKHpERKHAu KEFULApUNAHoOLEoPASHTAqZERoQADMAqRNEY PARA",
   "oREVIAoSEGOLpHALSHELEToTELISHA GEDOLAwQETANAqVIRpIPEHAoYERAH BEN YOMOqTIVoZAQEF GADOLuQATAN",
   "qRQApINORhLETTER ALEFs WITH MAPIQyPATAHyQAMATSqTERNATIVE AYINbaPLUS SIGNpYINoBETr WITH DAGESH",
   "xRAFEoDALETt WITH DAGESHoFINAL KAFx WITH DAGESHuMEMuNUNuPEw WITH DAGESHuTSADIoGIMEL",
   "t WITH DAGESHoHEq WITH MAPIQqToKAFr WITH DAGESHxRAFEoLAMEDt WITH DAGESHoMEMr WITH DAGESHoNUN",
   "r WITH DAGESHoPEq WITH DAGESHwRAFEoQOFr WITH DAGESHoRESHs WITH DAGESHoSAMEKHu WITH DAGESHpHIN",
   "s WITH DAGESHbe AND SHIN DOTbkIN DOTySHIN DOTzIN DOToTAVr WITH DAGESHpETr WITH DAGESHpSADI",
   "t WITH DAGESHoVAVr WITH DAGESHxHOLAMoWIDE ALEFtDALETtFINAL MEMtHEtKAFtLAMEDtRESHtTAVoYOD",
   "r WITH DAGESHxHIRIQoZAYINt WITH DAGESHiIGATURE ALEF LAMEDqYIDDISH DOUBLE VAVbfYODyVAV YOD",
   "yYOD YOD PATAHhMARK LOWER DOTmMASORA CIRCLEmUPPER DOThPOINT DAGESH OR MAPIQnHATAF PATAHtQAMATS",
   "tSEGOLoIRIQoOLAMs HASER FOR VAVnJUDEO-SPANISH VARIKAnMETEGnPATAHnQAMATSt QATANoUBUTSnRAFE",
   "nSEGOLoHEVApIN DOToIN DOTnTSEREiUNCTUATION GERESHwSHAYIMtMAQAFtNUN HAFUKHAtPASEQtSOF PASUQ",
   "hYOD TRIANGLEcDGEHOGcLICOPTERdLSCHREIBER PAUSE SYMBOLdM SYMBOLeET WITH WHITE CROSS",
   "cNTAIGANA LETTER A-1u2u3uWOsE-1u2u3u4u5u6sHA-1w0w1v2v3v4v5v6v7v8v9tE-1v2v3v4v5v6v7tI-1v2v3v4v5",
   "v6v7tO-1v2v3v4v5v6v7v8tU-1v2v3sI-1u2u3u4sKA-1w0w1v2v3v4v5v6v7v8v9vKEtE-1v2v3v4v5v6tI-1v2v3v4v5",
   "v6v7v8tO-1v2v3vKItU-1v2v3v4v5v6v7sMA-1v2v3v4v5v6v7tE-1v2vMAtI-1v2v3v4v5v6v7tO-1v2v3v4v5v6tU-1",
   "v2v3v4sN-MU-MO-1ba2tA-1v2v3v4v5v6v7v8v9tE-1v2v3v4v5v6vKOtI-1v2v3v4v5v6v7vTEtO-1v2v3v4v5tU-1v2",
   "v3sO-1u2u3sRA-1v2v3v4tE-1v2v3v4tI-1v2v3v4v5v6v7tO-1v2v3v4v5v6tU-1v2v3v4v5v6sSA-1v2v3v4v5v6v7v8",
   "tE-1v2v3v4v5tI-1v2v3v4v5v6tO-1v2v3v4v5v6v7tU-1v2v3v4v5v6v7v8sTA-1v2v3v4tE-1v2v3v4v5v6v7v8v9",
   "tI-1v2v3v4v5v6v7tO-1v2v3v4v5v6vRAtU-1v2v3v4vTOsU-1u2u3u4u5sWA-1v2v3v4v5tE-1v2v3v4tI-1v2v3v4v5",
   "tO-1v2v3v4v5v6v7sYA-1v2v3v4v5vYOtO-1v2v3v4v5v6tU-1v2v3v4cRBdMITIAN CONJUGATE MATRIX",
   "cXAGRAM FOR ABUNDANCEoFTER COMPLETIONoPPROACHnBEFORE COMPLETIONoITING THROUGHoREAKTHROUGH",
   "nCOMING TO MEETpNFLICTqTEMPLATIONnDARKENING OF THE LIGHToECREASEpLIVERANCEpVELOPMENT",
   "oIFFICULTY AT THE BEGINNINGpSPERSIONoURATIONnENTHUSIASMnFELLOWSHIPoOLLOWINGnGATHERING TOGETHER",
   "oRACEpEAT POSSESSIONvWERuREPONDERANCEtTAMINGnHOLDING TOGETHERnINCREASEpFLUENCEpNER TRUTH",
   "qOCENCEnLIMITATIONnMODESTYpUTH CORNERSnOBSTRUCTIONoPPOSITIONqRESSIONnPEACEoROGRESS",
   "oUSHING UPWARDnRETREATqURNpVOLUTIONnSMALL PREPONDERANCEtTAMINGoPLITTING APARToTANDSTILL",
   "nTHE ABYSMAL WATERsRMYtOUSING THUNDERrCAULDRONsLINGING FIREsREATIVE HEAVENrFAMILYrGENTLE WIND",
   "rJOYOUS LAKErKEEPING STILL MOUNTAINrMARRYING MAIDENrRECEPTIVE EARTHrWANDERERsELLoREADING",
   "nWAITINGoORK ON THE DECAYEDnYOUTHFUL FOLLYbIBISCUScGH BRIGHTNESS SYMBOLfOCTET PRESET",
   "fVOLTAGE SIGNe-HEELED SHOEfSPEED TRAINq WITH BULLET NOSEcKING BOOTcNDU TEMPLEcPPOPOTAMUS",
   "cRAGANA DIGRAPH YORIjITERATION MARKjLETTER ArRCHAIC WUyYEqBArErIrOrUqDArErIrOrUqEqGArErIrOrU",
   "qHArErIrOrUqIqKArErIrOrUqMArErIrOrUqNrArErIrOrUqOqPArErIrOrUqRArErIrOrUqSArErIrMALL AwEwIwKAxE",
   "wOwTUwUwWAxExIxOwYAxOxUrOrUqTArErIrOrUqUqVUqWArErIrOqYArOrUqZArErIrOrUjVOICED ITERATION MARK",
   "cSTORIC SITEbOCHOcLEdLOW QUILT SQUARE ORNAMENTbc IN BLACK SQUAREcMOTHETICcNEY POTfBEEcOKcP",
   "cRIZONTAL BARmLACK HEXAGONrOCTAGONlELLIPSISlLINE EXTENSIONlMALE WITH STROKE SIGN",
   "lONE EIGHTH BLOCK-1358bc2bc3bc4bc5bc6bc7lSCAN LINE-1v3v7v9lTAB KEYoULATIONv SET",
   "wWITH JUSTIFICATIONmRAFFIC LIGHTdSEf FACEgRACINGcSPITALcT BEVERAGEeDOGePEPPEReSPRINGSdEL",
   "cURGLASSj WITH FLOWING SANDdSEf BUILDINGoSgWITH GARDENbRYVNIA SIGNbTcJcSbUGGING FACE",
   "cNDRED POINTS SYMBOLcSHED FACEcTbYGIEAcPHENg BULLEThWITH DIAERESISg-MINUSgATION POINT",
   "dODIASTOLEcSTERESIS SYMBOLaI LOVE YOU HAND SIGNbCE CREAMfUBEeHOCKEY STICK AND PUCKeSKATE",
   "bDENTICAL TOm AND SLANTED PARALLELkWITH DOT ABOVEgFICATION CARDdOGRAPHIC ANNOTATION BOTTOM MAR",
   "KxEARTH MARKxFIRST MARKyOUR MARKbbTH MARKxHEAVEN MARKxLINKING MARKxMAN MARKyIDDLE MARK",
   "xONE MARKxREVERSE MARKxSECOND MARKxTHIRD MARKzREE MARKyOP MARKyWO MARKmCLOSING MARKnOMMA",
   "mDEPARTING TONE MARKoSCRIPTION CHARACTER ABOVE TO BELOWbrMIDDLE AND BELOWbiFULL SURROUND",
   "biLEFT TO MIDDLE AND RIGHTbqRIGHTbiOVERLAIDbiSURROUND FROM ABOVEbwBELOWbwLEFTbxOWER LEFT",
   "bwUPPER LEFTccRIGHTmENTERING TONE MARKmFULL STOPmHALF FILL SPACEmITERATION MARK",
   "mLEVEL TONE MARKmNUMBER ZEROmRISING TONE MARKmSPACEmTALLY MARK FIVEyOURxONExTHREEyWO",
   "nELEGRAPH LINE FEED SEPARATOR SYMBOLwSYMBOL FOR APRILbiUGUSTbhDAY EIGHTbqEENbmLEVENblFIFTEEN",
   "bnVEbmOURbpTEENblNINEbpTEENblONEblSEVENbqTEENbmIXboTEENblTENbmHIRTEENbqYbr-ONEbnREEbmWELVE",
   "boNTYbr-EIGHTbsFIVEbtOURbsNINEbsONEbsSEVENbtIXbsTHREEbtWObnObiECEMBERbhFEBRUARYbhHOUR EIGHT",
   "brEENbnLEVENbmFIFTEENboVEbnOURbqTEENbmNINEbqTEENbmONEbmSEVENbrTEENbnIXbpTEENbmTENbnHIRTEEN",
   "boREEbnWELVEbpNTYbs-FOURbtONEbtTHREEbuWOboObmZERObhJANUARYbiULYbjNEbhMARCHbjYbhNOVEMBER",
   "bhOCTOBERbhSEPTEMBERmVARIATION INDICATORbMAGE OFi OR APPROXIMATELY EQUAL TOcP",
   "dERIAL ARAMAIC LETTER ALEPHzYINyBETHyDALETHyGIMELyHEbaTHyKAPHyLAMEDHyMEMyNUNyPEyQOPHyRESH",
   "ySADHEbaMEKHzHINyTAWzETHyWAWyYODHyZAYINrNUMBER ONEbb HUNDREDbcTHOUSANDyTENbb THOUSANDzHREE",
   "zWENTYbaOrSECTION SIGNbNBOX TRAYcCOMING ENVELOPEfPLETE INFINITYdREASE FONT SIZE SYMBOLiS AS",
   "fMENTcDdEXf POINTING AT THE VIEWERdIAN RUPEE SIGNeC SIYAQ ALTERNATE LAKH MARK",
   "mFRACTION ONE HALFzQUARTERvTHREE QUARTERSmLAKH MARKmNUMBER ALTERNATE ONEbdTEN THOUSANDbeWO",
   "tEIGHTy HUNDREDzTHOUSANDyYz THOUSANDtFIFTYy THOUSANDvVEx HUNDREDyTHOUSANDuORTYy THOUSANDvUR",
   "x HUNDREDyTHOUSANDtKARORyANtLAKHxANtNINEx HUNDREDyTHOUSANDxTYz THOUSANDtONEw HUNDREDxTHOUSAND",
   "tPREFIXED EIGHTbcFIVEbdOURbcNINEbcONEbcSEVENbdIXbcTHREEbdWOtSEVENy HUNDREDzTHOUSANDyTY",
   "ba THOUSANDuIXw HUNDREDxTHOUSANDwTYy THOUSANDtTENw THOUSANDuHIRTYz THOUSANDvREEy HUNDRED",
   "zTHOUSANDuWENTYz THOUSANDvOw HUNDREDxTHOUSANDmPLACEHOLDERmRUPEE MARKcFINITY",
   "i NEGATED WITH VERTICAL BARdORMATION DESK PERSONmSEPARATOR FOURwONEwTHREExWOnOURCE",
   "cHIBIT ARABIC FORM SHAPINGiSYMMETRIC SWAPPINGcPUT SYMBOL FOR LATIN CAPITAL LETTERSxLETTERS",
   "xSMALL LETTERSrNUMBERSrSYMBOLScSCRIPTIONAL PAHLAVI LETTER ALEPHbdBETHbdDALETHbdGIMELbdHEbfTH",
   "bdKAPHbdLAMEDHbdMEM-QOPHbdNUNbdPEbdSADHEbfMEKHbeHINbdTAWbeETHbdWAW-AYIN-RESHbdYODHbdZAYIN",
   "wNUMBER FOURbdONEbg HUNDREDbhTHOUSANDbdTENbeHREEbeWENTYbfOqRTHIAN LETTER ALEPHbfYINbeBETH",
   "beDALETHbeGIMELbeHEbgTHbeKAPHbeLAMEDHbeMEMbeNUNbePEbeQOPHbeRESHbeSADHEbgMEKHbfHINbeTAWbfETH",
   "beWAWbeYODHbeZAYINxNUMBER FOURbeONEbh HUNDREDbiTHOUSANDbeTENbfHREEbfWENTYbgOdERTION SYMBOL",
   "cTEGRALi AROUND A POINT OPERATORkVERAGE WITH SLASHjEXTENSIONjWITH DOUBLE STROKEoINTERSECTION",
   "oLEFTWARDS ARROW WITH HOOKoOVERBARoTIMES SIGNoUNDERBARqIONeRCALATEfIOR PRODUCT",
   "fLINEAR ANNOTATION ANCHORxSEPARATORxTERMINATORgOCKED FEMALE AND MALE SIGNfROBANGfSECTION",
   "m ABOVE BAR ABOVE UNIONtUNIONnBESIDE AND JOINED WITH INTERSECTIONnWITH DOTsLOGICAL ANDsOVERBAR",
   "cVERSE BULLETiCHECK MARKnER BOARD FILLiDOWNWARDS ARROW WITH TIP LEFTWARDSiMEDIUM SHADE",
   "iWHITE CIRCLEfTED EXCLAMATION MARKjINTERROBANGjLAZY SkOW KAVYKAt WITH KAVYKA ABOVEjOHM SIGN",
   "jPENTAGRAMjQUESTION MARKjUNDERTIEdISIBLE PLUSkSEPARATORkTIMESbZAKAYA LANTERNaJACK-O-LANTERN",
   "cPANESE BANK SYMBOLjCASTLEjDOLLSjGOBLINjINDUSTRIAL STANDARD SYMBOLjOGREjPOST OFFICE",
   "jSYMBOL FOR BEGINNERcRcVANESE CONSONANT SIGN CAKRAyKERETyPENGKALjDIGIT EIGHTpFIVEqOURpNINEpONE",
   "pSEVENqIXpTHREEqWOpZEROjLEFT RERENGGANlTTER ArIqBAs MURDAqCAs MURDAqDAs MAHAPRANArDA",
   "t MAHAPRANAqEqGAs MURDAqHAqIr KAWIrIqJAs MAHAPRANAqKAs MURDAtSASAKqLAqMAqNAs MURDArGAt LELET",
   "z RASWADIrYAt MURDAqOqPAs CEREKtMURDAqRAs AGUNGqSAs MAHAPRANAuURDAqTAs MURDArTAt MAHAPRANAqU",
   "qWAqYAjPADA ADEGs ADEGpNDAPoISEN-ISENoLINGSApUHURqNGSIoMADYAoPANGKATpISELEHoTIRTA TUMETES",
   "oWINDUlNGKONnRANGKEPjRIGHT RERENGGANjSIGN CECAKt TELUoLAYARoPANYANGGAoWIGNYAN",
   "jTURNED PADA PISELEHjVOWEL SIGN DIRGA MUREuPEPETuSUKUy MENDUTuTALINGwRUNGvOLONGuWULUy MELIK",
   "bEANSbIGSAW PUZZLE PIECEbOINcYSTICKbUGGLINGcNOcPITERaKAABAcITHI ABBREVIATION SIGNhDANDA",
   "iOUBLE DANDAoSECTION MARKhENUMERATION SIGNhLETTER ApApIpUoBApHAoCApHAoDApDAqDHAqHApHAoEoGApHA",
   "oHAoIpIoJApHAoKApHAoLAoMAoNApGApNApYAoOoPApHAoRApHAoSApHApSAoTApHApTAqHAoUpUoVAoYAhNUMBER SIGN",
   "s ABOVEhSECTION MARKiIGN ANUSVARAmCANDRABINDUmNUKTAmVIRAMAoSARGAhVOWEL SIGN AAtItUsEsItIsOsUtU",
   "sVOCALIC RcNGAROOeXI RADICAL AGAINqNDqRRIVEsOWqXEpBADGERrMBOOqEANqIGrRDrTTERqLACKrOODrUEqOAT",
   "rDYrLT OF CLOTHrNErWqRANCHrISTLErUSHpCARTrULDRONrVEqHILDqITYqLANsWrIFFrOTHESqOLORrMPARErRPSE",
   "rVERrWpDEATHrERqIPPERrSHsTINGUISHrVINATIONqO NOTrGrORrTsTED CLIFFwTENTrUBLE XrWN BOXqRAGONrUM",
   "rYpEARsTHrTqIGHTqMBROIDERYqNCLOSURErTERqVENtINGqYEpFACErNGrTHERqEATHERqIELDrGHTrRErSHqLUTErY",
   "qOOTqRAGRANTrOGqURpGATEqHOSTqOr SLOWLYrLDqRAINsSSpHAIRrLBERDsF TREE TRUNKrNDqEADsRTrMP",
   "qIDING ENCLOSUREqOOKrRNsSEpICEqNCHrSECTpJADErRpKNIFEpLACKrMEqEAFsTHERrEKrGSqIDrFErNEqONG",
   "t STRIDEpMANqEATrLONqILLETrNISTERqOONrRNINGsTARrUNDtTAINsTHpNETqOSErTpOLDqNEsSELFqPEN BOXrPOSE",
   "pPIGqLOWqOWERqRIVATErOFOUNDpRAINrPrTqEDqICErGHT OPEN BOXrVERqOOFqUNpSACRIFICIAL WINErLTrY",
   "qCHOLARrRIPTqEALrCONDrErLFqHEEPsLLrOOTsRT TAILED BIRDwHREADqICKNESSrLKqKINqLASHsVErICEqMALL",
   "qNOUTqOUNDqPEARsECHrIRITrOONrROUTqQUAREqTANDrEAMsPrONEsPtPINGqUNqWEETpTABLErLLrNNED LEATHERqEN",
   "qIGERrLEqONGUErOTHqRACKrEErIPODqURBANsTLEqWOs HANDSpUSEpVALLEYqILLAGEpWALKt ENCLOSURErTER",
   "qEAPONrSTqHEATrITEqINDsEqOMANrRKqRAPrONGpYELLOWdNADA AI LENGTH MARKiDIGIT EIGHToFIVEpOURoNINE",
   "oONEoSEVENpIXoTHREEpWOoZEROiLENGTH MARKkTTER AqAqIqUpBAqHApCAqHApDAqDArHAqHApEqEpFApGAqHApHApI",
   "qIpJAqHApKAqHApLAqLArLApMApNArKAARA POLLUqGAqNAqYApOqOpPAqHApRAqRApSAqHAqSApTAqHAqTArHApUqUpVA",
   "qOCALIC LyLxRyRpYAiSIGN ANUSVARAoVAGRAHAnCANDRABINDUnJIHVAMULIYAnNUKTAnSIDDHAM",
   "oPACING CANDRABINDUnUPADHMANIYAnVIRAMApSARGAiVOWEL SIGN AAuIuUtEuEtIuItOuOtUuUtVOCALIC LbcLbbR",
   "bcRcTAKANA DIGRAPH KOTOjITERATION MARKjLETTER ArRCHAIC EyWUyYEzIqBArErIrOrUqDArErIrOrUqEqGArE",
   "rIrOrUqHArErIrOrUqIqKArErIrOrUqMArErIsNNAN NASALIZED TONE-1bm2bm3bm4bm5bm7bm8xTONE-2bc3bc4bc5",
   "bc7bc8rOrUqNrArErIrOrUqOqPArErIrOrUqRArErIrOrUqSArErIrMALL AwEwHAxExIxOxUwIwKAxExUwMUwNxUwOwRA",
   "xExIxOxUwSIxUwTOxUwUwWAxExIxOwYAxOxUrOrUqTArErIrOrUqUqVArErIrOrUqWArErIrOqYArOrUqZArErIrOrU",
   "jMIDDLE DOTjVOICED ITERATION MARKi-HIRAGANA DOUBLE HYPHENsPROLONGED SOUND MARK",
   "sSEMI-VOICED SOUND MARKsVOICED SOUND MARKcYAH LI DIGIT EIGHTpFIVEqOURpNINEpONEpSEVENqIXpTHREE",
   "qWOpZEROjLETTER AqBAqCAqDAqGAqHArTAqIqKArHAqLAqMAqNArGArYAqOErOqPArHAqRAqSArHAqTArHAqVAqWAqYA",
   "qZAjSIGN CWIoSHYAjTONE CALYAt PLOPHUoPLOPHUjVOWEL EqEpOpUqEbELVIN SIGNcYdBOARDi AND MOUSE",
   "dCAP TENbHAROSHTHI DIGIT FOURrONErTHREEsWOlFRACTION ONE HALFlLETTER AsBAtHAsCAtHAsDAtDAuHAtHA",
   "sGAtHAsHAsJAsKAtHAtKAsLAsMAsNAtNAtYAsPAtHAsRAsSAtHAtSAsTAtHAtTAuHAuTAvHAsVAtHAsYAsZA",
   "lNUMBER ONE HUNDREDwTHOUSANDsTENtWENTYlPUNCTUATION CIRCLEyRESCENT BARxDANDAyOTzUBLE DANDA",
   "xLINESyOTUSxMANGALAMxSMALL CIRCLElSIGN ANUSVARAqBAR ABOVEqCAUDAqDOT BELOWsUBLE RING BELOW",
   "qVISARGAlVIRAMAmOWEL LENGTH MARKrSIGN EwIwOwUwVOCALIC RcITAN SMALL SCRIPT CHARACTER-18B00bi1",
   "bi2bi3bi4bi5bi6bi7bi8bi9biAbiBbiCbiDbiEbiFbh10bi1bi2bi3bi4bi5bi6bi7bi8bi9biAbiBbiCbiDbiEbiF",
   "bh20bi1bi2bi3bi4bi5bi6bi7bi8bi9biAbiBbiCbiDbiEbiFbh30bi1bi2bi3bi4bi5bi6bi7bi8bi9biAbiBbiCbiD",
   "biEbiFbh40bi1bi2bi3bi4bi5bi6bi7bi8bi9biAbiBbiCbiDbiEbiFbh50bi1bi2bi3bi4bi5bi6bi7bi8bi9biAbiB",
   "biCbiDbiEbiFbh60bi1bi2bi3bi4bi5bi6bi7bi8bi9biAbiBbiCbiDbiEbiFbh70bi1bi2bi3bi4bi5bi6bi7bi8bi9",
   "biAbiBbiCbiDbiEbiFbh80bi1bi2bi3bi4bi5bi6bi7bi8bi9biAbiBbiCbiDbiEbiFbh90bi1bi2bi3bi4bi5bi6bi7",
   "bi8bi9biAbiBbiCbiDbiEbiFbhA0bi1bi2bi3bi4bi5bi6bi7bi8bi9biAbiBbiCbiDbiEbiFbhB0bi1bi2bi3bi4bi5",
   "bi6bi7bi8bi9biAbiBbiCbiDbiEbiFbhC0bi1bi2bi3bi4bi5bi6bi7bi8bi9biAbiBbiCbiDbiEbiFbhD0bi1bi2bi3",
   "bi4bi5bi6bi7bi8bi9biAbiBbiCbiDbiEbiFbhE0bi1bi2bi3bi4bi5bi6bi7bi8bi9biAbiBbiCbiDbiEbiFbhF0bi1",
   "bi2bi3bi4bi5bi6bi7bi8bi9biAbiBbiCbiDbiEbiFbgC00bi1bi2bi3bi4bi5bi6bi7bi8bi9biAbiBbiCbiDbiEbiF",
   "bh10bi1bi2bi3bi4bi5bi6bi7bi8bi9biAbiBbiCbiDbiEbiFbh20bi1bi2bi3bi4bi5bi6bi7bi8bi9biAbiBbiCbiD",
   "biEbiFbh30bi1bi2bi3bi4bi5bi6bi7bi8bi9biAbiBbiCbiDbiEbiFbh40bi1bi2bi3bi4bi5bi6bi7bi8bi9biAbiB",
   "biCbiDbiEbiFbh50bi1bi2bi3bi4bi5bi6bi7bi8bi9biAbiBbiCbiDbiEbiFbh60bi1bi2bi3bi4bi5bi6bi7bi8bi9",
   "biAbiBbiCbiDbiEbiFbh70bi1bi2bi3bi4bi5bi6bi7bi8bi9biAbiBbiCbiDbiEbiFbh80bi1bi2bi3bi4bi5bi6bi7",
   "bi8bi9biAbiBbiCbiDbiEbiFbh90bi1bi2bi3bi4bi5bi6bi7bi8bi9biAbiBbiCbiDbiEbiFbhA0bi1bi2bi3bi4bi5",
   "bi6bi7bi8bi9biAbiBbiCbiDbiEbiFbhB0bi1bi2bi3bi4bi5bi6bi7bi8bi9biAbiBbiCbiDbiEbiFbhC0bi1bi2bi3",
   "bi4bi5bi6bi7bi8bi9biAbiBbiCbiDbiEbiFbhD0bi1bi2bi3bi4bi5uFILLERcMER CURRENCY SYMBOL RIEL",
   "gDIGIT EIGHTmFIVEnOURmNINEmONEmSEVENnIXmTHREEnWOmZEROgINDEPENDENT VOWEL LYbaYyQAAbaIbaQbaUzEzI",
   "baIzOO TYPE ONEbhTWOzUbaKbaUbbVyRYbaYgLETTER BAnCAoHApOoOnDAoOnHAnKAoHApOoOnLAoOnMOnNGOoNOoO",
   "oYOnPHApOoOnQAnROnSAoHAoSOnTAoHApOoOoTHAqOnVOnYOgSIGN AHSDAmTTHACANmVAKRAHASANYAlBANTOC",
   "nRIYOOSANnTHAMASATmEYYALlCAMNUC PII KUUHmOENGlKAKABATmHANmOOMUUTlLEK TOOlMUUSIKATOANlNIKAHIT",
   "lPHNAEK MUANlREAHMUKmOBATlSAMYOK SANNYAlTOANDAKHIATmRIISAPlVIRIAMlYUUKALEAPINTUhYMBOL BEI KOET",
   "rROCoUON KOETsROCnDAP KOETrROCq-BEI KOETvROCsUON KOETwROCrMUOY KOETwROCrPII KOETvROCsRAM KOET",
   "wROCnLEK ATTAK BEIyUONxMUOYxPIIyRAMbb-BEIbdUONbcMUOYbcPIIxSONnMUOY KOETsROCnPATHAMASAToII KOET",
   "rROCoRAM KOETsROCr-BEI KOETwROCtUON KOETxROCsMUOY KOETxROCsPII KOETwROCnTUTEYASAT",
   "gVOWEL INHERENT AAwQmSIGN AAsEsIsUrErIsEsIrOEsOrUsAsUrYsAsYcOJKI ABBREVIATION SIGNhDANDA",
   "iOUBLE DANDAoSECTION MARKhLETTER ApApIpUoBApBApHAoCApHAoDApDAqDAqHApHAoEoGApGApHAoHAoIoJApJA",
   "oKApHAoLApLAoMAoNApGApNApYAoOoPApHAoRAoSAoTApHApTAqHAoUoVAoYAhSECTION MARKiIGN ANUSVARAmNUKTA",
   "mSHADDAnUKUNmVIRAMAhVOWEL SIGN AAtItUsEsItIsOsUhWORD SEPARATORcUDAWADI DIGIT EIGHTqFIVErOUR",
   "qNINEqONEqSEVENrIXqTHREErWOqZEROkLETTER AsAsIsUrBAsBAsHArCAsHArDAsDAtDAtHAsHArErGAsGAsHArHArI",
   "sIrJAsHAsJArKAsHArLArMArNAsGAsNAsYArOrPAsHArRAsRArSAsHArTAsHAsTAtHArUsUrVArYAkSIGN ANUSVARA",
   "pNUKTApVIRAMAkVOWEL SIGN AAwIwUvEvIwIvOvUwUbIMONOcP SIGNcSSe MARKeING CAT FACE WITH CLOSED EYE",
   "SiFACEm WITH CLOSED EYESsSMILING EYEScTEcWIFRUITbNEELING PERSONcOTbOALAcREAN STANDARD SYMBOL",
   "bRONOSaL B BAR SYMBOLbAB COATdELcCROSSE STICK AND BALLcDDERdY BEETLEcNGUAGE TAG",
   "cO CANCELLATION MARKeDIGIT EIGHTkFIVElOURkNINEkONEkSEVENlIXkTHREElWOkZEROeELLIPSISeHO MOhNO",
   "eKO LAeLETTER BOlCOlDOlFO FAYpONoSUNGoTAMlHO SUNGoTAMlKHMU GOqNYOnO SUNGpTAMmOlLOn LINGpOOTlMO",
   "lNGOmOmYOlOlPALI BHAqCHAqDDAsHArHAqGHAqJHAqLLAqNNArYAqTTAsHAmHO SUNGpTAMmOlROlSANSKRIT SHAvSA",
   "mO SUNGoTAMlTHO SUNGpTAMmOlWOlYOeNIGGAHITAeSEMIVOWEL SIGN LOtNYOfIGN PALI VIRAMA",
   "eTONE MAI CATAWAnEKnTHOoIeVOWEL SIGN AqAqIqMqYpEqIpIqIpMAI KANuONpOpUqUpYqYcRGE BLUE CIRCLE",
   "lDIAMONDlSQUAREhROWN CIRCLEmSQUAREgCIRCLEgDOWN TACKgGREEN CIRCLEmSQUAREgLEFT TRIANGLE OPERATOR",
   "gONE DOT OVER TWO DOTS PUNCTUATIONkRING OVER TWO RINGS PUNCTUATIONhRANGE CIRCLEnDIAMONDnSQUARE",
   "gPURPLE CIRCLEnSQUAREgRED CIRCLEkSQUAREgTRIPLE VERTICAL BAR OPERATORhWO DOTS OVER ONE DOT PUNC",
   "TUATIONkRINGS OVER ONE RING PUNCTUATIONgUP TACKgYELLOW CIRCLEnSQUAREfR THANl OR EQUAL TO",
   "dI SIGNcST QUARTER MOONr SYMBOLsWITH FACEcTIN CAPITAL LETTER Aw WITH ACUTEbcBREVEbh AND ACUTE",
   "bmDOT BELOWbmGRAVEbmHOOK ABOVEbmTILDEbcCARONbdIRCUMFLEXbm AND ACUTEbrDOT BELOWbrGRAVE",
   "brHOOK ABOVEbrTILDEbcDIAERESISbl AND MACRONbdOT ABOVEbl AND MACRONbgBELOWbeUBLE GRAVEbcGRAVE",
   "bcHOOK ABOVEbcINVERTED BREVEbcMACRONbcOGONEKbcRING ABOVEbm AND ACUTEbhBELOWbcSTROKEbcTILDEwAwE",
   "x WITH ACUTEbdMACRONwFRICAN DwLPHAwNGLICANA WwOwUwVx WITH HORIZONTAL BARwYvBw WITH DOT ABOVE",
   "bgBELOWbcFLOURISHbcHOOKbcLINE BELOWbcSTROKEbcTOPBARwETAwROKEN LvCw WITH ACUTEbcBARbcCARON",
   "bdEDILLAbj AND ACUTEbdIRCUMFLEXbcDOT ABOVEbcHOOKbcPALATAL HOOKbcSTROKEwHIwLOSED INSULAR GwON",
   "wUATRILLObe WITH COMMAvDw WITH CARONbdEDILLAbdIRCUMFLEX BELOWbcDOT ABOVEbgBELOWbcHOOK",
   "bcLINE BELOWbcSHORT STROKE OVERLAYbdMALL LETTER Zbq WITH CARONbdTROKEbcTOPBARwZx WITH CARONvE",
   "w WITH ACUTEbcBREVEbcCARONbdEDILLAbj AND BREVEbdIRCUMFLEXbm AND ACUTEbrDOT BELOWbrGRAVE",
   "brHOOK ABOVEbrTILDEbnBELOWbcDIAERESISbdOT ABOVEbgBELOWbeUBLE GRAVEbcGRAVEbcHOOK ABOVE",
   "bcINVERTED BREVEbcMACRONbi AND ACUTEbnGRAVEbcOGONEKbcSTROKEbcTILDEbh BELOWwGYPTOLOGICAL AIN",
   "bkLEFwNGwSHwTxHwZHy REVERSEDzWITH CARONvFw WITH DOT ABOVEbcHOOKbcSTROKEvGw WITH ACUTEbcBREVE",
   "bcCARONbdEDILLAbdIRCUMFLEXbcDOT ABOVEbcHOOKbcMACRONbcOBLIQUE STROKEbcSTROKEwAMMAwHAwLOTTAL A",
   "bdIbdSTOPbdUvHw WITH BREVE BELOWbcCARONbdEDILLAbdIRCUMFLEXbcDESCENDERbdIAERESISbdOT ABOVE",
   "bgBELOWbcHOOKbcSTROKEwALF HwENGwWAIRvIw WITH ACUTEbcBREVEbcCARONbdIRCUMFLEXbcDIAERESIS",
   "bl AND ACUTEbdOT ABOVEbgBELOWbeUBLE GRAVEbcGRAVEbcHOOK ABOVEbcINVERTED BREVEbcMACRONbcOGONEK",
   "bcSTROKEbcTILDEbh BELOWwNSULAR DbdFbdGbdRbdSbdTwOTAwSvJw WITH CIRCUMFLEXbdROSSED-TAILbcSTROKE",
   "vKw WITH ACUTEbcCARONbdEDILLAbcDESCENDERbdIAGONAL STROKEbdOT BELOWbcHOOKbcLINE BELOW",
   "bcOBLIQUE STROKEbcSTROKEbi AND DIAGONAL STROKEvLw WITH ACUTEbcBARbdELTbcCARONbdEDILLA",
   "bdIRCUMFLEX BELOWbcDOT BELOWbl AND MACRONbeUBLE BARbcHIGH STROKEbcLINE BELOWbcMIDDLE DOT",
   "bjTILDEbcSMALL LETTER JbdTROKEwJvMw WITH ACUTEbcDOT ABOVEbgBELOWbcHOOKwIDDLE SCOTS S",
   "bb-WELSH LLbiVvNw WITH ACUTEbcCARONbdEDILLAbdIRCUMFLEX BELOWbcDESCENDERbdOT ABOVEbgBELOW",
   "bcGRAVEbcLEFT HOOKbdINE BELOWbdONG RIGHT LEGbcOBLIQUE STROKEbcSMALL LETTER JbcTILDEwJvO",
   "w WITH ACUTEbcBREVEbcCARONbdIRCUMFLEXbm AND ACUTEbrDOT BELOWbrGRAVEbrHOOK ABOVEbrTILDE",
   "bcDIAERESISbl AND MACRONbdOT ABOVEbl AND MACRONbgBELOWbeUBLE ACUTEbjGRAVEbcGRAVEbcHOOK ABOVE",
   "beRNbg AND ACUTEblDOT BELOWblGRAVEblHOOK ABOVEblTILDEbcINVERTED BREVEbcLONG STROKE OVERLAYbeOP",
   "bcMACRONbi AND ACUTEbnGRAVEbdIDDLE TILDEbcOGONEKbi AND MACRONbcSTROKEbi AND ACUTEbcTILDE",
   "bh AND ACUTEbmDIAERESISbmMACRONwIwLD POLISH OwMEGAwOwPEN EbaOwUvPw WITH ACUTEbcDOT ABOVE",
   "bcFLOURISHbcHOOKbcSQUIRREL TAILbdTROKEbi THROUGH DESCENDERvQw WITH DIAGONAL STROKE",
   "bcSTROKE THROUGH DESCENDERvRw ROTUNDAxWITH ACUTEbcCARONbdEDILLAbcDOT ABOVEbgBELOWbl AND MACRON",
   "beUBLE GRAVEbcINVERTED BREVEbcLINE BELOWbcOBLIQUE STROKEbcSTROKEbcTAILwEVERSED C WITH DOTbeE",
   "beHALF HbeOPEN EwUM ROTUNDAvSw WITH ACUTEbh AND DOT ABOVEbcCARONbh AND DOT ABOVEbdEDILLA",
   "bdIRCUMFLEXbdOMMA BELOWbcDOT ABOVEbgBELOWbl AND DOT ABOVEbcHOOKbcOBLIQUE STROKE",
   "bcSHORT STROKE OVERLAYbdWASH TAILwALTILLOwCHWAxRIPT GwHARP SwIGMOID SwMALL CAPITAL I",
   "bbQ WITH HOOK TAILvTw WITH CARONbdEDILLAbdIRCUMFLEX BELOWbdOMMA BELOWbcDIAGONAL STROKE",
   "bdOT ABOVEbgBELOWbcHOOKbcLINE BELOWbcRETROFLEX HOOKbcSTROKEwHORNba WITH STROKE",
   "bm THROUGH DESCENDERwONE FIVEbaSIXbaTWOwRESILLOwURNED AbdLPHAbcHbcINSULAR GbcKbcLbcMbcTbcVwZvU",
   "w BARxWITH ACUTEbcBREVEbcCARONbdIRCUMFLEXbm BELOWbcDIAERESISbl AND ACUTEbqCARONbqGRAVEbqMACRON",
   "bmBELOWbdOT BELOWbeUBLE ACUTEbjGRAVEbcGRAVEbcHOOK ABOVEbeRNbg AND ACUTEblDOT BELOWblGRAVE",
   "blHOOK ABOVEblTILDEbcINVERTED BREVEbcMACRONbi AND DIAERESISbcOGONEKbcRING ABOVEbcSTROKEbcTILDE",
   "bh AND ACUTEbiBELOWwPSILONvVw WITH DIAGONAL STROKEbdOT BELOWbcHOOKbcTILDEwENDwISIGOTHIC Z",
   "wOLAPUK AEbdOEbdUEwYvWw WITH ACUTEbcCIRCUMFLEXbcDIAERESISbdOT ABOVEbgBELOWbcGRAVEbcHOOKwYNNvX",
   "w WITH DIAERESISbdOT ABOVEvYw WITH ACUTEbcCIRCUMFLEXbcDIAERESISbdOT ABOVEbgBELOWbcGRAVEbcHOOK",
   "bg ABOVEbcLOOPbcMACRONbcSTROKEbcTILDEwOGHvZw WITH ACUTEbcCARONbdIRCUMFLEXbcDESCENDERbdOT ABOVE",
   "bgBELOWbcHOOKbcLINE BELOWbcPALATAL HOOKbcSTROKEbdWASH TAILpIGATURE IJxOEhROSS",
   "gEPIGRAPHIC LETTER ARCHAIC MyI LONGAzNVERTED MyREVERSED FbhPySIDEWAYS IgLETTER AIN",
   "oLVEOLAR CLICKnBIDENTAL PERCUSSIVEpLABIAL CLICKwPERCUSSIVEnDENTAL CLICKnGLOTTAL STOP",
   "z WITH STROKEnINVERTED GLOTTAL STOPbi WITH CURLboSTROKEnLATERAL CLICKnPHARYNGEAL VOICED FRICAT",
   "IVEnRETROFLEX CLICKbc WITH RETROFLEX HOOKpVERSED ESH LOOPwGLOTTAL STOP WITH STROKE",
   "nSINOLOGICAL DOToMALL CAPITAL AbcEbbBbcARRED BbbCbbDbbEbcTHbcZHbbFbbGbc WITH HOOKbbHbbI",
   "bcNVERTED RbbJbbKbbLbc WITH BELTbiSTROKEbbMbbNbbObcEbcPEN ObcUbbPbbQbbRbc WITH RIGHT LEG",
   "bcEVERSED NbkRbcUMbbSbbTbcURNED EbiGbiKbiMbiRbbUbbVbbWbbYbbZoTRETCHED Cy WITH CURL",
   "nTWO WITH STROKEnVOICED LARYNGEAL SPIRANTnWYNNnYRgSMALL CAPITAL LETTER I WITH STROKE",
   "bbU WITH STROKEmLETTER Au REVERSED-SCHWAvWITH ACUTEbaBREVEbf AND ACUTEbkDOT BELOWbkGRAVE",
   "bkHOOK ABOVEbkTILDEbaCARONbbIRCUMFLEXbk AND ACUTEbpDOT BELOWbpGRAVEbpHOOK ABOVEbpTILDE",
   "baDIAERESISbj AND MACRONbbOT ABOVEbj AND MACRONbeBELOWbcUBLE GRAVEbaGRAVEbaHOOK ABOVE",
   "baINVERTED BREVEbaMACRONbaOGONEKbaRETROFLEX HOOKbbIGHT HALF RINGbcNG ABOVEbk AND ACUTEbfBELOW",
   "baSTROKEbaTILDEuAuEv WITH ACUTEbbMACRONuLPHAy WITH RETROFLEX HOOKuNGLICANA WuOuUuV",
   "v WITH HORIZONTAL BARuYtBu WITH DOT ABOVEbeBELOWbaFLOURISHbaHOOKbaLINE BELOWbaMIDDLE TILDE",
   "baPALATAL HOOKbaSTROKEbaTOPBARuARRED ALPHAbaEbaOvSELINE ESHuETAuLACKLETTER EbfObg WITH STROKE",
   "uOTTOM HALF OuROKEN LtCu WITH ACUTEbaBARbaCARONbbEDILLAbh AND ACUTEbbIRCUMFLEXbbURLbaDOT ABOVE",
   "baHOOKbaPALATAL HOOKbaRETROFLEX HOOKbaSTROKEuHIw WITH LOW LEFT SERIFbgRIGHT RING",
   "uLOSED INSULAR GbaOMEGAbbPEN EbaREVERSED OPEN EuONuUATRILLObc WITH COMMAtDu WITH CARONbbEDILLA",
   "bbIRCUMFLEX BELOWbbURLbaDOT ABOVEbeBELOWbaHOOKbe AND TAILbaLINE BELOWbaMIDDLE TILDE",
   "baPALATAL HOOKbaSHORT STROKE OVERLAYbbTROKEbaTAILbbOPBARuB DIGRAPHuELTAvZH DIGRAPH",
   "bf WITH PALATAL HOOKblRETROFLEX HOOKuOTLESS IbbJbc WITH STROKEbo AND HOOKvUBLE R",
   "bb WITH CROSSED-TAILbaTHORNbaWYNNuUMuZv DIGRAPHbd WITH CURLbjRETROFLEX HOOKwWITH CARONtE",
   "u WITH ACUTEbaBREVEbaCARONbbEDILLAbh AND BREVEbbIRCUMFLEXbk AND ACUTEbpDOT BELOWbpGRAVE",
   "bpHOOK ABOVEbpTILDEblBELOWbaDIAERESISbbOT ABOVEbeBELOWbcUBLE GRAVEbaFLOURISHbaGRAVE",
   "baHOOK ABOVEbaINVERTED BREVEbaMACRONbg AND ACUTEblGRAVEbaNOTCHbaOGONEKbaRETROFLEX HOOKbaSTROKE",
   "baTILDEbf BELOWuGYPTOLOGICAL AINbiLEFuNGw WITH CROSSED-TAILbcPALATAL HOOKuSHw WITH CURL",
   "bcDOUBLE BARbm AND CURLbcPALATAL HOOKbcRETROFLEX HOOKuTvHuZHw REVERSEDxWITH CARONbdURL",
   "bcPALATAL HOOKbcRETROFLEX HOOKbcTAILtFu WITH DOT ABOVEbaHOOKbaMIDDLE TILDEbaPALATAL HOOK",
   "baSTROKEuENG DIGRAPHbf WITH TRILLtGu WITH ACUTEbaBREVEbaCARONbbEDILLAbbIRCUMFLEXbaDOT ABOVE",
   "baHOOKbaMACRONbaOBLIQUE STROKEbaPALATAL HOOKbaSTROKEuAMMAuHAuLOTTAL AbbIbbSTOPbbUtH",
   "u WITH BREVE BELOWbaCARONbbEDILLAbbIRCUMFLEXbaDESCENDERbbIAERESISbbOT ABOVEbeBELOWbaHOOK",
   "baLINE BELOWbaPALATAL HOOKbaSTROKEuALF HuENGx WITH HOOKuVtIu WITH ACUTEbaBREVEbaCARON",
   "bbIRCUMFLEXbaDIAERESISbj AND ACUTEbbOT BELOWbcUBLE GRAVEbaGRAVEbaHOOK ABOVEbaINVERTED BREVE",
   "baMACRONbaOGONEKbaRETROFLEX HOOKbaSTROKEbg AND RETROFLEX HOOKbaTILDEbf BELOWuNSULAR DbbFbbGbbR",
   "bbSbbTvVERTED ALPHAbcOEuOTAx WITH STROKEwIFIED EuStJu WITH CARONbbIRCUMFLEXbbROSSED-TAIL",
   "baSTROKEtKu WITH ACUTEbaCARONbbEDILLAbaDESCENDERbbIAGONAL STROKEbbOT BELOWbaHOOKbaLINE BELOW",
   "baOBLIQUE STROKEbaPALATAL HOOKbaSTROKEbg AND DIAGONAL STROKEuRAtLu WITH ACUTEbaBARbbELT",
   "be AND PALATAL HOOKbaCARONbbEDILLAbbIRCUMFLEX BELOWbbURLbaDOT BELOWbj AND MACRONbcUBLE BAR",
   "bhMIDDLE TILDEbaFISHHOOKbaHIGH STROKEbaINVERTED LAZY SbaLINE BELOWbaMIDDLE DOTbhRINGbhTILDE",
   "baPALATAL HOOKbaRETROFLEX HOOKbo AND BELTbaSTROKEuAMBDA WITH STROKEuENIS FvZH",
   "x WITH RETROFLEX HOOKuJuONG Sz WITH DIAGONAL STROKEbgOT ABOVEbfHIGH STROKEuS DIGRAPHuUM",
   "uZ DIGRAPHtMu WITH ACUTEbaCROSSED-TAILbaDOT ABOVEbeBELOWbaHOOKbaMIDDLE TILDEbaPALATAL HOOK",
   "uIDDLE SCOTS Sz-WELSH LLbgVuUMtNu PRECEDED BY APOSTROPHEvWITH ACUTEbaCARONbbEDILLA",
   "bbIRCUMFLEX BELOWbbROSSED-TAILbbURLbaDESCENDERbbOT ABOVEbeBELOWbaGRAVEbaLEFT HOOKbbINE BELOW",
   "bbONG RIGHT LEGbaMIDDLE TILDEbaOBLIQUE STROKEbaPALATAL HOOKbaRETROFLEX HOOKbaTILDEuJuUMtO",
   "u WITH ACUTEbaBREVEbaCARONbbIRCUMFLEXbk AND ACUTEbpDOT BELOWbpGRAVEbpHOOK ABOVEbpTILDE",
   "baDIAERESISbj AND MACRONbbOT ABOVEbj AND MACRONbeBELOWbcUBLE ACUTEbhGRAVEbaGRAVEbaHOOK ABOVE",
   "bcRNbe AND ACUTEbjDOT BELOWbjGRAVEbjHOOK ABOVEbjTILDEbaINVERTED BREVEbaLONG STROKE OVERLAYbcOP",
   "bcW RING INSIDEbaMACRONbg AND ACUTEblGRAVEbaOGONEKbg AND MACRONbaRETROFLEX HOOKbaSTROKE",
   "bg AND ACUTEbaTILDEbf AND ACUTEbkDIAERESISbkMACRONuIuLD POLISH OuMEGAuOuPEN E",
   "z WITH RETROFLEX HOOKyOz WITH RETROFLEX HOOKbfSTROKEzEuUtPu WITH ACUTEbaDOT ABOVEbaFLOURISH",
   "baHOOKbaMIDDLE TILDEbaPALATAL HOOKbaSQUIRREL TAILbbTROKEbg THROUGH DESCENDERuHItQ",
   "u WITH DIAGONAL STROKEbaHOOKbe TAILbaSTROKE THROUGH DESCENDERuP DIGRAPHtRu ROTUNDAvWITH ACUTE",
   "baCARONbbEDILLAbbROSSED-TAILbaDOT ABOVEbeBELOWbj AND MACRONbcUBLE GRAVEbaFISHHOOK",
   "bi AND MIDDLE TILDEbnPALATAL HOOKbaINVERTED BREVEbaLINE BELOWbbONG LEGbaMIDDLE TILDE",
   "baOBLIQUE STROKEbaPALATAL HOOKbaSTROKEbaTAILzOUT HANDLEuAMS HORNuEVERSED Cbd WITH DOTbcEbdNG",
   "bcHALF HbcKbcOPEN Ebi WITH HOOKboRETROFLEX HOOKbcR WITH FISHHOOKbcSCRIPT GuUMw ROTUNDAtS",
   "u WITH ACUTEbf AND DOT ABOVEbaCARONbf AND DOT ABOVEbbEDILLAbbIRCUMFLEXbbOMMA BELOWbbURL",
   "baDOT ABOVEbeBELOWbj AND DOT ABOVEbaHOOKbaMIDDLE TILDEbaOBLIQUE STROKEbaPALATAL HOOK",
   "baSHORT STROKE OVERLAYbbWASH TAILuAKHA YATvLTILLOuCHWAy WITH HOOKbeRETROFLEX HOOKvRIPT G",
   "bb WITH CROSSED-TAILbaRbb WITH RINGuHARP SuIDEWAYS DIAERESIZED UbcObd WITH STROKEbdPEN O",
   "bcTURNED MbcUvGMOID SuQUAT REVERSED ESHuTIRRUP RtTu WITH CARONbbEDILLAbbIRCUMFLEX BELOW",
   "bbOMMA BELOWbbURLbaDIAERESISbdGONAL STROKEbbOT ABOVEbeBELOWbaHOOKbe AND RETROFLEX HOOK",
   "baLINE BELOWbaMIDDLE TILDEbaPALATAL HOOKbaRETROFLEX HOOKbaSTROKEuAILLESS PHI",
   "uC DIGRAPH WITH CURLuESH DIGRAPHbf WITH PALATAL HOOKblRETROFLEX HOOKuH WITH STRIKETHROUGHvORN",
   "y WITH STROKEbk THROUGH DESCENDERuONE FIVEySIXyTWOvP HALF OuRESILLOuS DIGRAPH",
   "bd WITH RETROFLEX HOOKuUMvRNED AbbEbbLPHAbaDELTAbaEbaGbaHbb WITH FISHHOOKbp AND TAILbaI",
   "bbNSULAR GbaKbaLbaMbb WITH LONG LEGbaO OPEN-Obi WITH STROKEbbEbc WITH HORIZONTAL STROKE",
   "biSTROKEbbPEN EbaRbb WITH HOOKbhLONG LEGbp AND RETROFLEX HOOKbhMIDDLE TILDEbhPALATAL HOOK",
   "bhTAILbaTbb WITH CURLbaUIbaVbaWbaYbb WITH BELTuZtUu BARy WITH SHORT RIGHT LEGvWITH ACUTE",
   "baBREVEbaCARONbbIRCUMFLEXbk BELOWbaDIAERESISbj AND ACUTEboCARONboGRAVEboMACRONbkBELOW",
   "bbOT BELOWbcUBLE ACUTEbhGRAVEbaGRAVEbaHOOK ABOVEbcRNbe AND ACUTEbjDOT BELOWbjGRAVEbjHOOK ABOVE",
   "bjTILDEbaINVERTED BREVEbaLEFT HOOKbaMACRONbg AND DIAERESISbaOGONEKbaRETROFLEX HOOKbbING ABOVE",
   "baSHORT RIGHT LEGbbTROKEbaTILDEbf AND ACUTEbgBELOWuEuIuMuOuPSILONba WITH STROKEtVu WITH CURL",
   "baDIAGONAL STROKEbbOT BELOWbaHOOKbaPALATAL HOOKbaRIGHT HOOKbaTILDEuENDuISIGOTHIC ZuOLAPUK AE",
   "bbOEbbUEuYtWu WITH ACUTEbaCIRCUMFLEXbaDIAERESISbbOT ABOVEbeBELOWbaGRAVEbaHOOKbaRING ABOVEtX",
   "u WITH DIAERESISbbOT ABOVEbaLONG LEFT LEGbn AND LOW RIGHT RINGboWITH SERIFbcW RIGHT RING",
   "baPALATAL HOOKtYu WITH ACUTEbaCIRCUMFLEXbaDIAERESISbbOT ABOVEbeBELOWbaGRAVEbaHOOKbe ABOVE",
   "baLOOPbaMACRONbaRING ABOVEbaSHORT RIGHT LEGbbTROKEbaTILDEuOGHtZu WITH ACUTEbaCARONbbIRCUMFLEX",
   "bbURLbaDESCENDERbbOT ABOVEbeBELOWbaHOOKbaLINE BELOWbaMIDDLE TILDEbaPALATAL HOOK",
   "baRETROFLEX HOOKbaSTROKEbbWASH TAILnIGATURE FFxIxLwIwLvIJvLONG S TvOEvST",
   "hUBSCRIPT SMALL LETTER AbdEbdHbdIbdJbdKbdLbdMbdNbdObdPbdRbdSbeCHWAbdTbdUbdVbdX",
   "bEAF FLUTTERING IN WINDeY GREENcDGERcFT AND LOWER AND RIGHT TRIANGULAR THREE QUARTERS BLOCK",
   "pONE EIGHTH BLOCKjRIGHT DOUBLE TURNSTILEpTACKqRIANGULAR HALF BLOCKjUPPER AND RIGHT TRIANGULAR ",
   "THREE QUARTERS BLOCKpONE EIGHTH BLOCKhGER BUBBLEiLE BRACKETs WITH DOTgRC LESS-THAN BRACKET",
   "hROW WITH CIRCLED PLUSqSMALL CIRCLEfBARB DOWN RIGHT BARB DOWN HARPOONbaUP HARPOON",
   "kUP RIGHT BARB DOWN HARPOONyUP HARPOONgLACK LENTICULAR BRACKETlTORTOISE SHELL BRACKETfCEILING",
   "gLOSED ENTRYgORNER BRACKETgURLY BRACKETs LOWER HOOKtMIDDLE PIECEtUPPER HOOK",
   "fDOTTED SUBSTITUTION BRACKEThUBLE ANGLE BRACKETmPARENTHESISmQUOTATION MARKmWIGGLY FENCE",
   "fFISH TAILhVE EIGHTHS BLOCKgLOORfHALF BLACK CIRCLEqSTARmOCKkCIRCLEq WITH DOTwFOUR DOTS",
   "wTHREE DOTSxWO DOTSkFOLDERkINVERSE MEDIUM SHADE AND RIGHT HALF BLOCKkMEDIUM SHADEkRUNNING MAN",
   "hND TELEPHONE RECEIVERfLOW PARAPHRASE BRACKETgUGGAGEfMULTIMAPfNORMAL FACTOR SEMIDIRECT PRODUCT",
   "fONE EIGHTH BLOCKjQUARTER BLOCKgUTER JOINfPARENTHESISq EXTENSIONrLOWER HOOKrUPPER HOOK",
   "fRAISED OMISSION BRACKETgIGHT ARROWq THROUGH SMALL CIRCLErWITH DOUBLE VERTICAL STROKEwSTROKE",
   "wVERTICAL STROKElBLACK ARROWlDOUBLE ARROWx WITH STROKEbdVERTICAL STROKElOPEN-HEADED ARROW",
   "lSANS-SERIF ARROWlTRIANGLE-HEADED ARROWlWAVE ARROWmHITE ARROWfS-SHAPED BAG DELIMITER",
   "gEMIDIRECT PRODUCThVEN EIGHTHS BLOCKgIDEWAYS U BRACKEThNGLE QUOTATION MARKgPEECH BUBBLE",
   "gQUARE BRACKETt EXTENSIONuLOWER CORNERuUPPER CORNERuWITH DOUBLE STROKEzQUILLzSTROKE",
   "zTICK IN BOTTOM CORNERbhTOP CORNERzUNDERBARgUBSTITUTION BRACKETfTACKgHIRD WHITE RIGHT POINTING",
   " INDEXhOUGHT BUBBLEhREE EIGHTHS BLOCKlQUARTERS BLOCKgORTOISE SHELL BRACKET",
   "gRANSPOSITION BRACKEThIANGLE BESIDE VERTICAL BARlULAR ONE QUARTER BLOCK",
   "fVERTICAL BAR WITH QUILLpOX LINEfWHITE CORNER BRACKETmURLY BRACKETlLENTICULAR BRACKET",
   "lPARENTHESISlSQUARE BRACKETlTORTOISE SHELL BRACKETgIGGLY FENCEgRITING HAND",
   "e-FACING ARMENIAN ETERNITY SIGNmFISTmSVASTI SIGNx WITH DOTSfHANDED INTERLACED PENTAGRAM",
   "fPOINTING ANGLE BRACKEToCURVED ANGLE BRACKEToDOUBLE ANGLE QUOTATION MARKoMAGNIFYING GLASS",
   "fSHADED WHITE RIGHTWARDS ARROWgIDE ARC ANTICLOCKWISE ARROWfTO-RIGHT EMBEDDINGoISOLATEoMARK",
   "oOVERRIDEeWARDS ARROWp ABOVE ALMOST EQUAL TOwREVERSE ALMOST EQUAL TObeTILDE OPERATOR",
   "wSHORT RIGHTWARDS ARROWwTILDE OPERATORrND UPPER AND LOWER ONE EIGHTH BLOCKqFROM BAR",
   "y TO BLACK DIAMONDqOVER RIGHTWARDS ARROWqTHROUGH LESS-THANySUBSETyXrO BAR",
   "w OVER RIGHTWARDS ARROW TO BARuLACK DIAMONDqWITH DOTTED STEMxUBLE VERTICAL STROKE",
   "vEQUILATERAL ARROWHEADvHOOKvLARGE TRIANGLE ARROWHEADwOOPvMEDIUM TRIANGLE ARROWHEAD",
   "vNOTCHED TAILvPLUS BELOWvSMALL EQUILATERAL ARROWHEADbbTRIANGLE ARROWHEADwTROKEvTAIL",
   "z WITH DOUBLE VERTICAL STROKEbfVERTICAL STROKEwIP DOWNWARDSzUPWARDSvVERTICAL STROKEp-TAIL",
   "kBACK-TILTED SHADOWED WHITE ARROWlLACK ARROWqCIRCLED WHITE ARROWlOTTOM-SHADED WHITE ARROW",
   "kCOMPRESSED ARROWkDASHED ARROWlOUBLE ARROWw FROM BARxWITH STROKEbcVERTICAL STROKEw-TAIL",
   "rDASH ARROWkFINGER-POST ARROWlRONT-TILTED SHADOWED WHITE ARROWkHANDmRPOON OVER RIGHTWARDS HARP",
   "OONsWITH BARB DOWN ABOVE RIGHTWARDS HARPOON WITH BARB DOWNbhBELOW LONG DASHbhFROM BARbhTO BAR",
   "bgWARDSbcUP ABOVE LEFTWARDS HARPOON WITH BARB DOWNbmONG DASHblRIGHTWARDS HARPOON WITH BARB UP",
   "bfFROM BARbfTO BARbeWARDSlEAVY ARROWqCOMPRESSED ARROWkLEFT-SHADED WHITE ARROW",
   "kOPEN-HEADED ARROWkPAIRED ARROWSkQUADRUPLE ARROWkRIGHT-SHADED WHITE ARROWlOCKET",
   "kSANS-SERIF ARROWlQUARED ARROWnIGGLE ARROWkTOP SHADED WHITE ARROWlRIANGLE ARROWHEAD",
   "s-HEADED ARROWbf OVER RIGHTWARDS TRIANGLE-HEADED ARROWbgTO BARbgWITH BOLD SHAFT",
   "blDOUBLE HORIZONTAL STROKEbsVERTICAL STROKEblHEAVY SHAFTblLONG TIP DOWNWARDSbuUPWARDS",
   "blMEDIUM SHAFTblNARROW SHAFTblVERY HEAVY SHAFTbaDASHED ARROWbaPAIRED ARROWSnPLE ARROW",
   "rDASH ARROWlWO HEADED ARROWn-HEADED ARROW FROM BARbbWITH DOUBLE VERTICAL STROKEbgTAIL",
   "bk WITH DOUBLE VERTICAL STROKEbqVERTICAL STROKEbhRIANGLE ARROWHEADSbgVERTICAL STROKE",
   "vTRIPLE DASH ARROWkWAVE ARROWlHITE ARROWv WITHIN TRIANGLE ARROWHEADcGcMONcOdPARD",
   "cPCHA CONSONANT SIGN KxANGwLwMwNxYIN-DOwPwRwThDIGIT EIGHTnFIVEoOURnNINEnONEnSEVENoIXnTHREEoWO",
   "nZEROhLETTER AoBApLAoCApHAoDApDApZAoFApLAoGApLAoHApLAoJAoKApHApLAoLAoMApLAoNApGApYAoPApHApLA",
   "oRAoSApHAoTApHApSAqHApTAqHAoVAoWAoYAhPUNCTUATION CER-WAtNYET THYOOM TA-ROLtTA-ROLuSHOOK",
   "z CER-WAhSIGN NUKTAmRANiUBJOINED LETTER RAyYAhVOWEL SIGN AAsEsIsOtOsUtU",
   "cSS-THAN ABOVE DOUBLE-LINE EQUAL ABOVE GREATER-THANqGREATER-THAN ABOVE DOUBLE-LINE EQUAL",
   "qLEFTWARDS ARROWqSIMILAR ABOVE GREATER-THANyOR EQUALrLANTED EQUAL ABOVE GREATER-THAN ABOVE SLA",
   "NTED EQUALlND NOT APPROXIMATEoSINGLE-LINE NOT EQUAL TOkBUT NOT EQUAL TOvIVALENT TO",
   "kCLOSED BY CURVEz ABOVE SLANTED EQUALkEQUAL TO OR GREATER-THANkOR APPROXIMATEnEQUAL TO",
   "qIVALENT TOnGREATER-THANnSLANTED EQUAL TObd WITH DOT ABOVEbs RIGHTbnINSIDElVER EQUAL TOkSIGN",
   "kWITH CIRCLE INSIDEpDOTpQUESTION MARK ABOVEcVEL SLIDERbFbIBRAcGATURE OPEN ET ORNAMENT",
   "dHT CHECK MARKgEIGHT SPOKED ASTERISKgFIVE POINTED BLACK STARlSPOKED ASTERISK",
   "hOUR POINTED BLACK CUSPzSTARgGREEK CROSSgLEFT TORTOISE SHELL BRACKET ORNAMENTgRAIL",
   "hIGHT TORTOISE SHELL BRACKET ORNAMENTgSALTIREhHADEhIX SPOKED ASTERISKgTHREE POINTED BLACK STAR",
   "hWELVE POINTED BLACK STARgVERTICAL BARgWHITE SQUAREfNINGj MOODo BUBBLEcMBU DIGIT EIGHTmFIVE",
   "nOURmNINEmONEmSEVENnIXmTHREEnWOmZEROgEXCLAMATION MARKgLETTER BAoHAnCAoHAnDAoHAnGAoHAoYANnHAnJA",
   "oHAnKAoHAnLAnMAnNAoGAnPAoHAnRAnSAoHAoSAnTAoHAoRAnWAnYApNgQUESTION MARKgSIGN KEMPHRENGlLOO",
   "lMUKPHRENGlSA-IhMALL LETTER ANUSVARAtKAtLAtMAtNAuGAtPAtRAtTAhUBJOINED LETTER RAxWAxYA",
   "gVOWEL SIGN AsIsUrEsErIrOsOrUl-CARRIER LETTERdITED LIABILITY SIGNcNE FEED",
   "fINTEGRATION NOT INCLUDING THE POLErWITH RECTANGULAR PATH AROUND POLEwSEMICIRCULAR PATH AROUND",
   " POLEfSEPARATORfTABULATIONp SETeAR A SIGN A028Bp100-102q20Bq31Cp301r2r3r4r5r6r7r8r9AsBsCq10r1",
   "r2r3AsBsCr4r5r6r7r8r9q20r1r2r3r4r5r6r7r8r9q30r1r2r3r4r5r6r7r8r9q40r1r2r3r4r5r6r7r8r9q50r1r2r3",
   "r4r5r6r7r8r9q60r1r2r3r4r5r6r7r8r9q70r1p400-VASr1-VASr2-VASr3-VASr4-VASr5-VASr6-VASr7-VASr8-VAS",
   "r9-VASq10-VASr1-VASr2-VASr3-VASr4-VASr5-VASr6-VASr7-VASr8-VASp501r2r3r4r5r6r8r9q10r1r2r3r5r6",
   "q20r1r3r4r5r6r7r8r9q30r1r2r4r5r6r7r8r9q40r1r2r5r7r8r9q50r1r2r3r4r5r6r7r9q63r4r5r6r8r9q70r1r2r3",
   "r4r5r6r7r8r9q80r1r2r3r4r5r6r7r8r9q91r2r4r5r6r8p600r1r2r3r4r6r8r9q10r1r2r3r4r5r6r7r8r9q20r1r2r3",
   "r4r6r7r8r9q34r7r8q40r2r3r4r5r6r8r9q51r2r3r4r5r6r7r8r9q60r1r2r3r4p701 Ar2 Br3 Dr4 Er5 Fr6 Hr7 J",
   "r8 Kr9 Ls-2 L2t3 L3t4 L4t6 L6q10 Wr1 Xr2 Yr3 OMEGAr4 ABBr5 BBr7 DDq26 EYYYq32 JEp800r1r2r3r4r5",
   "r6r7pB001s2s3s4s5s6s7s8s9r10s1s3s6s7r20s1tFtMs2tFtMs3tMs4s6s7s8s9r30s1s4s7s8s9r40s1s4s5s6s7s8",
   "s9r50s1s3s4s5s6s7s8s9r60s1s5s6s7s9r70s3s4s6s7s8s9r80s1s2s5s6s7q118r20s2s3r31AtBr64r71r80s8r91",
   "hB IDEOGRAM B100 MANv2 WOMANv4 DEERv5 EQUIDwF MAREwM STALLIONv6F EWEwM RAMv7F SHE-GOAT",
   "wM HE-GOATv8F SOWwM BOARv9F COWwM BULLu20 WHEATv1 BARLEYv2 OLIVEv3 SPICEv5 CYPERUSu30 OIL",
   "v1 WINEv2u40 BRONZEv1 GOLDv2v5 WOOLv6u50v1 HORNv2v3v4v7v8v9 CLOTHu60v1v2 GARMENTv3 ARMOURv4v5",
   "v6v7v8v9u70v1v2v3 MONTHv4v6 TREEv7v8v9u80v1v2v3v4v5v9u90v1 HELMETt220 FOOTSTOOLv5 BATHTUB",
   "u30 SPEARv1 ARROWv2v3 SWORDv4v6u40 WHEELED CHARIOTv1 CHARIOTv2 CHARIOT FRAMEv3 WHEELv5v6v8v9",
   "u51v2v3v4 DARTv5v6v7v8v9sVESSEL B155ba200bc1bc2bc3bc4bc5bc6bc7bc8bc9bb10bc1bc2bc3bc4bc5bc6bc7",
   "bc8bc9bb21bc2bc6bc7bc8bc9bb50ba305jMONOGRAM B127 KAPOv8 KANAKOu33 AREPAv5 MERIu56 TURO2",
   "t247 DIPTEjSYLLABLE B001 DAv2 ROv3 PAv4 TEv5 TOv6 NAv7 DIv8 Av9 SEu10 Uv1 POv2 SOv3 MEv4 DO",
   "v5 MOv6 QAv7 ZAu20 ZOv1 QIv3 MUv4 NEv5 A2v6 RUv7 REv8 Iv9 PU2u30 NIv1 SAv2 QOv3 RA3v6 JOv7 TI",
   "v8 Ev9 PIu40 WIv1 SIv2 WOv3 A3v4 KEv5 DEv6 JEv8 NWAu50 PUv1 DUv2 NOv3 RIv4 WAv5 NUv7 JAv8 SU",
   "v9 TAu60 RAv1 Ov2 PTEv5 JUv6 TA2v7 KIv8 RO2v9 TUu70 KOv1 DWEv2 PEv3 MIv4 ZEv5 WEv6 RA2v7 KA",
   "v8 QEu80 MAv1 KUv5 AUv7 TWEu90 DWOv1 TWOlMBOL B018t9s22s34s47t9s56s63t4s79s82t3t6t9dK SYMBOL",
   "eED PAPERCLIPScON FACEcPSeTICKcRA SIGNcSU LETTER AnEmBAmCAnHAmDAnZAmEnUmFAmGAnHAmHAnHAmImJAmKA",
   "nHAmLAmMAmNAnGAmOnEmPAnHAmSAnHAmTAnHAnONE MYA BOvCYAvJEUvNAvTIrNA POnSAoHAmUnEnHmWAmXAmYAnHA",
   "mZAnHAfPUNCTUATION COMMArFULL STOPcVRE TOURNOIS SIGNcZARDbLAMAbOBSTERcCKe WITH INK PEN",
   "eING-SHIFT ONEoZEROcGICAL ANDl WITH DOT ABOVEtUBLE OVERBARyUNDERBARrHORIZONTAL DASH",
   "rMIDDLE STEMrUNDERBARiORk OVERLAPPING LOGICAL ANDlWITH DOT ABOVEsUBLE OVERBARxUNDERBAR",
   "qHORIZONTAL DASHqMIDDLE STEMcLLIPOPcNG DASH FROM LEFT MEMBER OF DOUBLE VERTICALgIVISIONgRUM",
   "fLEFT RIGHT ARROWqDOUBLE ARROWkTACKjWARDS ARROWu FROM BARpDOUBLE ARROWbb FROM BAR",
   "pSQUIGGLE ARROWfRIGHT TACKkWARDS ARROWv FROM BARqDOUBLE ARROWbc FROM BARqSQUIGGLE ARROW",
   "cTION BOTTLEdUScUDLY CRYING FACEcVE HOTELfLETTERcW ASTERISKeBATTERYfRIGHTNESS SYMBOL",
   "eDOUBLE PRIME QUOTATION MARKeKAVYKAk WITH DOTeLINEdER BLADE SCISSORSgFIVE EIGHTHS BLOCK",
   "gHALF BLOCKlCIRCLElINVERSE WHITE CIRCLElMEDIUM SHADEgLEFT BALLPOINT PEN",
   "mLOCK DIAGONAL LOWER MIDDLE LEFT TO LOWER CENTREcbRIGHTbaUPPER CENTRE TO LOWER MIDDLE RIGHT",
   "bwRIGHTbqUPPER MIDDLE RIGHTbgLEFT TO LOWER CENTREbuMIDDLE RIGHTboUPPER MIDDLE RIGHT",
   "bgMIDDLE LEFT TO LOWER CENTREcbMIDDLE RIGHTcbRIGHTlCRAYONlFOUNTAIN PENlPAINTBRUSHmENCIL",
   "lQUADRANT CIRCULAR ARClSEMICIRCULAR ANTICLOCKWISE ARROWlTRIANGLErULAR MEDIUM SHADE",
   "gONE EIGHTH BLOCKkQUARTER BLOCKgRIGHT BLOCK DIAGONAL LOWER CENTRE TO LOWER MIDDLE RIGHT",
   "brUPPER MIDDLE RIGHTbxRIGHTbhLEFT TO LOWER MIDDLE RIGHTbpUPPER CENTREbvMIDDLE RIGHT",
   "bhMIDDLE LEFT TO UPPER CENTREccMIDDLE RIGHTccRIGHTbbUPPER MIDDLE LEFT TO UPPER CENTREccRIGHT",
   "mCORNER WITH DOTmDROP-SHADOWED WHITE SQUAREmPENCILmQUADRANT CIRCULAR ARC",
   "mSEMICIRCULAR CLOCKWISE ARROWnHADOWED WHITE CIRCLEbbSQUAREmTRIANGLEsULAR MEDIUM SHADE",
   "gSEVEN EIGHTHS BLOCKgTHREE EIGHTHS BLOCKmQUARTERS BLOCKhRIANGULAR ONE QUARTER BLOCKcZENGE",
   "h DIVIDED BY HORIZONTAL RULEbREcIcMcObUGGAGEcNGSbYCIAN LETTER ApNoBpHoDoEpNoGoHoIoJoKpKoLoMpM",
   "oNpNoPoQoRoSoTpHpToUoWoXoZcDIAN LETTER ApNoBoCoDoEpNoFoGoIoKoLpYoMoNpNoOoQoRoSpSoTpToUoVoY",
   "hTRIANGULAR MARKcING FACEaMACRONcGEdIC WANDdNETcHAJANI ABBREVIATION SIGNjLETTER AqBArHAqCArHA",
   "qDArDAsHArHAqEqGArHAqHAqIqJArHAqKArHAqLAqMAqNArNArYAqOqPArHAqRArRAqSAqTArHArTAsHAqUqVA",
   "kIGATURE SHRIjSECTION MARKkIGN NUKTAdJONG TILE AUTUMNnBACKpMBOOnCHRYSANTHEMUMnEAST WIND",
   "oIGHT OF BAMBOOSwCHARACTERSxIRCLESnFIVE OF BAMBOOSvCHARACTERSwIRCLESoOUR OF BAMBOOSvCHARACTERS",
   "wIRCLESnGREEN DRAGONnJOKERnNINE OF BAMBOOSvCHARACTERSwIRCLESoORTH WINDnONE OF BAMBOOS",
   "uCHARACTERSvIRCLESoRCHIDnPLUMnRED DRAGONnSEVEN OF BAMBOOSwCHARACTERSxIRCLESoIX OF BAMBOOS",
   "uCHARACTERSvIRCLESoOUTH WINDoPRINGoUMMERnTHREE OF BAMBOOSwCHARACTERSxIRCLESoWO OF BAMBOOS",
   "uCHARACTERSvIRCLESnWEST WINDoHITE DRAGONoINTERcKASAR ANGKAiEND OF SECTIONiLETTER ApBApCApDApGA",
   "pJApKApLApMApNAqGAqYApPApRApSApTApVApYAiPASSIMBANGiVOWEL SIGN EtItOtUcLAYALAM AU LENGTH MARK",
   "kDATE MARKlIGIT EIGHTqFIVErOURqNINEqONEqSEVENrIXqTHREErWOqZEROkFRACTION ONE EIGHTHxFIFTH",
   "yORTIETHxHALFxONE-HUNDRED-AND-SIXTIETHxQUARTERxSIXTEENTHxTENTHyWENTIETHtTHREE EIGHTIETHS",
   "zQUARTERSzSIXTEENTHSzTWENTIETHSkLETTER AsAsIsRCHAIC IIsUrBAsHArCAsHAtILLU KyLzLbaLyMyNzNyRRyY",
   "rDAsDAtHAsHAsOT REPHrEsErGAsHArHArIsIrJAsHArKAsHArLAsLAtLArMArNAsGAsNAtNAsYArOsOrPAsHArRAsRA",
   "rSAsHAsSArTAsHAsTAtHAtTArUsUrVAsEDIC ANUSVARAsOCALIC LbaLzRbaRrYAkNUMBER ONE HUNDREDvTHOUSAND",
   "rTENkSIGN ANUSVARAqVAGRAHApCANDRABINDUqIRCULAR VIRAMAqOMBINING ANUSVARA ABOVEpPARA",
   "pVERTICAL BAR VIRAMAqIRAMArSARGAkVOWEL SIGN AAwIwUvEwEvIwIvOwOvUwUvVOCALIC LbeLbdRbeR",
   "dE AND FEMALE SIGNfSIGNfWITH STROKE AND MALE AND FEMALE SIGNrSIGNdTESE CROSScMMOTHcN",
   "d AND WOMAN HOLDING HANDSeDANCINGeIN BUSINESS SUIT LEVITATINGhTUXEDOeWITH GUA PI MAOjTURBAN",
   "dAT SIGNdDAIC AFFRICATION MARKiGEMINATION MARKiLETTER ABqDqGqHqINqKrSAqLqMqNqPqQqRqSrHrZqTrTqZ",
   "pDUSHENNApHALQApINqTpKADpUSHENNAiPUNCTUATIONiVOCALIZATION MARKdGOdICHAEAN ABBREVIATION MARK AB",
   "OVEbdBELOWlLETTER AAYINtLEPHtYINsBETHtHETHsDALETHtHAMEDHsFEsGHIMELtIMELsHEuTHsJAYINtHAYINsKAPH",
   "tHAPHsLAMEDHsMEMsNUNsPEsQHOPHtOPHsRESHsSADHEuMEKHtHINtSHINsTAWtETHtHAMEDHsWAWsXAPHtOPHsYODH",
   "sZAYINtHAYINlNUMBER FIVEsONEv HUNDREDsTENtWENTYlPUNCTUATION DOTba WITHIN DOT",
   "zUBLE DOT WITHIN DOTxFLEURONxLINE FILLERxSTARxTWO DOTSlSIGN UDdS SHOEdTELPIECE CLOCK",
   "dUAL WHEELCHAIRcP SYMBOL FOR LIGHTHOUSEdLE LEAFcRCHEN HEAD MARKiLETTER -ApApBApCAqHApDAqZApGA",
   "pHApJApKAqHApLApMApNAqGAqYApPAqHApRApSAqHApTAqHAqSArHApWApYApZAqHAiMARK SHADiSIGN ANUSVARA",
   "nCANDRABINDUjUBJOINED LETTER AzBAzCAbaHAzDAbaZAzGAzHAzJAzKAbaHAzLAzMAzNAbaGAbaYAzPAbaHAzRAzSA",
   "baHAzTAbaHAbaSAbbHAzWAzYAzZAbaHAiVOWEL SIGN AAtEtItOtUdRIAGE SYMBOLdTIAL ARTS UNIFORM",
   "cSARAM GONDI DIGIT EIGHTuFIVEvOURuNINEuONEuSEVENvIXuTHREEvWOuZEROoLETTER AwAwIwUvBAwHAvCAwHA",
   "vDAwDAxHAwHAvEvGAwHAvHAvIwIvJAwHAwNYAvKAwHAwSSAvLAwLAvMAvNAwGAwNAwYAvOvPAwHAvRAvSAwHAwSAvTAwHA",
   "wRAwTAxHAvUwUvVAvYAoRA-KARApEPHAoSIGN ANUSVARAtCANDRAtHALANTAtNUKTAtVISARGAoVIRAMA",
   "pOWEL SIGN AAbaIbaUzEzIbaIzOzUbaUzVOCALIC RdCULINE ORDINAL INDICATORdK WORK SYMBOLdU MARK",
   "cTE DRINKdHEMATICAL BOLD CAPITAL AbbLPHAbaBbbETAbaCbbHIbaDbbELTAbbIGAMMAbaEbbPSILONbbTAbaFbaG",
   "bbAMMAbaHbaIbbOTAbaJbaKbbAPPAbaLbbAMDAbaMbbUbaNbbUbaObbMEGAbcICRONbaPbbHIbbIbbSIbaQbaRbbHObaS",
   "bbIGMAbaTbbAUbbHETAbf SYMBOLbaUbbPSILONbaVbaWbaXbbIbaYbaZbbETAsDIGIT EIGHTyFIVEzOURyNINEyONE",
   "ySEVENzIXyTHREEzWOyZEROsEPSILON SYMBOLsFRAKTUR CAPITAL AbiBbiCbiDbiEbiFbiGbiHbiIbiJbiKbiLbiM",
   "biNbiObiPbiQbiRbiSbiTbiUbiVbiWbiXbiYbiZbaSMALL AbgBbgCbgDbgEbgFbgGbgHbgIbgJbgKbgLbgMbgNbgObgP",
   "bgQbgRbgSbgTbgUbgVbgWbgXbgYbgZsITALIC CAPITAL AbiLPHAbhBbiETAbhCbiHIbhDbiELTAbhEbiPSILONbiTA",
   "bhFbhGbiAMMAbhHbhIbiOTAbhJbhKbiAPPAbhLbiAMDAbhMbiUbhNbiUbhObiMEGAbjICRONbhPbiHIbiIbiSIbhQbhR",
   "biHObhSbiIGMAbhTbiAUbiHETAbm SYMBOLbhUbiPSILONbhVbhWbhXbiIbhYbhZbiETAzEPSILON SYMBOL",
   "zKAPPA SYMBOLzNABLAzPARTIAL DIFFERENTIALbaHI SYMBOLbaI SYMBOLzRHO SYMBOLzSMALL AbgLPHAbfBbgETA",
   "bfCbgHIbfDbgELTAbfEbgPSILONbgTAbfFbgINAL SIGMAbfGbgAMMAbfHbfIbgOTAbfJbfKbgAPPAbfLbgAMDAbfMbgU",
   "bfNbgUbfObgMEGAbhICRONbfPbgHIbgIbgSIbfQbfRbgHObfSbgIGMAbfTbgAUbgHETAbfUbgPSILONbfVbfWbfXbgIbfY",
   "bfZbgETAzTHETA SYMBOLsKAPPA SYMBOLsNABLAsPARTIAL DIFFERENTIALtHI SYMBOLtI SYMBOLsRHO SYMBOL",
   "sSCRIPT CAPITAL AbhBbhCbhDbhEbhFbhGbhHbhIbhJbhKbhLbhMbhNbhObhPbhQbhRbhSbhTbhUbhVbhWbhXbhYbhZ",
   "zSMALL AbfBbfCbfDbfEbfFbfGbfHbfIbfJbfKbfLbfMbfNbfObfPbfQbfRbfSbfTbfUbfVbfWbfXbfYbfZtMALL A",
   "zLPHAyBzETAyCzHIyDzELTAzIGAMMAyEzPSILONzTAyFzINAL SIGMAyGzAMMAyHyIzOTAyJyKzAPPAyLzAMDAyMzUyNzU",
   "yOzMEGAbaICRONyPzHIzIzSIyQyRzHOySzIGMAyTzAUzHETAyUzPSILONyVyWyXzIyYyZzETAsTHETA SYMBOL",
   "nDOUBLE-STRUCK CAPITAL AbjBbjDbjEbjFbjGbjIbjJbjKbjLbjMbjObjSbjTbjUbjVbjWbjXbjYbbDIGIT EIGHT",
   "bhFIVEbiOURbhNINEbhONEbhSEVENbiIXbhTHREEbiWObhZERObbSMALL AbhBbhCbhDbhEbhFbhGbhHbhIbhJbhKbhL",
   "bhMbhNbhObhPbhQbhRbhSbhTbhUbhVbhWbhXbhYbhZnFALLING DIAGONALoRAKTUR CAPITAL AbdBbdDbdEbdFbdGbdJ",
   "bdKbdLbdMbdNbdObdPbdQbdSbdTbdUbdVbdWbdXbdYvSMALL AbbBbbCbbDbbEbbFbbGbbHbbIbbJbbKbbLbbMbbNbbO",
   "bbPbbQbbRbbSbbTbbUbbVbbWbbXbbYbbZnITALIC CAPITAL AbdLPHAbcBbdETAbcCbdHIbcDbdELTAbcEbdPSILON",
   "bdTAbcFbcGbdAMMAbcHbcIbdOTAbcJbcKbdAPPAbcLbdAMDAbcMbdUbcNbdUbcObdMEGAbeICRONbcPbdHIbdIbdSIbcQ",
   "bcRbdHObcSbdIGMAbcTbdAUbdHETAbh SYMBOLbcUbdPSILONbcVbcWbcXbdIbcYbcZbdETAuEPSILON SYMBOL",
   "uKAPPA SYMBOLuNABLAuPARTIAL DIFFERENTIALvHI SYMBOLvI SYMBOLuRHO SYMBOLuSMALL AbbLPHAbaBbbETA",
   "baCbbHIbaDbbELTAbbOTLESS IbiJbaEbbPSILONbbTAbaFbbINAL SIGMAbaGbbAMMAbaIbbOTAbaJbaKbbAPPAbaL",
   "bbAMDAbaMbbUbaNbbUbaObbMEGAbcICRONbaPbbHIbbIbbSIbaQbaRbbHObaSbbIGMAbaTbbAUbbHETAbaUbbPSILONbaV",
   "baWbaXbbIbaYbaZbbETAuTHETA SYMBOLnLEFT ANGLE BRACKETsDOUBLE ANGLE BRACKET",
   "sFLATTENED PARENTHESISsWHITE SQUARE BRACKETyTORTOISE SHELL BRACKETnMONOSPACE CAPITAL AbfBbfC",
   "bfDbfEbfFbfGbfHbfIbfJbfKbfLbfMbfNbfObfPbfQbfRbfSbfTbfUbfVbfWbfXbfYbfZxDIGIT EIGHTbdFIVEbeOUR",
   "bdNINEbdONEbdSEVENbeIXbdTHREEbeWObdZEROxSMALL AbdBbdCbdDbdEbdFbdGbdHbdIbdJbdKbdLbdMbdNbdObdP",
   "bdQbdRbdSbdTbdUbdVbdWbdXbdYbdZnRIGHT ANGLE BRACKETtDOUBLE ANGLE BRACKETtFLATTENED PARENTHESIS",
   "tWHITE SQUARE BRACKETzTORTOISE SHELL BRACKETpSING DIAGONALnSANS-SERIF BOLD CAPITAL AbmLPHAblB",
   "bmETAblCbmHIblDbmELTAblEbmPSILONbmTAblFblGbmAMMAblHblIbmOTAblJblKbmAPPAblLbmAMDAblMbmUblNbmU",
   "blObmMEGAbnICRONblPbmHIbmIbmSIblQblRbmHOblSbmIGMAblTbmAUbmHETAbq SYMBOLblUbmPSILONblVblWblXbmI",
   "blYblZbmETAbdDIGIT EIGHTbjFIVEbkOURbjNINEbjONEbjSEVENbkIXbjTHREEbkWObjZERObdEPSILON SYMBOL",
   "bdITALIC CAPITAL AbtLPHAbsBbtETAbsCbtHIbsDbtELTAbsEbtPSILONbtTAbsFbsGbtAMMAbsHbsIbtOTAbsJbsK",
   "btAPPAbsLbtAMDAbsMbtUbsNbtUbsObtMEGAbuICRONbsPbtHIbtIbtSIbsQbsRbtHObsSbtIGMAbsTbtAUbtHETA",
   "bx SYMBOLbsUbtPSILONbsVbsWbsXbtIbsYbsZbtETAbkEPSILON SYMBOLbkKAPPA SYMBOLbkNABLA",
   "bkPARTIAL DIFFERENTIALblHI SYMBOLblI SYMBOLbkRHO SYMBOLbkSMALL AbrLPHAbqBbrETAbqCbrHIbqDbrELTA",
   "bqEbrPSILONbrTAbqFbrINAL SIGMAbqGbrAMMAbqHbqIbrOTAbqJbqKbrAPPAbqLbrAMDAbqMbrUbqNbrUbqObrMEGA",
   "bsICRONbqPbrHIbrIbrSIbqQbqRbrHObqSbrIGMAbqTbrAUbrHETAbqUbrPSILONbqVbqWbqXbrIbqYbqZbrETA",
   "bkTHETA SYMBOLbdKAPPA SYMBOLbdNABLAbdPARTIAL DIFFERENTIALbeHI SYMBOLbeI SYMBOLbdRHO SYMBOL",
   "bdSMALL AbkLPHAbjBbkETAbjCbkHIbjDbkELTAbjEbkPSILONbkTAbjFbkINAL SIGMAbjGbkAMMAbjHbjIbkOTAbjJ",
   "bjKbkAPPAbjLbkAMDAbjMbkUbjNbkUbjObkMEGAblICRONbjPbkHIbkIbkSIbjQbjRbkHObjSbkIGMAbjTbkAUbkHETA",
   "bjUbkPSILONbjVbjWbjXbkIbjYbjZbkETAbdTHETA SYMBOLyCAPITAL AbgBbgCbgDbgEbgFbgGbgHbgIbgJbgKbgLbgM",
   "bgNbgObgPbgQbgRbgSbgTbgUbgVbgWbgXbgYbgZyDIGIT EIGHTbeFIVEbfOURbeNINEbeONEbeSEVENbfIXbeTHREE",
   "bfWObeZEROyITALIC CAPITAL AbnBbnCbnDbnEbnFbnGbnHbnIbnJbnKbnLbnMbnNbnObnPbnQbnRbnSbnTbnUbnVbnW",
   "bnXbnYbnZbfSMALL AblBblCblDblEblFblGblHblIblJblKblLblMblNblOblPblQblRblSblTblUblVblWblXblYblZ",
   "ySMALL AbeBbeCbeDbeEbeFbeGbeHbeIbeJbeKbeLbeMbeNbeObePbeQbeRbeSbeTbeUbeVbeWbeXbeYbeZ",
   "oCRIPT CAPITAL AbcCbcDbcGbcJbcKbcNbcObcPbcQbcSbcTbcUbcVbcWbcXbcYbcZuSMALL AbaBbaCbaDbaFbaHbaI",
   "baJbaKbaLbaMbaNbaPbaQbaRbaSbaTbaUbaVbaWbaXbaYbaZcXIMIZEcYAN NUMERAL EIGHTtEENpLEVENoFIFTEENqVE",
   "pOURsTEENoNINEsTEENoONEoSEVENtTEENpIXrTEENoTENpHIRTEENqREEpWELVEqOoZERObEASURED ANGLE",
   "o OPENING LEFTpWITH OPEN ARM ENDING IN ARROW POINTING DOWN AND LEFTclRIGHTccLEFT AND DOWNclUP",
   "ccRIGHT AND DOWNcmUPccUP AND LEFTcjRIGHTjBYjRIGHT ANGLE WITH DOTdT ON BONEcCHANICAL ARMlLEG",
   "cDEFAIDRIN CAPITAL LETTER AbcIbcTIUbbBbbCbbDbbEbbFbbGbbHbcPbbIbbJbbKbcPbbLbbMbbNbcGbcYbbObcE",
   "bbPbbQbbRbbSbbTbbUbbVbbWbbXbbYbcUbbZnOMMAmDIGIT EIGHTsFIVEtOURsNINEsONEv ALTERNATE FORMsSEVEN",
   "tIXsTHREEx ALTERNATE FORMtWOv ALTERNATE FORMsZEROmEXCLAMATION OHmFULL STOPmNUMBER EIGHTEEN",
   "uLEVENtFIFTEENuOURTEENtNINETEENtSEVENTEENuIXTEENtTENuHIRTEENuWELVEmSMALL LETTER AbaIbaTIUzBzC",
   "zDzEzFzGzHbaPzIzJzKbaPzLzMzNbaGbaYzObaEzPzQzRzSzTzUzVzWzXzYbaUzZnYMBOL AIVAdIEVAL COMMA",
   "jEXCLAMATION MARKjQUESTION MARKeUM BLACK CIRCLEiOLD WHITE CIRCLEhEIGHT POINTED BLACK STAR",
   "nSPOKED ASTERISKhFIVE SPOKED ASTERISKiLATTENED LEFT PARENTHESIS ORNAMENT",
   "rRIGHT PARENTHESIS ORNAMENTiOUR POINTED BLACK STARuPINWHEEL STARhGREEK CROSS",
   "hLEFT CURLY BRACKET ORNAMENTmPARENTHESIS ORNAMENTl-POINTING ANGLE BRACKET ORNAMENT",
   "hMATHEMATICAL SPACEhRIGHT CURLY BRACKET ORNAMENTnPARENTHESIS ORNAMENTm-POINTING ANGLE BRACKET ",
   "ORNAMENThSALTIREiHADEiIX POINTED BLACK STARlSPOKED ASTERISKiMALL WHITE CIRCLE",
   "hTHREE POINTED BLACK STARvPINWHEEL STARhVERTICAL BARhWHITE CIRCLEnSQUARE",
   "cETEI MAYEK AHANG KHUDAMoNJIoPUN IYEKnCHEIKHANtEInDIGIT EIGHTtFIVEuOURtNINEtONEtSEVENuIXtTHREE",
   "uWOtZEROnLETTER ATIYAuBAvHAMuCHAwILuDDAwHAvHOUvILuEuGHOUvOKuHUKuIv LONSUMuJHAMvILuKHOUvOK",
   "x LONSUMuLAIx LONSUMuMITx LONSUMuNAw LONSUMvGOUy LONSUMvNAvYAuOuPAw LONSUMvHAMuRAIuSAMvHAvSA",
   "uTHOUvILx LONSUMvTAwHAuUNuWAIuYANGoUM IYEKnSYLLABLE REPETITION MARKnVIRAMAoOWEL SIGN AAIbaU",
   "zNAPzUyCHEINAPyIIzNAPyNUNGyONAPySOUNAPyUNAPzUyVISARGAyYENAPnWORD REPETITION MARKcLONdTING FACE",
   "cMOcNDE KIKAKUI COMBINING NUMBER HUNDRED THOUSANDSbmSbfMILLIONSbfTEENSbhN THOUSANDSbiS",
   "bgHOUSANDSoDIGIT EIGHTuFIVEvOURuNINEuONEuSEVENvIXuTHREEvWOoSYLLABLE M001 KIba2 KAba3 KUba4 WI",
   "ba5 WAba6 WUba7 MINba8 MANba9 MUNz10 BIba1 BAba2 BUba3 Iba4 Aba5 Uba6 DIba7 DAba8 DUba9 SI",
   "z20 SAba1 SUba2 TIba3 TAba4 TUba5 LIba6 LAba7 LUba8 JIba9 JAz30 JUba1 YIba2 YAba3 YUba4 FI",
   "ba5 FAba6 FUba7 NINba8 NANba9 NUNz40 HEEba1 HAba2 HOOba3 NGGAba4 KPEEba5 WOba6 HUANba7 MBEE",
   "ba8 KOba9 WVAz50 PUba1 PEba2 HENba3 HINba4 LOOba5 TEba6 GBAba7 NGONba8 NYANba9 MENz60 NYON",
   "ba1 WVIba2 MBAba3 JOba4 NDOba5 KEEba6 POba7 NDOOba8 PIba9 TOz70 GBOba1 GBOOba2 MBEba3 LE",
   "ba4 KPUba5 FEba6 KOOba7 VOba8 FEEba9 SOz80 YEba1 PEEba2 NGGUba3 HEEIba4 LEEba5 VEba6 LONG NGGE",
   "ba7 HUNba8 FOba9 DEEz90 NGGIba1 TEEba2 KPAba3 GBEEba4 MONba5 KEba6 HEba7 BEba8 NYENba9 PA",
   "y100 Eba1 FANba2 POOba3 BOOba4 TOOba5 LONG MBOOba6 LONG NGGOOba7 GBEba8 KPEba9 YEEz10 LONG LE",
   "ba1 GAba2 KPOOba3 JEba4 WOOba5 NGGEEba6 SEba7 NENba8 WEba9 NDEz20 NGGOba1 YOba2 MBUba3 NDI",
   "ba4 GBIba5 NDUba6 WEEba7 NGGUAba8 HOOUba9 NDAz30 HANba1 INba2 KPIba3 FOOba4 NJOOba5 INba6 SOO",
   "ba7 EIba8 BOba9 WVEz40 HOba1 YOOba2 LONG MBOba3 WEIba4 VOOba5 MBIba6 NGGEba7 Oba8 GBUba9 NJEE",
   "z50 BEEba1 VUba2 NJAba3 LOba4 MUANba5 GIba6 NGGOOba7 JEEba8 KPOba9 NGGAAz60 JOOba1 LONG MBE",
   "ba2 SEEba3 EEba4 NYINba5 OOba6 GUEIba7 GUANba8 GUba9 NONz70 NYUNba1 RAba2 MBOOba3 VEEba4 MBO",
   "ba5 LONG JOba6 HIba7 NGUANba8 ENba9 KUAz80 DOOba1 DOba2 VIba3 LONG NGGOba4 NGENba5 VAba6 HU",
   "ba7 MBUUba8 MBEEba9 MUENz90 GEEba1 NDEEba2 NJUba3 HONba4 WUIba5 ANba6 SIAba7 FUA",
   "dORAH WITH NINE BRANCHESdS SYMBOLcRCURYdOITIC CURSIVE FRACTION EIGHT TWELFTHSbbLEVEN TWELFTHS",
   "baFIVE TWELFTHSbbOUR TWELFTHSbaNINE TWELFTHSbaONE HALFbeTWELFTHbaSEVEN TWELFTHSbbIX TWELFTHS",
   "baTEN TWELFTHSbbHREE TWELFTHSbbWO TWELFTHSrLETTER AzRCHAIC SAyBAyDAyEyHHAyIyKAzHAyLAyMAyNAzEyO",
   "yPAyQAyRAySAzEyTAzEzOyWAyYAsOGOGRAM IMNbaRMTrNUMBER EIGHTbd HUNDREDbl THOUSANDbeTHOUSAND",
   "bdY THOUSANDyFIFTYbd THOUSANDbaVEbc HUNDREDbk THOUSANDbdTHOUSANDzORTYbd THOUSANDbaURbc HUNDRED",
   "bk THOUSANDbdTHOUSANDyNINEbc HUNDREDbk THOUSANDbdTHOUSANDbcTY THOUSANDyONEbb HUNDRED",
   "bj THOUSANDbcTHOUSANDySEVENbd HUNDREDbl THOUSANDbeTHOUSANDbdTYbf THOUSANDzIXbb HUNDRED",
   "bj THOUSANDbcTHOUSANDbbTYbd THOUSANDyTENbb THOUSANDzHIRTYbe THOUSANDbaREEbd HUNDREDbl THOUSAND",
   "beTHOUSANDzWENTYbe THOUSANDbaObb HUNDREDbj THOUSANDbcTHOUSANDjHIEROGLYPHIC LETTER AbdBAbf-2",
   "bdDAbdEbdHHAbdIbdKAbeHAbdLAbdMAbdNAbf-2beEbf-2bdObdPAbdQAbdRAbf-2bdSAbf-2beEbdTAbf-2beEbf-2beO",
   "bdWAbdYAwSYMBOL VIDJbh-2dPERSONcSSAGE WAITINGcTRICAL BREVEjLONG OVER SHORTtTWO SHORTS",
   "jPENTASEMEjSHORT OVER LONGjTETRASEMEkRISEMEkWO SHORTS JOINEDuOVER LONGeObIAO LETTER AH",
   "nRCHAIC MAuNAvGAuZZAmBAnRImDAnDAnLHApYAnZAoHAoYIoZAmFAmGAnHAoHAmHAnHAmKAmLAnHAoYAnYAmMAnHAmNA",
   "oSALIZATIONnGAoHAnHAnNAoHAnYAoHAmPAnLAmQAnGAmREFORMED TONE-1ba2ba4ba5ba6ba8wSHAnTEmSAnHAnSAnYI",
   "mTAnEnLHApYAnONE-2r3r4r5r6r7r8nSAoEoHAoSAnTAmVAnFAmWAmXAmYI DZHApKApNNApPApTAqSArHAqTAmZAnHA",
   "nSAoHAnZAoSApYAoYAfSIGN ASPIRATIONkCONSONANT MODIFIER BARkREFORMED ASPIRATIONtVOICING",
   "fTONE ABOVEkBELOWkRIGHTkTOP RIGHTfVOWEL SIGN ArArEsErHHrIrNsGrUqErArIrNsGrRsRqIrAsNtGrErGrIrNG",
   "rOsNGrUqNrGqOrERsYrGrOrUqROUNDED ERbaRqUrAsNtGrEIrIrNGrOGrUqVWqWrOqYrIrUIcCR DASH SYMBOL",
   "fON US SYMBOLeO SIGNfBEfPHONEfSCOPEcDDLE DOThTHIRD WHITE RIGHT POINTING INDEX",
   "dLINE HORIZONTAL ELLIPSIScLITARY HELMETjMEDALdKY WAYdL SIGNcNIBUSeDISCeMIZEdUS SIGN",
   "k IN TRIANGLElWITH COMMA ABOVEqDOT BELOWqFALLING DOTSqRISING DOTSgTILDEf-OR-PLUS SIGNdYcRROR",
   "g BALLbMSPbOBILE PHONEm OFFnWITH RIGHTWARDS ARROW AT LEFTcDELSeRN PENTATHLON",
   "dI ABBREVIATION SIGNfDANDAgIGIT EIGHTlFIVEmOURlNINElONElSEVENmIXlTHREEmWOlZEROgOUBLE DANDA",
   "fLETTER AnAnInUmBAnHAmCAnHAmDAnDAoHAnHAmEmGAnHAmHAmInImJAnHAmKAnHAmLAnLAmMAmNAnGAnNAnYAmOmPA",
   "nHAmRAmSAnHAnSAmTAnHAnTAoHAmUnUmVAnOCALIC LvLuRvRmYAfSIGN ANUSVARAlRDHACANDRAkHUVAkVIRAMA",
   "mSARGAfVOWEL SIGN AArIrUqEqIrIqOqUrUqVOCALIC LzLyRzReFIER BREVE WITH INVERTED BREVE",
   "jLETTER ACUTE ACCENTrLVEOLAR CLICKrPOSTROPHEqBEGIN HIGH TONEwLOW TONErILABIAL CLICKqCAPITAL A",
   "zEyBzARRED ByCyDyEyFyGyHz WITH STROKEyIyJyKyLyMyNyOzUyPyQyRzEVERSED EbhNyTyUyVyW",
   "rENTRED LEFT HALF RINGyRIGHT HALF RINGrHINESE TONE YANG PINGbiQUbiRUbiSHANGbeIN PINGbhQUbhRU",
   "bhSHANGrIRCUMFLEX ACCENTrOLONrROSS ACCENTrYRILLIC ENzHARD SIGNzSOFT SIGNqDENTAL CLICK",
   "rOT HORIZONTAL BARuSLASHuVERTICAL BARsUBLE APOSTROPHExPRIMEsWN ARROWHEADvTACKqEND HIGH TONE",
   "uLOW TONErXTRA-HIGH DOTTED LEFT-STEM TONE BARbiTONE BARbbLEFT-STEM TONE BARbbTONE BAR",
   "wLOW DOTTED LEFT-STEM TONE BARbhTONE BARbaLEFT-STEM TONE BARbaTONE BARqGEORGIAN NAR",
   "rLOTTAL STOPbc WITH STROKErRAVE ACCENTqHALF TRIANGULAR COLONrIGH DOTTED LEFT-STEM TONE BAR",
   "bcTONE BARvLEFT-STEM TONE BARvTONE BARqLATERAL CLICKrEFT ARROWHEADvHALF RINGvTACK",
   "rOW ACUTE ACCENTuCIRCUMFLEX ACCENTuDOTTED LEFT-STEM TONE BARbbTONE BARwWN ARROWHEAD",
   "uGRAVE ACCENTuINVERTED EXCLAMATION MARKuLEFT ARROWbeHEADy-STEM TONE BARuMACRONuRIGHT ARROWHEAD",
   "wNGuTILDEvONE BARuUP ARROWHEADuVERTICAL LINEtER RIGHT CORNER ANGLEqMACRON",
   "rID DOTTED LEFT-STEM TONE BARbbTONE BARuLEFT-STEM TONE BARuTONE BARtDLE DOUBLE ACUTE ACCENT",
   "beGRAVE ACCENTxGRAVE ACCENTsNUS SIGNqOPEN SHELFqPLUS SIGNrRIMEqRAISED COLONxDOWN ARROW",
   "xEXCLAMATION MARKxINVERTED EXCLAMATION MARKxUP ARROWrETROFLEX CLICK WITH RETROFLEX HOOK",
   "sVERSED COMMAzGLOTTAL STOPbl WITH STROKErHOTIC HOOKrIGHT ARROWHEADwHALF RINGwTACKqSHELF",
   "sORT EQUALS SIGNrMALL AxExINxLPHAwBx WITH HOOKxARRED OxETAxOTTOM HALF OwCx WITH CURLxAPITAL AA",
   "beBbeGbf WITH HOOKbeHbeIbf WITH STROKEbfNVERTED RbeLbf WITH BELTbeNbeOEbeRbeUbeYxHI",
   "xLOSED OMEGAbdREVERSED OPEN EwDx WITH HOOKbh AND TAILbdTAILxELTAyZH DIGRAPH",
   "xOTLESS J WITH STROKEbr AND HOOKxZ DIGRAPHbg WITH CURLbmRETROFLEX HOOKwExNGxSHxTHxZHwF",
   "xENG DIGRAPHwGx WITH HOOKxAMMAxREEK GAMMAbcPHIwHx WITH HOOKbdSTROKExENGba WITH HOOK",
   "wI WITH STROKExOTAwJx WITH CROSSED-TAILwKwLx WITH BELTbdINVERTED LAZY SbdMIDDLE TILDE",
   "bdPALATAL HOOKbdRETROFLEX HOOKbr AND BELTxEZHba WITH RETROFLEX HOOKxIGATURE OExS DIGRAPH",
   "xZ DIGRAPHwMx WITH HOOKwN WITH LEFT HOOKbdRETROFLEX HOOKwOx WITH STROKExPEN EbbOwPxHIwQwR",
   "x WITH FISHHOOKbdTAILxAMS HORNxEVERSED EbfGLOTTAL STOPbfOPEN EwSx WITH CURLbdHOOKxCHWAyRIPT G",
   "xIDEWAYS UwTx WITH PALATAL HOOKbdRETROFLEX HOOKxC DIGRAPH WITH CURLxESH DIGRAPHxHETAxOP HALF O",
   "xS DIGRAPHbg WITH RETROFLEX HOOKxURNED AbeEbeLPHAbdHbdIbdMbe WITH LONG LEGbdOPEN EbdR",
   "be WITH HOOKbkLONG LEGbs AND RETROFLEX HOOKbdVbdWbdYbe WITH BELTwUx BARyWITH LEFT HOOKxPSILON",
   "wVx WITH HOOKbdRIGHT HOOKwWwXwYwZx WITH CURLbdRETROFLEX HOOKrTRESS AND HIGH TONEbbLOW TONE",
   "rUPERSCRIPT HALF TRIANGULAR COLONbcTRIANGULAR COLONqTRIANGULAR COLONrURNED COMMAqUNASPIRATED",
   "rP ARROWHEADtTACKrSqVERTICAL LINErOICINGqYANG DEPARTING TONE MARKrIN DEPARTING TONE MARK",
   "dULO TWO SUMcNEY BAGgWITH WINGSf-MOUTH FACEdGOLIAN BIRGAp WITH DOUBLE ORNAMENTvORNAMENTkCOLON",
   "mMMAkDIGIT EIGHTqFIVErOURqNINEqONEqSEVENrIXqTHREErWOqZEROlOUBLE BIRGA WITH ORNAMENTkELLIPSIS",
   "kFOUR DOTSlREE VARIATION SELECTOR FOURbiONEbiTHREEbjWOlULL STOPkINVERTED BIRGA",
   "y WITH DOUBLE ORNAMENTkLETTER AsLI GALI AbbHbbNUSVARA ONEbaBALUDAbaCAbaDAbcGALGAbcMARUbbDA",
   "baHALF UbfYAbaIbbNVERTED UBADAMAbaKAbaNGAbbNAbaPAbbHAbaSSAbaTAbbHREE BALUDAbbTAbcHAbaUBADAMA",
   "baVISARGA ONEbaZAbbHAsNGrBArCHAu WITH TWO DOTStIrDArEsErFArGArHAArIrJArKAsHArLAsHArMA",
   "tNCHU ALI GALI BHAbhCAbiYAbhDDHAbiHAbhGHAbhJHAbhLHAbhNGAbhSSAbhTAbiTAbhZAbiHAyFAyIyKAyRAyZHA",
   "rNArOsErPArQArRArSAsHAsIBE ANGwCHAwDAwEwFAwGAyAwHAyAwIxYwJAwKAwPAwRAAwSHAwTAxSAwUxEwZAxHArTA",
   "sODO ALI GALI TAbfZHAxNGwBAwCHAwDAxZAwEwGAyAwHAAwIwJAxIAwKAwLONG VOWEL SIGNwMAwNIAwOxEwPAwQA",
   "wTAxSAwUxEwWAwYAsSArUsErWArYArZAsHIsRAkMANCHU COMMArFULL STOPkNIRUGUkROTATED BIRGA",
   "x WITH DOUBLE ORNAMENTbdORNAMENTkSIBE SYLLABLE BOUNDARY MARKERlWIRL BIRGA",
   "v WITH DOUBLE ORNAMENTbbORNAMENTkTODO SOFT HYPHENlRIPLE BIRGA WITH ORNAMENT",
   "lURNED SWIRL BIRGA WITH DOUBLE ORNAMENTkVOWEL SEPARATORdKEYg FACEdOGRAM FOR EARTHnYANGoINeRAIL",
   "eSTABLE SYMBOLcOD BUBBLEdN CAKEfVIEWING CEREMONYcSQUEfITOcTHER CHRISTMASdOR BOATgSCOOTER",
   "fIZED WHEELCHAIRfWAYcUNT FUJIfAINi BICYCLISTjCABLEWAYjRAILWAYdSEf FACEgTRAPdTHcVIE CAMERAcYAI",
   "bRO DANDAfIGIT EIGHTkFIVElOURkNINEkONEkSEVENlIXkTHREElWOkZEROfOUBLE DANDAeLETTER AlBAlCHUlDAnI",
   "lEmAlHAInOlKEAAEmHAImOlLAnNlMAEMmIMlNGImINlOmLmOlPAmHIlRImOlSHIlTAmEKmHEAlWAlYO",
   "bUCH GREATER-THANfLESS-THANcLTANI LETTER ApBAqHApCAqHApDAqDArDArHAqHApEpGAqHApHApIpJAqJApKAqHA",
   "pLApMApNAqNAqYApPAqHApRAqHAqRApSApTAqHAqTArHApUpVApYAiSECTION MARKeIMAPfPLE MUSICAL NOTES",
   "hICATION SIGNt IN DOUBLE CIRCLExLEFT HALF CIRCLExRIGHT HALF CIRCLExTRIANGLEuWITH DOT ABOVE",
   "zUNDERBARpXfSETi MULTIPLICATIONjUNIONcSHROOMdIC FLAT SIGNgNATURAL SIGNgSHARP SIGNfAL KEYBOARD",
   "q WITH JACKSiNOTEiSCOREjYMBOL ARPEGGIATO DOWNbaUPpBEGIN BEAMvPHRASEvSLURvTIEqRACEtKET",
   "rEATH MARKsVEtISv RESTpC CLEFqAESURAqIRCLE X NOTEHEADqLIMACUSsVISrUSTER NOTEHEAD BLACKbgWHITE",
   "qODArMBINING ACCENTbf-STACCATObaUGMENTATION DOTzBENDzDOITbbUBLE TONGUEbbWN BOWzFLAG-1be2be3be4",
   "be5bbIPzHARMONICzLOUREzMARCATObg-STACCATOzRIPzSMEARbaNAP PIZZICATObaPRECHGESANG STEM",
   "baTACCATISSIMObgObbEMzTENUTObaREMOLO-1bh2bh3bbIPLE TONGUEzUP BOWsMON TIMEqRESCENDOrOIXqUT TIME",
   "pDA CAPOrL SEGNOrMPt ALLrSHED BARLINEqECRESCENDOrGREE SLASHqOUBLE BARLINEwFLATwSHARP",
   "qRUM CLEF-1z2pEIGHTH NOTEwRESTqND BEAMtOF STIMMEtPHRASEtSLURtTIEpF CLEFv OTTAVA ALTAbdBASSA",
   "qERMATAw BELOWqINAL BARLINEsGERED TREMOLO-1bg2bg3rVE-LINE STAFFqLAT DOWNuUPqORTErUR-LINE STAFF",
   "uSTRING FRETBOARDqUSA BLACKuWHITEpG CLEFv OTTAVA ALTAbdBASSAqLISSANDO DOWNzUP",
   "qRACE NOTE NO SLASHbaSLASHrEGORIAN C CLEFzF CLEFpHALF NOTEuPEDAL MARKuRESTrUPTSTIMME",
   "pINVERTED TURNpKIEVAN C CLEFwEIGHTH NOTE STEM DOWNbnUPxND OF PIECEwFINAL NOTExLAT SIGN",
   "wHALF NOTEwQUARTER NOTE STEM DOWNboUPwRECITATIVE MARKwWHOLE NOTEqORONpLEFT REPEAT SIGNqONGA",
   "u IMPERFECTA RESTvPERFECTA RESTpMAXIMAqEZZOqINIMAv BLACKwRESTqOON NOTEHEAD BLACKbdWHITE",
   "qULTI RESTuPLE MEASURE RESTpNATURAL DOWNxUPqEBENSTIMMEqOTEHEAD BLACKqULL NOTEHEAD",
   "pONE HUNDRED TWENTY-EIGHTH NOTEbpRESTs-LINE STAFFqRNAMENT STROKE-1bg0bg1bf2bf3bf4bf5bf6bf7bf8",
   "bf9qTTAVA ALTAwBASSApPARENTHESIS NOTEHEADqEDAL MARKvUP MARKrS SUBPUNCTISqIANOqLUS NOTEHEAD",
   "qODATUSrRRECTUSy FLEXUSpQUARTER NOTExRESTxTONE FLATbcSHARPrINDICESIMA ALTAbcBASSApREPEAT DOTS",
   "vED FIGURE-1bf2bf3rVERSE FINAL BARLINEqIGHT REPEAT SIGNrNFORZANDOpSCANDICUSy FLEXUSqEGNO",
   "rMIBREVIS BLACKbaRESTbaWHITEtMINIMA BLACKbaRESTbaWHITEqHARP DOWNvUPrORT BARLINEqINGLE BARLINE",
   "rX-LINE STAFFtSTRING FRETBOARDsTEENTH NOTEzRESTtY-FOURTH NOTEbcRESTqORIqQUARE BwNOTEHEAD BLACK",
   "bfWHITEqUBITOpTEMPUS IMPERFECTUM CUM PROLATIONE IMPERFECTAch DIMINUTION-1ct2ct3bxPERFECTA",
   "wPERFECTUM CUM PROLATIONE IMPERFECTAbvPERFECTAcd DIMINUTION-1qHIRTY-SECOND NOTEbdREST",
   "rREE-LINE STAFFqORCULUSx RESUPINUSqRrIANGLE NOTEHEAD DOWN BLACKbmWHITEbhLEFT BLACKbmWHITE",
   "bhRIGHT BLACKbnWHITEbhUP BLACKbkRIGHT BLACKbqWHITEbkWHITEx-ROUND NOTEHEAD DOWN BLACKbsWHITE",
   "qURNt SLASHuUPqWO-LINE STAFFpVIRGAqOID NOTEHEADpWHOLE NOTEvRESTqITH FINGERNAILSpX NOTEHEADpZ",
   "bVSbWbYANMAR CONSONANT SIGN MEDIAL HAbeRAbeWAbeYAyON MEDIAL LAbiMAbiNAxSHAN MEDIAL WA",
   "iDIGIT EIGHToFIVEpOURoNINEoONEoSEVENpIXoTHREEpWOoZEROiLETTER AqITON RAqUpBAqHApCAqHApDAqDArHA",
   "qHApEqASTERN PWO KAREN GHWAbhNNAbhYWApGAqHAqREAT SApHApIqIpJAqHApKAqHAsMTI CAxHAwDDAyHAxHAwFA",
   "wGAwHAxHAwJAxHAwLLAwNAxYAwRAwSAwTTAyHAwXAwZApLAqLApMAqON BBAvEtEtJHAtNGApNAqGAqNArYAqYApOpPA",
   "qHApRAqUMAI PALAUNG FApSAqGAW KAREN SHAqHAsN AuBAvHAuCAvHAuDAuFAuGAvHAuHAuJHAuKAvHAuNAvNAvYA",
   "uPHAuTHAuZArWE PALAUNG CHAbcSHAqSApTArI LAING BAbaHAzDAbaDAbbHAbaHAzFAzGAbaHAzJAbaHAzLLAzNNA",
   "baYAqHAqTArHApUqUpVOCALIC LyLxRyRpWAqESTERN PWO KAREN PWAbhTHApYAjOGOGRAM KHAMTI HMyOAYyQN",
   "iMODIFIER LETTER KHAMTI REDUPLICATIONySHAN REDUPLICATIONiSHAN DIGIT EIGHTtFIVEuOURtNINEtONE",
   "tSEVENuIXtTHREEuWOtZEROjIGN ANUSVARAoSATnDOT BELOWnKHAMTI TONE-1z3nLITTLE SECTION",
   "nPAO KAREN TONEnRUMAI PALAUNG TONE-5nSECTIONoHAN COUNCIL EMPHATIC TONEbaTONE-2bf3sSAWsTONE-2x3",
   "x5x6nTAI LAING TONE-2bc5nVIRAMApSARGAnWESTERN PWO KAREN TONE-1bk2bk3bk4bk5",
   "jYMBOL AFOREMENTIONEDqITON EXCLAMATIONvONEvTWOpCOMPLETEDpGENITIVEpLOCATIVEpSHAN EXCLAMATION",
   "uONEiTAI LAING DIGIT EIGHTyFIVEzOURyNINEyONEySEVENzIXyTHREEzWOyZEROjONE MARK SGAW KAREN HATHI",
   "bdKE PHOiVOWEL SIGN AAuIvTON AbaItEu ABOVEtGEBA KAREN ItIuItKAYAH EEzOEzUtMON IIxO",
   "tSGAW KAREN EUuHAN AAyEz ABOVEyFINAL YtTALL AAtUuUtVOCALIC LbcLbbRbcRtWESTERN PWO KAREN EUblUE",
   "aN-ARY CIRCLED DOT OPERATORoPLUS OPERATORoTIMES OPERATORhOPRODUCTgINTERSECTIONgLOGICAL ANDoOR",
   "gPRODUCTgSQUARE INTERSECTION OPERATORnUNION OPERATORhUMMATIONgTIMES OPERATORgUNION",
   "l OPERATOR WITH DOTbaPLUSgWHITE VERTICAL BARbABATAEAN CRUCIFORM NUMBER FOURkLETTER ALEPHsYIN",
   "rBETHrDALETHrFINAL ALEPHxBETHxHExKAPHxLAMEDHxMEMxNUNxSHINxYODHrGIMELrHEtTHrKAPHrLAMEDHrMEMrNUN",
   "rPErQOPHrRESHrSADHEtMEKHsHINrTAWsETHrWAWrYODHrZAYINkNUMBER FIVEsOURrONEu HUNDREDrTENsHREE",
   "sWENTYtOdLAcIL POLISHdRA SIGNcKcME BADGEcNDeINAGARI HEADSTROKEmLETTER AuAuIuUtBAuHAtCAuHAtDA",
   "uDAvHAuHAtEtGAuHAtHAtIuItJAuHAtKAuHAtLAuLAtMAtNAuGAuNAuYAtOtPAuHAtRAuRAtSAuHAuSAtTAuHAuTAvHAtU",
   "uUtVAuOCALIC RbcRtYAmSIGN ANUSVARAsVAGRAHArSIDDHAMrVIRAMAtSARGAmVOWEL SIGN AAyIyUxExIyIxO",
   "xPRISHTHAMATRA ExUyUxVOCALIC RbgRcRROW NO-BREAK SPACEcTIONAL DIGIT SHAPESjPARKcUSEATED FACE",
   "cZAR AMULETbBHcSPbECKTIEcGATED DOUBLE VERTICAL BAR DOUBLE RIGHT TURNSTILEfIVE ACKNOWLEDGE",
   "jCIRCLED DIGIT ZEROrLATIN CAPITAL LETTER AbmBbmCbmDbmEbmFbmGbmHbmIbmJbmKbmLbmMbmNbmObmPbmQbmR",
   "bmSbmTbmUbmVbmWbmXbmYbmZrNUMBER EIGHTEENzLEVENyFIFTEENzOURTEENyNINETEENySEVENTEENzIXTEEN",
   "yTHIRTEENzWELVEbbNTYrSQUARErTRIANGLEjDIAGONAL CROSSsDIAMONDsMIDDLE RIGHT TO LOWER CENTRE",
   "jSQUARED ABrCROSS MARKrICrLATIN CAPITAL LETTER AbmBbmCbmDbmEbmFbmGbmHbmIbmJbmKbmLbmMbmNbmObmP",
   "bmQbmRbmSbmTbmUbmVbmWbmXbmYbmZrPArQUESTION MARKrSArWCcITHER A SUBSET OF NOR EQUAL TO",
   "mPERSET OF NOR EQUAL TOjPPROXIMATELY NOR ACTUALLY EQUAL TOiGREATER-THAN NOR EQUAL TO",
   "bcIVALENT TOzLESS-THANiLESS-THAN NOR EQUAL TOzIVALENT TOwGREATER-THANcLcPTUNEh FORM TWO",
   "cRD FACEcSSUSdT WITH EGGSeING DOLLScUTEReRAL CHESS BISHOPu ROTATED NINETY DEGREES",
   "bdTWO HUNDRED SEVENTY DEGREESoEQUIHOPPERy ROTATED NINETY DEGREESoKINGs ROTATED NINETY DEGREES",
   "bbTWO HUNDRED SEVENTY DEGREESpNIGHTu ROTATED FORTY-FIVE DEGREESbdNINETY DEGREES",
   "bdONE HUNDRED THIRTY-FIVE DEGREESbdTHREE HUNDRED FIFTEEN DEGREESbeWO HUNDRED SEVENTY DEGREES",
   "bpTWENTY-FIVE DEGREESoPAWNs ROTATED NINETY DEGREESbbTWO HUNDRED SEVENTY DEGREESoQUEEN",
   "t ROTATED NINETY DEGREESbcTWO HUNDRED SEVENTY DEGREESoROOKs ROTATED NINETY DEGREES",
   "bbTWO HUNDRED SEVENTY DEGREESoTURNED BISHOPvKINGwNIGHTvPAWNvQUEENvROOKiFACEcW LINEeMOON SYMBOL",
   "jWITH FACEeSHEQEL SIGNeTAI LUE DIGIT EIGHTsFIVEtOURsNINEsONEsSEVENtIXsTHREEtWOsZERO",
   "mLETTER FINAL BzDzKzMzNbaGzVtHIGH BAyDAyFAyHAyKAzVAyLAyMAyNAzGAyPAzHAyQAySAzUAyTAzHAzSAyVAyXA",
   "zVAyYAtLOW BAxDAxFAxHAxKAyVAxLAxMAxNAyGAxPAyHAxQAxSAyUAxTAyHAySAxVAxXAyVAxYAmSIGN LAEuV",
   "mTHAM DIGIT ONEnONE MARK-1w2mVOWEL SIGN AAzYyEyYxExIIyYxOyAzYyYxUyEzYyUyYxVOWEL SHORTENER",
   "dA ABBREVIATION SIGNfCOMMAfDANDAgIGIT EIGHTlFIVEmOURlNINElONElSEVENmIXlTHREEmWOlZERO",
   "gOUBLE COMMAmDANDAfGAP FILLERfINSERTION SIGNfLETTER AnAnInUmBAnHAmCAnHAmDAnDAoHAnHAmEmGAnHAmHA",
   "mInImJAnHAmKAnHAmLAnHAmMAnHAmNAnGAoHAnHAnNAnYAoHAmOmPAnHAmRAnHAmSAnHAnSAmTAnHAnTAoHAmUnU",
   "mVEDIC ANUSVARAnOCALIC LvLuRvRmWAmYAfOMfPLACEHOLDER MARKfSANDHI MARKgIDDHIhGN ANUSVARAlVAGRAHA",
   "kCANDRABINDUkFINAL ANUSVARAkJIHVAMULIYAkNUKTAkUPADHMANIYAkVIRAMAmSARGAfVOWEL SIGN AArIrUqEqIrI",
   "qOqUrUqVOCALIC LzLyRzRdLINE LEFTiRIGHTdSPAPERcXT LINEfPAGEbIGHT WITH STARScNJA",
   "bKO COMBINING DOUBLE DOT ABOVEoLONG DESCENDING TONEtHIGH TONEtLOW TONEtRISING TONE",
   "oNASALIZATION MARKoSHORT HIGH TONEuLOW TONEuRISING TONEhMAeDANTAYALANfIGIT EIGHTkFIVElOURkNINE",
   "kONEkSEVENlIXkTHREElWOkZEROfOROME SIGNeEXCLAMATION MARKeHIGH TONE APOSTROPHEeLAJANYALAN",
   "fETTER AlBAlCHAlDAnGBASINNAlEmElFAlGBAlHAlIlJAmONA CHAqJAqRAlKAlLAlMAlNmAn WOLOSOmYAo WOLOSOlO",
   "mOlPAlRAmRAlSAlTAlUlWAlYAfOW TONE APOSTROPHEeSYMBOL GBAKURUNENlOO DENNENeTAMAN SIGNbLbNBSP",
   "bO BICYCLESeREAK HEREdENTRYi SIGNdMOBILE PHONESdONE UNDER EIGHTEEN SYMBOLdPEDESTRIANSeIRACY",
   "dSMOKING SYMBOLc-BREAK SPACEcMINAL DIGIT SHAPESeSMA SIGNcN-BREAKING HYPHEN",
   "ePOTABLE WATER SYMBOLdFORKINGcRdDIC MARK SIGNdMAL SUBGROUP OFs OR EQUAL TO",
   "dTH EAST AND SOUTH WEST ARROWmRROWq AND SOUTH EAST ARROWrCROSSING NORTH WEST ARROW",
   "baSOUTH EAST ARROWrWITH HOOKlBLACK ARROWlDOUBLE ARROWlPOINTING BUDuLEAFuVINE LEAF",
   "lSANS-SERIF ARROWlTRIANGLE-HEADED ARROWbg TO BARlWHITE ARROWgINDIC FRACTION ONE EIGHTHzHALF",
   "zQUARTERzSIXTEENTHvTHREE QUARTERSbbSIXTEENTHSmPLACEHOLDER MARKmQUANTITY MARKpRTER MARK",
   "mRUPEE MARKgWEST AND SOUTH EAST ARROWmRROWq AND NORTH EAST ARROWrCROSSING NORTH EAST ARROW",
   "rTO CORNERuLONG BARrWITH HOOKlBLACK ARROWlDOUBLE ARROWlPOINTING BUDuLEAFuVINE LEAF",
   "lSANS-SERIF ARROWlTRIANGLE-HEADED ARROWbg TO BARlWHITE ARROWfEAST-POINTING AIRPLANEcSE",
   "cT A SUBSET OFiPERSET OFfLMOST EQUAL TOfN ELEMENT OFfSYMPTOTICALLY EQUAL TOeCHECK MARK",
   "eEQUAL TOhIVALENT TOeGREATER-THANeIDENTICAL TOeLESS-THANeNORMAL SUBGROUP OFw OR EQUAL TO",
   "ePARALLEL TOeSIGNfQUARE IMAGE OF OR EQUAL TOlORIGINAL OF OR EQUAL TOeTILDEfRUE",
   "dCHED LEFT SEMICIRCLE WITH THREE DOTSjOWER RIGHT-SHADOWED WHITE RIGHTWARDS ARROW",
   "iRIGHT SEMICIRCLE WITH THREE DOTSiUPPER RIGHT-SHADOWED WHITE RIGHTWARDS ARROWdEe PADhGEeBOOK",
   "i WITH DECORATIVE COVERbULdLcMBER EIGHTEEN FULL STOPiLEVEN FULL STOPhFIFTEEN FULL STOP",
   "iOURTEEN FULL STOPhNINETEEN FULL STOPhSEVENTEEN FULL STOPiIGNjXTEEN FULL STOPhTEN FULL STOP",
   "iHIRTEEN FULL STOPiWELVE FULL STOPkNTY FULL STOPdERO SIGNcSHU CHARACTER-1B170u1u2u3u4u5u6u7u8",
   "u9uAuBuCuDuEuFt80u1u2u3u4u5u6u7u8u9uAuBuCuDuEuFt90u1u2u3u4u5u6u7u8u9uAuBuCuDuEuFtA0u1u2u3u4u5",
   "u6u7u8u9uAuBuCuDuEuFtB0u1u2u3u4u5u6u7u8u9uAuBuCuDuEuFtC0u1u2u3u4u5u6u7u8u9uAuBuCuDuEuFtD0u1u2",
   "u3u4u5u6u7u8u9uAuBuCuDuEuFtE0u1u2u3u4u5u6u7u8u9uAuBuCuDuEuFtF0u1u2u3u4u5u6u7u8u9uAuBuCuDuEuF",
   "s200u1u2u3u4u5u6u7u8u9uAuBuCuDuEuFt10u1u2u3u4u5u6u7u8u9uAuBuCuDuEuFt20u1u2u3u4u5u6u7u8u9uAuBuC",
   "uDuEuFt30u1u2u3u4u5u6u7u8u9uAuBuCuDuEuFt40u1u2u3u4u5u6u7u8u9uAuBuCuDuEuFt50u1u2u3u4u5u6u7u8u9",
   "uAuBuCuDuEuFt60u1u2u3u4u5u6u7u8u9uAuBuCuDuEuFt70u1u2u3u4u5u6u7u8u9uAuBuCuDuEuFt80u1u2u3u4u5u6",
   "u7u8u9uAuBuCuDuEuFt90u1u2u3u4u5u6u7u8u9uAuBuCuDuEuFtA0u1u2u3u4u5u6u7u8u9uAuBuCuDuEuFtB0u1u2u3",
   "u4u5u6u7u8u9uAuBuCuDuEuFtC0u1u2u3u4u5u6u7u8u9uAuBuCuDuEuFtD0u1u2u3u4u5u6u7u8u9uAuBuCuDuEuFtE0",
   "u1u2u3u4u5u6u7u8u9uAuBuCuDuEuFtF0u1u2u3u4u5u6u7u8u9uAuBgITERATION MARKcT AND BOLT",
   "bYIAKENG PUACHUE HMONG CIRCLED CAxDIGIT EIGHTbdFIVEbeOURbdNINEbdONEbdSEVENbeIXbdTHREEbeWO",
   "bdZEROxLETTER AbfAbeCAbeDAbfLAbeEbfEbeFAbeGAbeHAbgHbeIbeKAbeLAbeMAbfLAbeNAbfCAbfKAbfPAbgLAbfQA",
   "bfRAbfTAbgSAbgXAbfYAbeObfObePAbfLAbeQAbeRAbfRAbeSAbeTAbfSAbfXAbeUbeVAbeWbeXAbfYAbeYAbeZA",
   "yOGOGRAM NYAJxSIGN FOR ANIMALbgINVERTEBRATEbgLOCATIONbgPERSONbgTHINGbcXW XWyYLLABLE LENGTHENER",
   "xTONE-BbcDbcGbcJbcMbcSbcVaOBJECT REPLACEMENT CHARACTERcLIQUE ANGLE OPENING DOWNwUPiHYPHEN",
   "cSERVER EYE SYMBOLbCR AMOUNT OF CHECKeBELT BUCKLEfOW TIEfRANCH BANK IDENTIFICATIONeCHAIR",
   "fUSTOMER ACCOUNT NUMBEReDASHfOUBLE BACKSLASHeFORKeHOOKeINVERTED FORKcTAGONAL SIGNdOPUSbDEN",
   "bFFICE BUILDINGbGHAM FEATHER MARKgLETTER AILMnBEITHnCEIRToOLLnDAIRnEABHADHpDHADHpMHANCHOLL",
   "nFEARNnGORTnIFINoODHADHnLUISnMUINnNGEADALoIONnONNoRnPEITHnRUISnSAILoTRAIFnTINNEnUATHoILLEANNoR",
   "gREVERSED FEATHER MARKgSPACE MARKcONEKbHM SIGNbIL DRUMbK HAND SIGNbL CHIKI AHADjDIGIT EIGHT",
   "pFIVEqOURpNINEpONEpSEVENqIXpTHREEqWOpZEROjGAAHLAA TTUDDAAGjLETTER AAJsKsMsWrGrLrNGrTqEDDrNrP",
   "rRRqIHrNYrRrSqLAsArErIrOrUqOBrHrTTrVqUCrDrNNrYjMU TTUDDAGl-GAAHLAA TTUDDAAGjPHAARKAA",
   "kUNCTUATION DOUBLE MUCAADvMUCAADjRELAAcD CHINESE HOOK MARKmITERATION MARK",
   "eHUNGARIAN CAPITAL LETTER AbeAbeKbeMBbeNDbdCLOSE EbdEbeBbeCbfHbfSbeDbeEbeFbeGbfYbeHbeJbeKbeL",
   "bfYbeMbfPbeNbfCbfTbg-SHAPED SIGNbfYbePbeRbeSbfZbeTbfYbeVbeZbfSbdIbeIbdNIKOLSBURG OEboUEbdObeEE",
   "beObdRUDIMENTA OEbnUEbdSHORT ERbdUbeNKbeSbeUoNUMBER FIFTYxVEvONEy HUNDREDzTHOUSANDvTEN",
   "oSMALL LETTER AbcAbcKbcMBbcNDbbCLOSE EbbEbcBbcCbdHbdSbcDbcEbcFbcGbdYbcHbcJbcKbcLbdYbcMbdPbcN",
   "bdCbdTbe-SHAPED SIGNbdYbcPbcRbcSbdZbcTbdYbcVbcZbdSbbIbcIbbNIKOLSBURG OEbmUEbbObcEEbcO",
   "bbRUDIMENTA OEblUEbbSHORT ERbbUbcNKbcSbcUeITALIC LETTER AsBEsCHEsDEsEtFtKStLtMtNtRuStSuHuSsHE",
   "sItIsKAtEtHEtUsNORTHERN TSEsOsPEtHEsSHEtOUTHERN TSEsTEtHEsUtUsVEsYEsZElNUMERAL FIFTYvVEtONE",
   "tTENeKEYeNORTH ARABIAN LETTER AINbaLEFzBEHzDADbbLzES-1bc2bc3zFEHzGEEMbaHAINzHAHbaEHzKAFbaHAH",
   "zLAMzMEEMzNOONzQAFzREHzSADzTAHbaEHbaHALbbEHzWAWzYEHzZAHbbINsNUMBER ONEzTENbaWENTY",
   "ePERMIC LETTER ANsBURsCHERYsDOItZHOIuITAsEtFsGAIsHAsItAtEsKOKEsLEIsMENOEsNENOEsOtOsPEEIsREI",
   "sSHCHOOIuOOItIIsTAItSIUsUsVERtOOIsYAuTtERvIvUtRYtUsZATAtHOIhSIAN NUMBER HUNDREDtONEtTENuWENTY",
   "vOmSIGN AsURAMAZDAAbb-2bbHArBAtGAsUUMISHrCArDAtHYAAUSHba-2sIsUrFArGAsUrHArIrJAsIrKAsUrLArMAsI",
   "sUrNAsUrPArRAsUrSAsHAsSArTAsHAsUrUrVAsIrXAsSHAAYATHIYArYArZAmWORD DIVIDERiONAL COMPUTER",
   "eSOGDIAN FRACTION ONE HALFmLETTER ALEPHvTERNATE AYINuYINtBETHtFINAL ALEPHzBETHzHEzNUN",
   "bc WITH VERTICAL TAILzSADHEbe WITH VERTICAL TAILzTAWbc WITH VERTICAL TAILtGIMELtHEvTHtKAPH",
   "tLAMEDHtMEMtNUNtPEtRESH-AYIN-DALETHtSADHEvMEKHuHINtTAWtWAWtYODHtZAYINnIGATURE AYIN-DALETH",
   "mNUMBER FIVEuOURtONEw HUNDREDtTENuHIRTYvREEuWENTYvOgUTH ARABIAN LETTER ALEFbaYNzBETHzDALETH",
   "baHADHEbcLETHzFEzGHAYNbaIMELzHEbbTHzKAPHbaHETHzLAMEDHzMEMzNUNzQOPHzRESHzSADHEbbMEKHbbTbaHIN",
   "zTAWbaETHbaHAWbbETHzWAWzYODHzZAYNsNUMBER FIFTYzONEvERIC INDICATOReTURKIC LETTER ORKHON AbaBbaD",
   "baEBbbDbbGbbKbbLbbNbbRbbSbbTbbYbaGbaLbaNbaQbaRbaSbbHbaTbaYzBASHzECbaLTbaMbaNCbbGbbTbbYbaPbaSH",
   "baZzIbaCbaQzObaEbbKbaPbaQbaTsYENISEI AbbBbbDbbEbcBbcGbcKbcNbdGbcTbcYbbGbbLbbNGbbQbbRbbSHbbTbbY",
   "baEbbCbbNCbcTbcYbbSHbbZbaIbbQbaOEbcKbbQeUYGHUR COMBINING DOT ABOVEzBELOWvTWO DOTS ABOVEbeBELOW",
   "lLETTER ALEPHsBETHsFINAL HETHsGIMEL-HETHsKAPHsLAMEDHtESHsMEMsNUNsPEsRESHsSADHEuMEKHtHINsTAW",
   "sWAWsYODHsZAYINlPUNCTUATION BARxFOUR DOTSxTWO BARSbbDOTSdER ADULTgMANgWOMANcIVEbM SYMBOL",
   "bN WITH EXCLAMATION MARK WITH LEFT RIGHT ARROW ABOVEcCOMING AUTOMOBILEjBUSjFIRE ENGINE",
   "jPOLICE CARjTAXIcE BUTTON MOUSEeDOT LEADERiOVER TWO DOTS PUNCTUATIONd-PIECE SWIMSUITcION",
   "bPEN BOOKhXfCENTRE ASTERISKmBLACK STARmCROSSmTEARDROP-SPOKED ASTERISKfFILE FOLDERgOLDER",
   "fHANDS SIGNfLOCKfMAILBOX WITH LOWERED FLAGsRAISED FLAGfSUBSEThPERSETe-CIRCUIT-OUTPUT H-TYPE SY",
   "MBOLuL-TYPE SYMBOLfOUTLINED RIGHTWARDS ARROWdRATING SYSTEM COMMANDcHIUCHUScPOSITIONcTICAL DISC",
   "m ICONeON KEYbR WITH DOT INSIDEcANGE BOOKhHEARTfUTANcIGINAL OFdYA AI LENGTH MARKhU LENGTH MARK",
   "gDIGIT EIGHTmFIVEnOURmNINEmONEmSEVENnIXmTHREEnWOmZEROgFRACTION ONE EIGHTHtHALFtQUARTER",
   "tSIXTEENTHpTHREE QUARTERSvSIXTEENTHSgISSHARgLETTER AoAoIoUnBAoHAnCAoHAnDAoDApHAoHAnEnGAoHAnHA",
   "nIoInJAoHAnKAoHAnLAoLAnMAnNAoGAoNAoYAnOnPAoHAnRAoHAoRAnSAoHAoSAnTAoHAoTApHAnUoUnVAoOCALIC LwL",
   "vRwRnWAnYAoYAgSIGN ANUSVARAmVAGRAHAlCANDRABINDUlNUKTAlOVERLINElVIRAMAnSARGAgVOWEL SIGN AAsIsU",
   "rErIsIrOrUsUrVOCALIC LbaLzRbaRcNATE LEFT PARENTHESIShRIGHT PARENTHESIScTHODOX CROSS",
   "bSAGE CAPITAL LETTER AwHwIxNvBRAvCHAvDHAvEwHCHAxKAxPAxTAySAwINvGHAvHAwYAvIvKAwHAwYAvLAvMAvNAvO",
   "wINvPAvSAwHAvTAwSAxHAvUvWAvZAwHAgSMALL LETTER AuHuIvNtBRAtCHAtDHAtEuHCHAvKAvPAvTAwSAuINtGHAtHA",
   "uYAtItKAuHAuYAtLAtMAtNAtOuINtPAtSAuHAtTAuSAvHAtUtWAtZAuHAcCcMANYA DIGIT EIGHToFIVEpOURoNINE",
   "oONEoSEVENpIXoTHREEpWOoZEROiLETTER AqAqLEFpBApCAYNpDEELqHApEqEpFApGApHApIpJApKAAFqHApLAANpMIIN",
   "pNUUNpOqOpQAAFpRApSAqHIINpTApUpWAWpXApYAbTTERdOMAN SIYAQ ALTERNATE NUMBER EIGHTbfFIVEbgOUR",
   "bj HUNDREDbfNINEbfSEVENbgIXbi HUNDREDbfTENbi THOUSANDbgHREEbgWObi THOUSANDoFRACTION ONE HALF",
   "bbSIXTHoMARRATANoNUMBER EIGHTba HUNDREDbbTHOUSANDbaYbb THOUSANDvFIFTYba THOUSANDxVEz HUNDRED",
   "baTHOUSANDwORTYba THOUSANDxURz HUNDREDbaTHOUSANDvNINEz HUNDREDbaTHOUSANDzTYbb THOUSANDvONE",
   "y HUNDREDzTHOUSANDvSEVENba HUNDREDbbTHOUSANDbaTYbc THOUSANDwIXy HUNDREDzTHOUSANDyTYba THOUSAND",
   "vTENy THOUSANDwHIRTYbb THOUSANDxREEba HUNDREDbbTHOUSANDwWENTYbb THOUSANDxOy HUNDREDzTHOUSAND",
   "bUNCE SIGNcTBOX TRAYdLINED BLACK STARjGREEK CROSSjLATIN CROSSjWHITE STARbVERHEATED FACEeLAP",
   "hPING BLACK SQUARESmWHITE AND BLACK SQUARESsSQUARESfINEbWLbXbYSTERaPACKAGEcDdDING CHARACTERcGE",
   "e FACING UPfWITH CIRCLED TEXTlURLeReSdODAcHAWH HMONG CLAN SIGN FAJxHAMzWJxKHAByOOyWMxLAUJyIS",
   "xMUASxPHABxTHOJySABzHEEJzWBxVAJyWJxXYOOJxYAJyEEGoONSONANT AUxCAUyHAUxHAUyLAUyNAUxLAUxMAUxNAU",
   "yCHAUyKAUyLAUyTHAUzSAUxPLHAUxQHAUxRAUxVAUxXAUxYAUnDIGIT EIGHTtFIVEuOURtNINEtONEtSEVENuIXtTHREE",
   "uWOtZEROnMARK CIM HOMwKESxHAVwSOxUAMwTAUMxUBnNUMBER HUNDRED MILLIONSbbSuMILLIONSuTEN BILLIONS",
   "yTHOUSANDSxSvRILLIONSnSIGN AVsCIM CHEEMxUAM TSHOOJwHAIS LUS NTOG NTOGwNRES TOSwPUB DAWB",
   "wTSOV ROGxXWVba CHWVsHLItNUBsIB YAMsLOSsMEEJ SUABxTSEEBtUSsNQIGtTUJsTAUtHIRD-STAGE HLI",
   "tXHEEJ CEEVsVOS FEEMwLUBwNRUAwSEEVwTHIAByOMxSHAB CEEBsXAUStIABtYEEM FAIByNTXIVyRHOyTOVuOO",
   "sZWJ THAJnVOWEL KAABwVvBvIBwVvUBwVvVvWBwVuEBvEBwVvVuIABwVvBvVuOBvOBwVvVuUABwVvBvVuWBvVcLLAS",
   "dM BRANCHfDOWN HANDfTREEfUP HANDeS UP TOGETHEReYRENE LEFT-POINTING FLEURONmTTER ALEPHsYINrBETH",
   "rDALETHrFINAL NUNrGIMELrHEtTHrKAPHrLAMEDHrMEMrNUNrPErQOPHrRESHrSADHEtMEKHsHINrTAWsETHrWAWrYODH",
   "rZAYINkNUMBER FIVEsOURrONErTENsHREEsWENTYtOkRIGHT-POINTING FLEURONcNCAKESdDA FACEcPERCLIP",
   "cRACHUTEeGRAPH SEPARATORjOSjUS MARKeLLEL TOjWITH HORIZONTAL STROKEoTILDE OPERATOR",
   "dENTHESIZED DIGIT EIGHTuFIVEvOURuNINEuONEuSEVENvIXuTHREEvWOoHANGUL CHIEUCHbc AwIEUCba AbbU",
   "vHIEUHba AvIEUNGba AvKHIEUKHbc AwIYEOKbb AvMIEUMba AvNIEUNba AvPHIEUPHbc AwIEUPba AvRIEULba A",
   "vSIOSz AvTHIEUTHbc AwIKEUTbb AoIDEOGRAPH ALLIANCEyCALLzONGRATULATIONyEARTHzIGHTzNTERPRISE",
   "yFESTIVALzINANCIALbaREbaVEzOURyHAVEyLABORyMETALzOONyNAMEzINEyONEyREACHbaPRESENTbaSOURCEbbT",
   "ySELFbaVENzIXzOCIETYzPECIALzTOCKbaUDYzUNbaPERVISEyTENzHREEzWOyWATERzOODoKOREAN CHARACTER O HU",
   "bgJEONoLATIN CAPITAL LETTER AbjBbjCbjDbjEbjFbjGbjHbjIbjJbjKbjLbjMbjNbjObjPbjQbjRbjSbjTbjUbjV",
   "bjWbjXbjYbjZuSMALL LETTER AbhBbhCbhDbhEbhFbhGbhHbhIbhJbhKbhLbhMbhNbhObhPbhQbhRbhSbhTbhUbhVbhW",
   "bhXbhYbhZoNUMBER EIGHTEENwLEVENvFIFTEENwOURTEENvNINETEENvSEVENTEENwIXTEENvTENwHIRTEENwWELVE",
   "yNTYdROTdT ALTERNATION MARKeIAL DIFFERENTIALiLINE BACKWARDnDOWNnFORWARDnUP",
   "hLY-RECYCLED PAPER SYMBOLeNERSHIP SIGNeY POPPERcSSED SYMBOLfNGER SHIPeIVE-PULL-DOWN-OUTPUT SYM",
   "BOLnUP-OUTPUT SYMBOLePORT CONTROLcU CIN HAU GLOTTAL STOPy FINALzVARIANTmLETTER AtBAtCAuHAtDAtE",
   "tFAuINAL KzLzMzNbaGzPzTzWzYtGAtHAtIuAtKAuHAtLAtMAtNAuGAtOtPAuHAtRAtSAtTAuHAtUuAtVAtZA",
   "nOW-FALLING TONEbc FINALbdLONGbh FINALmMID-LEVEL TONEba FINALbbLONG FINALmRISING TONEx FINAL",
   "yLONGbc FINALmSANDHI GLOTTAL STOPbf FINALtTONEx FINALyLONGbc FINALcW PRINTSbDFcIbEACE SYMBOLeH",
   "eOCKdNUTSdRcDESTRIANcN OVER STAMPED ENVELOPEdCILdGUINdSIVE FACEdTAGRAMcOPLE HUGGING",
   "cR MILLE SIGNeSIGNeTEN THOUSAND SIGNdCENT SIGNdFORMING ARTSdMANENT PAPER SIGNdPENDICULAR",
   "n WITH SdSEVERING FACEeON BOWING DEEPLYhCLIMBINGhDOING CARTWHEELhFROWNINGhIN LOTUS POSITION",
   "kSTEAMY ROOMhRAISING BOTH HANDS IN CELEBRATIONhWITH BALLnLOND HAIRmCROWNmFOLDED HANDS",
   "mHEADSCARFmPOUTING FACEgAL COMPUTERePECTIVEcSETA SIGNdO SIGNcTRI DISHbHAGS-PA DOUBLE HEAD MARK",
   "jLETTER ArLTERNATE YArSPIRATED FAqBAqCAsNDRABINDUrHAqDArDArZAqErEqFAqGArGAqHAqIqJAqKArHAqLAqMA",
   "qNArGArNArYAqOqPArHAqQAqRAqSArHArMALL AqTArHArSAsHArTAsHAqUqVOICED HAvLESS SHAqWAqXAqYAqZArHA",
   "jMARK DOUBLE SHADoSHADjSINGLE HEAD MARKkUBJOINED LETTER RAbaWAbaYAlPERFIXED LETTER RA",
   "dISTOS DISC SIGN ARROWtBEEwHIVEuOOMERANGvWuULLS LEGtCAPTIVEvRPENTRY PLANEvTuHILDuLUBuOLUMNvMB",
   "xINING OBLIQUE STROKEtDOLIUMvVEtEAGLEtFLUTEtGAUNTLETuRATERtHELMETuIDEuORNtLIDvLYtMANACLES",
   "vTTOCKtOX BACKtPAPYRUSuEDESTRIANuLANE TREEvUMED HEADtRAMuOSETTEtSAWuHIELDwPuLINGuMALL AXE",
   "uTRAINERtTATTOOED HEADuIARAuUNNYtVINEtWAVY BANDuOMANcILIPPINE DOUBLE PUNCTUATION",
   "lSINGLE PUNCTUATIONcOENICIAN LETTER AINtLFsBETsDELTsGAMLsHEuTsKAFsLAMDsMEMsNUNsPEsQOFsROSH",
   "sSADEtEMKtHINsTAUtETsWAUsYODsZAIlNUMBER ONEv HUNDREDsTENtHREEtWENTYuOlWORD SEPARATORdLUSbICK",
   "eUP TRUCKcEcGd FACEeNOSEcLCROW SIGNdE OF POOdLcNATAdCHED FINGERSfING HANDdE DECORATIONeAPPLE",
   "dWHEEL STARcSCESdTOLcTCHFORKj WITH TEE TOPbLACARDeE OF INTEREST SIGNjWORSHIPdNCK CONSTANT",
   "p OVER TWO PIdYGROUND SLIDEeING CARD ACE OF CLUBSuDIAMONDSuHEARTSuSPADESnBACKoLACK JOKER",
   "nEIGHT OF CLUBSwDIAMONDSwHEARTSwSPADESnFIVE OF CLUBSvDIAMONDSvHEARTSvSPADESoOOLpUR OF CLUBS",
   "vDIAMONDSvHEARTSvSPADESnJACK OF CLUBSvDIAMONDSvHEARTSvSPADESnKING OF CLUBSvDIAMONDSvHEARTS",
   "vSPADESoNIGHT OF CLUBSxDIAMONDSxHEARTSxSPADESnNINE OF CLUBSvDIAMONDSvHEARTSvSPADES",
   "nQUEEN OF CLUBSwDIAMONDSwHEARTSwSPADESnRED JOKERnSEVEN OF CLUBSwDIAMONDSwHEARTSwSPADES",
   "oIX OF CLUBSuDIAMONDSuHEARTSuSPADESnTEN OF CLUBSuDIAMONDSuHEARTSuSPADESoHREE OF CLUBSwDIAMONDS",
   "wHEARTSwSPADESoRUMP-1u0u1u2u3u4u5u6u7u8u9t2u0u1t3t4t5t6t7t8t9oWO OF CLUBSuDIAMONDSuHEARTS",
   "uSPADESnWHITE JOKERcDcUdNGERdS SIGNj ABOVE EQUALS SIGNkIN LEFT HALF CIRCLEnRIGHT HALF CIRCLE",
   "nTRIANGLEkWITH BLACK TRIANGLEpCIRCUMFLEX ACCENT ABOVEpDOT BELOWpSMALL CIRCLE ABOVE",
   "qUBSCRIPT TWOpTILDE ABOVEvBELOWe-MINUS SIGNdTOf FORM FIVEmOURlTHREEmWObMbOCKET CALCULATOR",
   "cLICE CARkS REVOLVING LIGHThOFFICERcODLEcP DIRECTIONAL FORMATTINGqISOLATEdCORNcRTABLE STEREO",
   "cSEIDONdITION INDICATORdTAL HORNhMARKl FACEeBOXcT OF FOODdABLE WATER SYMBOLeTOdTED PLANTcUCH",
   "dLTRY LEGdND SIGNdRING LIQUIDdTING CAT FACEiFACEcWER ON SYMBOLi-OFF SYMBOLgSLEEP SYMBOLhYMBOL",
   "bRAYER BEADScECEDESi ABOVE ALMOST EQUAL TOpEQUALS SIGNpNOT ALMOST EQUAL TOtEQUAL TO",
   "pSINGLE-LINE EQUALS SIGNbbNOT EQUAL TOjBUT NOT EQUIVALENT TOjOR EQUAL TOpIVALENT TO",
   "jUNDER RELATIONdGNANT MANjPERSONjWOMANdSCRIPTION TAKEeENTATION FORM FOR VERTICAL COLONbhMMA",
   "bfEM DASHbgN DASHbgXCLAMATION MARKbfHORIZONTAL ELLIPSISbfIDEOGRAPHIC COMMAbrFULL STOP",
   "bfLEFT ANGLE BRACKETbkBLACK LENTICULAR BRACKETbkCORNER BRACKETblURLY BRACKET",
   "bkDOUBLE ANGLE BRACKETbkPARENTHESISbkSQUARE BRACKETbkTORTOISE SHELL BRACKET",
   "bkWHITE CORNER BRACKETbqLENTICULAR BRACKETbgOW LINEbfQUESTION MARKbfRIGHT ANGLE BRACKET",
   "blBLACK LENTICULAR BRACKETblCORNER BRACKETbmURLY BRACKETblDOUBLE ANGLE BRACKETblPARENTHESIS",
   "blSQUARE BRACKETblTORTOISE SHELL BRACKETblWHITE CORNER BRACKETbrLENTICULAR BRACKETcfKCET",
   "bfSEMICOLONbfTWO DOT LEADERbfWAVY LOW LINEdTZELdVIOUS PAGEcIMEdNCEgSSeT SCREEN SYMBOLfERh ICON",
   "dVACY MESSAGEfTE USE ONEmTWOl-1m2cOBING CANEdHIBITED SIGNdJECTIVEdPERTY LINEeORTIONkAL TO",
   "dSERPINAbSALTER PAHLAVI FOUR DOTS WITH CROSSbfDOTqLETTER ALEPHxBETHxDALETHxGIMELxHEzTHxKAPH",
   "xLAMEDHxMEM-QOPHxNUNxPExSADHEzMEKHyHINxTAWxWAW-AYIN-RESHxYODHxZAYINqNUMBER FOURxONEba HUNDRED",
   "xTENyHREEyWENTYzOqSECTION MARKqTURNED SECTION MARKbU1c2cBLIC ADDRESS LOUDSPEAKER",
   "cNCTUATION SPACEgS ELEVATUS MARKcRPLE HEARTdSEcSHPINcT LITTER IN ITS PLACE SYMBOL",
   "aQUADRANT LOWER LEFTpRIGHTjUPPER LEFTt AND LOWER LEFT AND LOWER RIGHTbeRIGHT",
   "yUPPER RIGHT AND LOWER LEFTbuRIGHTpRIGHTu AND LOWER LEFTbj AND LOWER RIGHT",
   "fUPLE INTEGRAL OPERATORkPRIMEdRTER NOTEdTERNION INTEGRAL OPERATORcESTION EXCLAMATION MARKjMARK",
   "iED EQUAL TOcINCUNXcOTATION MARKaRABBITg FACEcCCOONdING CARhMOTORCYCLEcDICAL SYMBOL BOTTOMeO",
   "f BUTTONfACTIVE SIGNcILWAY CARiTRACKdNeBOWdSED BACK OF HANDhCOMMAhDOTkTED INTERPOLATION MARKER",
   "hFISThHANDl WITH FINGERS SPLAYEDrPART BETWEEN MIDDLE AND RING FINGERShINTERPOLATION MARKER",
   "hMC SIGNiD SIGNiR SIGNhSQUAREcMcTdIOcZORbECEIPTdORD SEPARATORdREATIONAL VEHICLE",
   "dYCLED PAPER SYMBOLgING SYMBOL FOR GENERIC MATERIALSvTYPE-1 PLASTICSba2 PLASTICSba3 PLASTICS",
   "ba4 PLASTICSba5 PLASTICSba6 PLASTICSba7 PLASTICScD APPLEeGIFT ENVELOPEcFERENCE MARK",
   "cGIONAL INDICATOR SYMBOL LETTER AbhBbhCbhDbhEbhFbhGbhHbhIbhJbhKbhLbhMbhNbhObhPbhQbhRbhSbhTbhU",
   "bhVbhWbhXbhYbhZeSTERED SIGNcJANG CONSONANT SIGN HwNxGwRhLETTER AoBAoCAoDAoGAoHAoJAoKAoLAoMApBA",
   "oNApDApGAqGApYAqJAoPAoRAoSAoTAoWAoYAhSECTION MARKhVIRAMAiOWEL SIGN AItUsEtAtUsIsOsU",
   "cLIEVED FACEcMINDER RIBBONcPLACEMENT CHARACTERcSPONSEdTRICTED LEFT ENTRY-1w2fOOMcTURN LEFT",
   "hRIGHThSYMBOLcVERSE CHECKER BOARDiINDEXiLIGHT FOUR POINTED PINWHEEL STARkNE FEEDiSOLIDUS",
   "p OPERATORqPRECEDING SUBSETqWITH HORIZONTAL STROKEiTILDE OPERATOR ABOVE LEFTWARDS ARROW",
   "bdRIGHTWARDS ARROWhD ANGLEo WITH UNDERBARjCOMMAjDOUBLE PRIMEv QUOTATION MARKqSTROKE NOT SIGN",
   "jEMPTY SETjFORKED PARAGRAPHOSjHAND WITH MIDDLE FINGER EXTENDEDjNOT SIGNjPILCROW SIGNkRIME",
   "jQUESTION MARKjRAISED HAND WITH FINGERS SPLAYEDkIGHT ANGLEkOTATED FLORAL HEART BULLET",
   "jSANS-SERIF CAPITAL LkEMICOLONjTHUMBS DOWN SIGNqUP SIGNkILDEo EQUALSkRIPLE PRIMEjVICTORY HAND",
   "dOLVING HEARTSbHINOCEROSbIcAL SIGNcBBONg ARROW DOWN LEFTsRIGHTnLEFT DOWNsUPnRIGHT DOWNtUP",
   "nUP LEFTqRIGHTcCE BALLfCRACKERcFLEcGHT AND LOWER ONE EIGHTH BLOCKkUPPER ONE EIGHTH BLOCK",
   "iGER BUBBLEjLEl BRACKETt WITH DOTmDOTTED SUBSTITUTION MARKERmSUBSTITUTION MARKER",
   "mVARIANT WITH SQUAREmWITH ARCrDOWNWARDS ZIGZAG ARROWhRC GREATER-THAN BRACKET",
   "iROW WITH CIRCLED PLUSrSMALL CIRCLEgBLACK LENTICULAR BRACKETmTORTOISE SHELL BRACKETgCEILING",
   "hORNER BRACKEThURLY BRACKETt LOWER HOOKuMIDDLE PIECEuUPPER HOOKgDOTTED SUBSTITUTION BRACKET",
   "iUBLE ANGLE BRACKEToRROW WITH ROUNDED HEADnPARENTHESISnQUOTATION MARKnWIGGLY FENCEgFISH TAIL",
   "iVE EIGHTHS BLOCKhLOORgHALF BLACK CIRCLErSTARnOCKlFOLDERlMEDIUM SHADElRUNNING MAN",
   "iND TELEPHONE RECEIVERgLOW PARAPHRASE BRACKETgNORMAL FACTOR SEMIDIRECT PRODUCT",
   "gONE EIGHTH BLOCKkQUARTER BLOCKhPEN SQUARED DOThUTER JOINgPARENTHESISr EXTENSIONsLOWER HOOK",
   "sUPPER HOOKgRAISED OMISSION BRACKETgS-SHAPED BAG DELIMITERhEMIDIRECT PRODUCTiVEN EIGHTHS BLOCK",
   "hIDEWAYS U BRACKETiNGLE QUOTATION MARKhPEAKERn WITH ONE SOUND WAVEtTHREE SOUND WAVES",
   "jECH BUBBLEhQUARE BRACKETu EXTENSIONvLOWER CORNERvUPPER CORNERvWITH DOUBLE STROKEbaQUILL",
   "baSTROKEbaTICK IN BOTTOM CORNERbiTOP CORNERbaUNDERBARhUBSTITUTION BRACKETgTACK",
   "hHIRD WHITE RIGHT POINTING INDEXiOUGHT BUBBLEiREE EIGHTHS BLOCKmQUARTERS BLOCK",
   "hORTOISE SHELL BRACKEThRANSPOSITION BRACKETiIANGLEo ABOVE LEFT TRIANGLEmULAR ONE QUARTER BLOCK",
   "gVERTICAL BAR WITH QUILLqOX LINEgWHITE CORNER BRACKETnURLY BRACKETmLENTICULAR BRACKET",
   "mPARENTHESISmSQUARE BRACKETmTORTOISE SHELL BRACKEThIGGLY FENCEf-FACING ARMENIAN ETERNITY SIGN",
   "nFISTnSVASTI SIGNy WITH DOTSgHANDED INTERLACED PENTAGRAMgPOINTING ANGLE BRACKET",
   "pCURVED ANGLE BRACKETpDOUBLE ANGLE QUOTATION MARKpMAGNIFYING GLASSgSHADED WHITE RIGHTWARDS ARR",
   "OWhIDE ARC CLOCKWISE ARROWgTO-LEFT EMBEDDINGoISOLATEoMARKoOVERRIDEfHAND INTERIOR PRODUCT",
   "fWARDS ARROWq ABOVE ALMOST EQUAL TOxREVERSE ALMOST EQUAL TObfTILDE OPERATOR",
   "xSHORT LEFTWARDS ARROWxTILDE OPERATORsND UPPER AND LOWER ONE EIGHTH BLOCKrFROM BAR",
   "z TO BLACK DIAMONDrOVER LEFTWARDS ARROWrTHROUGH GREATER-THANzSUPERSETzXsO BARvLACK DIAMOND",
   "rWITH CORNER DOWNWARDSwDOTTED STEMyUBLE VERTICAL STROKEwEQUILATERAL ARROWHEADwHOOK",
   "wLARGE TRIANGLE ARROWHEADxOOPwMEDIUM TRIANGLE ARROWHEADwNOTCHED TAILwPLUS BELOW",
   "wSMALL EQUILATERAL ARROWHEADbcTRIANGLE ARROWHEADxTROKEwTAILba WITH DOUBLE VERTICAL STROKE",
   "bgVERTICAL STROKExIP DOWNWARDSbaUPWARDSwVERTICAL STROKEq-TAILlBACK-TILTED SHADOWED WHITE ARROW",
   "mLACK ARROWrCIRCLED WHITE ARROWmOTTOM SHADED WHITE ARROWlCOMPRESSED ARROWlDASHED ARROW",
   "mOUBLE ARROWx FROM BARyWITH STROKEbdVERTICAL STROKEx-TAILsDASH ARROWlFINGER-POST ARROW",
   "mRONT-TILTED SHADOWED WHITE ARROWlHANDnRPOON OVER LEFTWARDS HARPOONtWITH BARB DOWN ABOVE LEFTW",
   "ARDS HARPOON WITH BARB DOWNbiBELOW LONG DASHbiFROM BARbiTO BARbhWARDSbdUP ABOVE LEFTWARDS HARP",
   "OON WITH BARB UPbnONG DASHbmRIGHTWARDS HARPOON WITH BARB DOWNbgFROM BARbgTO BARbfWARDS",
   "mEAVY ARROWrCOMPRESSED ARROWlLEFT-SHADED WHITE ARROWlOPEN-HEADED ARROWlPAIRED ARROWS",
   "lQUADRUPLE ARROWlRIGHT-SHADED WHITE ARROWmOCKETlSANS-SERIF ARROWmQUARED ARROWoIGGLE ARROW",
   "lTOP SHADED WHITE ARROWmRIANGLE ARROWHEADt-HEADED ARROWbg OVER LEFTWARDS TRIANGLE-HEADED ARROW",
   "bhTO BARbhWITH BOLD SHAFTbmDOUBLE HORIZONTAL STROKEbtVERTICAL STROKEbmHEAVY SHAFT",
   "bmLONG TIP DOWNWARDSbvUPWARDSbmMEDIUM SHAFTbmNARROW SHAFTbmVERY HEAVY SHAFTbbDASHED ARROW",
   "bbPAIRED ARROWSoPLE ARROWsDASH ARROWmWO HEADED ARROWo-HEADED ARROW FROM BAR",
   "bcWITH DOUBLE VERTICAL STROKEbhTAILbl WITH DOUBLE VERTICAL STROKEbrVERTICAL STROKE",
   "biRIANGLE ARROWHEADSbhVERTICAL STROKEwTRIPLE DASH ARROWlWAVE ARROWmHITE ARROWw FROM WALL",
   "xWITHIN TRIANGLE ARROWHEADcNGe ABOVEfBUOYfEQUAL TOfIN EQUAL TOfOPERATORfPOINTeED PLANET",
   "eING BELLcSING DIAGONAL CROSSING FALLING DIAGONALzSOUTH EAST ARROWbLEcIcMcO",
   "bOASTED SWEET POTATOcBOT FACEcCKeETcLL OF PAPEReED-UP NEWSPAPERfR COASTERhSKATE",
   "eING ON THE FLOOR LAUGHINGcMAN AS SIGNgCENTURIAL SIGNgDENARIUS SIGNhIMIDIA SEXTULA SIGN",
   "hUPONDIUS SIGNgNUMERAL EIGHTpLEVENoFIFTYt EARLY FORMuTHOUSANDqVEs HUNDREDtTHOUSANDpOURoNINE",
   "oONEr HUNDREDz THOUSANDsTHOUSANDba C DoREVERSED ONE HUNDREDoSEVENpIXr LATE FORMoTENr THOUSAND",
   "pHREEpWELVEqOgQUINARIUS SIGNgSEMUNCIA SIGNiSTERTIUS SIGNiXTANS SIGNkULA SIGNhILIQUA SIGN",
   "gUNCIA SIGNcOSTERcSEeTTEcTATED CAPITAL QiFLORAL HEART BULLETiHEAVY BLACK HEART BULLET",
   "iLIGHT FOUR POINTED BLACK CUSPiWHITE FOUR POINTED CUSPcUND PUSHPINgTARGETfED SYMBOL FOR CAItFU",
   "tLUtSHOUvUANGXItXIcWBOATbSbUBLE SIGNcGBY FOOTBALLcLE-DELAYEDcMI DIGIT EIGHTlFIVEmOURlNINElONE",
   "lSEVENmIXlTHREEmWOfFRACTION ONE HALFsQUARTERsTHIRDoTWO THIRDSfNUMBER EIGHT HUNDREDrYmFIFTY",
   "oVE HUNDREDnORTYoUR HUNDREDmNINE HUNDREDqTYmONE HUNDREDmSEVEN HUNDREDrTYnIX HUNDREDpTYmTEN",
   "nHIRTYoREE HUNDREDnWENTYoO HUNDREDcNIC ARLAUG SYMBOLgBELGTHOR SYMBOLgCROSS PUNCTUATION",
   "gLETTER AC AoESCoLGIZ EOLHXoNSUZ AnBERKANAN BEORC BJARKAN BnCoALCoEALCpNoWEORTHnDoAGAZ DAEG D",
   "oOTTED-LuNuPnEoARoHWAZ EH EoNGoTHnFEHU FEOH FE FoRANKS CASKET ACbcESCbbEHbbISbbOSnGoAR",
   "oEBO GYFU GpRnHAEGL HpGLAZ HnICELANDIC-YRoNGqWAZoORoSAZ IS ISS IoWAZ EOHnJERAN JnKoAUN KrA",
   "nLAUKAZ LAGU LOGR LoONG-BRANCH-AR AEzHAGALL HzMADR MzOSS OzYRnMANNAZ MAN MnNAUDIZ NYD NAUD NnO",
   "oEoNoOoPEN-PoS OoTHALAN ETHEL OnPERTHO PEORTH PnQnRAIDO RAD REID RnSHpORT-TWIG-AR AyBJARKAN B",
   "yHAGALL HyMADR MyNAUD NyOSS OySOL SyTYR TyYRoIGEL LONG-BRANCH-SOL SoOWILO SoTAN",
   "nTHURISAZ THURS THORNoIWAZ TIR TYR TnURUZ UR UnVnWoUNJO WYNN WnXnYoRnZgMULTIPLE PUNCTUATION",
   "gSINGLE PUNCTUATIONgTVIMADUR SYMBOLdNEReING SHIRT WITH SASHcPEE SIGNcSSIAN ASTROLOGICAL SYMBOL",
   " BINOVILEbcNOVILEbcQUINTILEbcSENTAGONbcTREDECILEbcVIGINTILEaS IN TRIANGLEbAFETY PINhVEST",
   "cGITTARIUScILBOATcKE BOTTLE AND CUPcLT SHAKEReIREdUTING FACEcMARITAN ABBREVIATION MARK",
   "kLETTER ALAFrBAAsITrDALATrFIrGAMANrINsTsYrKAAFrLABATrMIMrNUNrQUFrRISHrSHANsINGAATrTAAFsIT",
   "sSAADIYrYUTrZENkMARK DAGESHpEPENTHETIC YUTpINr-ALAFpNEQUDAApOCCLUSIONlODIFIER LETTER EPENTHETI",
   "C YUTbaIbaSHORT AkPUNCTUATION AFSAAQxNGEDyNAAUxRKAANUxTMAAUwBAUwMELODIC QITSAwNEQUDAAwQITSA",
   "wSHIYYAALAAxOF MASHFAATwTURUwZAEFxIQAAkVOWEL SIGN AwAvEvIvLONG AbbAbaEbaIbaUvOwVERLONG AbfA",
   "vSHORT AwUKUNvUcNDWICHdS-SERIF HEAVY DOUBLE COMMA QUOTATION MARK ORNAMENT",
   "yTURNED COMMA QUOTATION MARK ORNAMENTrLOW DOUBLE COMMA QUOTATION MARK ORNAMENT",
   "lINTERROBANG ORNAMENTcRIcTELLITEj ANTENNAdURNcURASHTRA CONSONANT SIGN HAARUlDANDAmIGIT EIGHT",
   "rFIVEsOURrNINErONErSEVENsIXrTHREEsWOrZEROmOUBLE DANDAlLETTER AtAtItUsBAtHAsCAtHAsDAtDAuHAtHAsE",
   "tEsGAtHAsHAsItIsJAtHAsKAtHAsLAtLAsMAsNAtGAtNAtYAsOtOsPAtHAsRAsSAtHAtSAsTAtHAtTAuHAsUtUsVA",
   "tOCALIC LbbLbaRbbRsYAlSIGN ANUSVARAqCANDRABINDUqVIRAMAsSARGAlVOWEL SIGN AAxIxUwExEwIxIwOxOwUxU",
   "wVOCALIC LbfLbeRbfReOPODcXOPHONEbCALESdRFcHOOLg SATCHELcIcOOTERdRPIONgUScREENeWDRIVER",
   "dIPT CAPITAL BpEpFpHpIpLpMpPpRhLIGATURE ET ORNAMENThSMALL EnGnLnOdOLLdUPLEbEALdT",
   "cCOND PLACE MEDALdTION SIGNeORcDNAcE-NO-EVIL MONKEYdDLINGcGMENThED DIGIT EIGHTqFIVErOURqNINE",
   "qONEqSEVENrIXqTHREErWOqZEROcLFIEcMICOLONeDIRECT PRODUCT WITH BOTTOM CLOSEDeSEXTILE",
   "cPARATED SYMBOLcRIOUS FACE WITH SYMBOLS COVERING MOUTHdVICE MARKcSAME DOTdQUIQUADRATEcT MINUS",
   "eTRANSMIT STATEcWING NEEDLEcXTILEbGCbHADOWED WHITE CIRCLEpLATIN CROSSpSTARdLLOW PAN OF FOOD",
   "dMROCKdRADA ABBREVIATION SIGNiCONTINUATION SIGNiDANDAjIGIT EIGHToFIVEpOURoNINEoONEoSEVENpIX",
   "oTHREEpWOoZEROjOUBLE DANDAiEKAMjXTRA SHORT VOWEL MARKiHEADSTROKEiLETTER AqAqIqUpBAqHApCAqHApDA",
   "qDArHAqHApEpGAqHApHApIqIpJAqHApKAqHApLAqLApMApNAqGAqNAqYApOpPAqHApRApSAqHAqSApTAqHAqTArHApUqU",
   "pVAqOCALIC LyLxRyRpYAiOMiSANDHI MARKjECTION MARK-1v2kPARATORjIGN ANUSVARAoVAGRAHAnCANDRABINDU",
   "nINVERTED CANDRABINDUnJIHVAMULIYAnNUKTAnSIDDHAMnUPADHMANIYAnVIRAMApSARGAjUTRA MARK",
   "iVOWEL MODIFIER MARKoSIGN AAuIuUtEtIuItOtPRISHTHAMATRA EtUuUtVOCALIC LbcLbbRbcReKdVED ICE",
   "eIAN LETTER ADOqGEqHqIRqRErRAYqSHqWEpBIBpCHURCHpDEADpEARrTqGGqRRpFEEpGAGpHA-HAqUNGpIANqCEqF",
   "pJUDGEpKICKpLOLLpMEASUREqIMEpNUNpOAKqILqNqOZEqRqUTpPEEPpROARpSOqUREpTHEYrIGHqOTpUPpVOWpWOErOL",
   "pYEArWpZOOcEEPcIELDdFT INgOUTdNTO SHRINEdPcOCKED FACE WITH EXPLODING HEADdOTING STAR",
   "dPPING BAGSjTROLLEYdRT BACKSLANTED SOUTH ARROWhENT ARROW POINTING DOWNWARDS THEN NORTH EAST",
   "gDOWN TACKp WITH OVERBARgLEFT TACKgRIGHTWARDS ARROW ABOVE LEFTWARDS ARROWgSLANTED NORTH ARROW",
   "gUP TACKn ABOVE SHORT DOWN TACKoWITH UNDERBARfCAKEfHAND FORMAT CONTINUING OVERLAPrDOWN STEP",
   "rLETTER OVERLAPrUP STEPfSdULDERED OPEN BOXdWERcRIMPdUGcUFFLE PRODUCTcYbIcDDHAM DANDA",
   "jOUBLE DANDAiEND OF TEXT MARKiLETTER AqAqIqLTERNATE UqUpBAqHApCAqHApDAqDArHAqHApEpGAqHApHApIqI",
   "pJAqHApKAqHApLApMApNAqGAqNAqYApOpPAqHApRApSAqHAqSApTAqHArREE-CIRCLE ALTERNATE IqTArHA",
   "qWO-CIRCLE ALTERNATE IblIpUqUpVAqOCALIC LyLxRyRpYAiREPETITION MARK-1y2y3",
   "iSECTION MARK DOUBLE RINGbg WITH RAYSvWITH CIRCLES AND FOUR ENCLOSURESbmRAYSbmTWO ENCLOSURES",
   "baDOUBLE CRESCENTSbaQUADRUPLE CRESCENTSbaRAYS AND DOTTED CRESCENTSbqDOUBLE CRESCENTS",
   "bqTRIPLE CRESCENTSbaSEPTUPLE CRESCENTSbaTRIDENT AND DOTTED CRESCENTSbmU-SHAPED ORNAMENTS",
   "bdPLE CRESCENTSkPARATOR BARsDOTjIGN ANUSVARAnCANDRABINDUnNUKTAnSIDDHAMnVIRAMApSARGA",
   "iVOWEL SIGN AAuIuLTERNATE UbeUuUtEtIuItOtUuUtVOCALIC RbcRdEWAYS BLACK DOWN POINTING INDEX",
   "pLEFT POINTING INDEXpRIGHT POINTING INDEXpUP POINTING INDEXjWHITE DOWN POINTING INDEX",
   "pLEFT POINTING INDEXpRIGHT POINTING INDEXpUP POINTING INDEXcGN OF THE HORNS",
   "eWRITING AIR BLOW SMALL ROTATIONSuING OUTqSUCK SMALL ROTATIONSuING INmBREATH EXHALEtINHALE",
   "oUSH BETWEENsMULTIPLEsSINGLEmCHEEKS NEUTRALtPUFFEDtSUCKEDnOLONoMMAmDREAMY EYEBROWS DOWN NEUTRA",
   "LbcNEUTRAL DOWNbkUPbcUP NEUTRALnYNAMIC ARROWHEAD LARGEbeSMALLuEVERY OTHER TIMEuFASTuGRADUAL",
   "uRELAXEDuSIMULTANEOUSbg ALTERNATINGvLOWuTENSEmEARSnXCITEMENTnYE BLINK MULTIPLEwSINGLEqWINK",
   "pBROWS STRAIGHT DOWNbeNEUTRALbeUPpGAZE-FLOORPLANE CURVEDbfSTRAIGHTbn ALTERNATINGboDOUBLE",
   "uWALLPLANE CIRCLINGbfURVEDbeSTRAIGHTbm ALTERNATINGbnDOUBLEpLASHES DOWNwFLUTTERINGwUPpS CLOSED",
   "rHALF CLOSEDwOPENrOPENrSQUEEZEDrWIDE OPENvNING MOVEMENTmFACE DIRECTION POSITION NOSE FORWARD T",
   "ILTINGbpUP OR DOWNbz TILTINGnILL MODIFIER-2ba3ba4ba5ba6oNGERnLICK LARGE MULTIPLEySINGLE",
   "sSEQUENTIALtMALL MULTIPLEySINGLEoOORPLANE SHOULDER HIP MOVEnOREHEAD CONTACTvNEUTRALvWRINKLED",
   "nULL STOPmGRASP BETWEENsMULTIPLEsSINGLEmHAIRoND-ANGLEw INDEXbc MIDDLE LITTLEbkRING",
   "bdRING LITTLEbo OUTbdTHUMBbi INbjOUTxLITTLE INDEXbj THUMB INDEX THUMBcb OUTbeUP",
   "xMIDDLE RING LITTLEbp INbqOUTxRING DOWN MIDDLE THUMB INDEX CROSSbcLITTLErCIRCLEx INDEXbd BENT",
   "beHINGEbeMIDDLEbk CROSS LITTLEbqEDblLITTLEblRINGblTHUMBbeRING LITTLEyLITTLE INDEXbfUP",
   "yMIDDLE RING LITTLEbq BENTbfUPyRING LITTLEsLAWv FOUR FINGERS CONJOINEDwINDEX THUMB CURVE THUMB",
   " INSIDEwMIDDLE RING LITTLE CONJOINEDby SIDEwNO THUMBwTHUMB FORWARDbcSIDEsUP",
   "u FIVE FINGERS SPREADbo OPENvINDEXba RING LITTLEbbTHUMBbg OPENvMIDDLE RING LITTLEvNO THUMB",
   "vOPENz NO THUMBbaTHUMB FORWARDbgSIDEvTHUMB FORWARDbbSIDEtRLICUEz INDEX RING LITTLE ON",
   "baMIDDLE RING LITTLE ONbaOPENrFISTv FOUR FINGERS CONJOINED BENTwHEELwINDEXbb BENT",
   "bg OVER MIDDLEbcCUPPEDbcHINGEDbi LOWbjMIDDLE UPbs THUMB SIDEbcMIDDLEbi BENTbn THUMB STRAIGHT",
   "bjCONJOINEDbs CUPPEDbz THUMB FORWARDbtHINGEDbz THUMB SIDEbtINDEX BENTbtMIDDLE BENT",
   "btTHUMB FORWARDbzSIDEcd BENTceCONJOINEDbkROSS LITTLEboEDbq THUMB SIDEbjHINGED",
   "bp SPREAD THUMB SIDEbjLITTLEbjRAISED KNUCKLESbkINGbn BENTboCONJOINEDbjSTRAIGHT THUMB BENT",
   "bjTHUMBbo ANGLEDbv OUTbpBENTbpCIRCLEDbqONJOINED HINGEDbqUPPEDbpHINGEDbqOOKED",
   "bjUP SPREAD THUMB FORWARDbcRAISED KNUCKLEbdING LITTLEbcTHUMB ANGLED IN MIDDLE UP",
   "bpOUT MIDDLE UPbiCIRCLEboD MIDDLE UPbjUPPED MIDDLE UPbkRLICUEblVE THUMB INSIDEbuUNDER",
   "biFORWARD INDEX BENTbwSTRAIGHTbiHOOKbmED MIDDLE HINGEDbwUPbiSIDEbm BOTH BENTbnINDEX BENT",
   "btHINGEbnTHUMB BENTbtCONJOINEDbtDIAGONALbcUP MIDDLE HINGEDbs THUMB CONJOINEDbzSIDEwLITTLE BENT",
   "bdDOWNbh OTHERS CIRCLEDbiRIPPLE CURVEDbpSTRAIGHTbdINDEXbi THUMBbdRAISED KNUCKLEbdTHUMB",
   "beOUCHES THUMBbdUPwMIDDLE BENT OVER INDEXbdDOWNbdLITTLEbdRAISED KNUCKLEbeING LITTLE",
   "bdTHUMB ANGLED INDEX UPbqOUT INDEX CROSSEDcaUPbjCIRCLED INDEX HINGEDbxUPbkUPPED INDEX UP",
   "bjHOOKED INDEX UPbjLITTLEbdUPbf THUMB SIDEwRING DOWNbbINDEXbbLITTLEbbMIDDLEbh CONJOINED",
   "biRAISED KNUCKLESbbRAISED KNUCKLEbbTHUMBbbUPwTHUMBbb BETWEEN INDEX MIDDLEbw STRAIGHT",
   "bkMIDDLE RINGbkRING LITTLEbcFORWARDbcHEELbcOVER FOUR RAISED KNUCKLESbhTWO FINGERSbcSIDE BENT",
   "bhCONJOINEDbhDIAGONALbcUNDER FOUR FINGERSbiINDEX BENTbiLITTLE UPbiTHREE FINGERSbjWO FINGERS",
   "sLATv BETWEEN PALM FACINGSwFIVE FINGERS SPREADbp BENTbqFOUR BENTbqHINGEDbw NO THUMB",
   "bxTHUMB SIDEbqTHUMB FORWARDxOUR FINGERSbi BENTbjCONJOINEDbs SPLITbjHINGEDwHEEL",
   "ba FIVE FINGERS SPREADbu BENTbvFOUR BENTbbTHUMB SIDEwSPLIT CENTREbi THUMB SIDEbt BENT",
   "bcINDEX THUMB SIDEbcLITTLEwTHUMB BENTbcFORWARDbcSIDErHINGEw FIVE FINGERS SPREAD OPEN",
   "yOUR FINGERS CONJOINEDxINDEXbc HINGEDbdMIDDLE LITTLEbkRINGbo CONJOINEDbdRING LITTLEbdTHUMB",
   "bi LARGEbjOPENbjSIDEbkMALLxLITTLEbd INDEXbj THUMBbeTHUMBxMIDDLEbd RING LITTLExNO THUMBxOPEN",
   "bb NO THUMBbcTHUMB FORWARDbiSIDExRINGbb DOWN INDEX THUMB HOOK MIDDLExSMALL",
   "xTHUMB BETWEEN MIDDLE RINGbdSIDEbh TOUCHING INDEXsOOKv CURLICUEwINDEX RING LITTLE INboOUT",
   "boUNDERwMIDDLE RING LITTLE CONJOINEDby INbzOUTbdTHUMBwRING THUMBrOVALv FIVE FINGERS SPREAD",
   "wINDEXwLITTLE UPwNO THUMBwRING LITTLEwTHUMB FORWARDbcSIDEnEADq MOVEMENT CIRCLE",
   "z-FLOORPLANE CURVEblSTRAIGHTbaWALLPLANE CURVEbkSTRAIGHTbkTILTrRIMmLIMB COMBINATIONrLENGTH-1y2",
   "y3y4y5y6y7oP LOWER OVER UPPERqUPPER OVER LOWERpS PRESSED TOGETHERnOCATION DEPTHvHEAD NECKxIGHT",
   "vLIMBS DIGITSvTORSOvWIDTHu-FLOORPLANE SPACEvWALLPLANE SPACEmMOUTH CLOSED CONTACTzFORWARD",
   "zNEUTRALtORNERSsFROWNx OPENyWRINKLEDsKISSw FORWARDxWRINKLEDsOPEN CIRCLExFORWARDxOVAL",
   "bb WRINKLEDbcYAWNxRECTANGLEbg WRINKLEDbhYAWNxWRINKLEDsSMILEx OPENyWRINKLEDsTENSEx FORWARD",
   "ySUCKEDsWRINKLES DOUBLEbbSINGLEoVEMENT-DIAGONAL AWAY LARGEboSTbjMEDIUMbjSMALL",
   "beBETWEEN AWAY LARGEbwSTbrMEDIUMbrSMALLbmTOWARDS LARGEbzSTbuMEDIUMbuSMALLbeTOWARDS LARGEbrST",
   "bmMEDIUMbmSMALLvFLOORPLANE ARM CIRCLE HITTING WALL LARGE DOUBLEckSINGLEceMEDIUM DOUBLEclSINGLE",
   "ceSMALL DOUBLEckSINGLEbgBENDbhOX LARGEbkMEDIUMbkSMALLbgCHECKbhORNER LARGEbnMEDIUMbnSMALLbhROSS",
   "bhURVE COMBINEDbmHITTING CEILING LARGEccSMALLbuFLOOR LARGEcaSMALLbmLARGEbrSTbmMEDIUMbmSMALL",
   "bgDOUBLE ALTERNATINGby WRIST FLEXbnSTRAIGHTbnWRIST FLEXbgFINGER CIRCLES HITTING WALL DOUBLE",
   "ciSINGLEboONTACTbgHUMP HITTING CEILING LARGE DOUBLEchTRIPLEcbSMALL DOUBLEchTRIPLE",
   "btFLOOR LARGE DOUBLEbzSMALL DOUBLEbzTRIPLE LARGE TRIPLEcgSMALL TRIPLEblSMALLbgJAW",
   "bgLOOP HITTING CEILING LARGE DOUBLEchSINGLEcbSMALL DOUBLEchSINGLEbtFLOOR LARGE DOUBLEcfSINGLE",
   "bzSMALL DOUBLEcfSINGLEblSMALLbgPEAKS LARGEbmMEDIUMbmSMALLbgSHAKING PARALLEL",
   "bhINGLE STRAIGHT LARGEcbSTbwMEDIUMbwSMALLbnWRIST FLEXbgTRIPLE ALTERNATING MOVEMENTbzWRIST FLEX",
   "bnSTRAIGHT MOVEMENTbnWRIST FLEXbgWAVE HITTING CEILING LARGEcbSMALLbtFLOOR LARGEbzSMALLblLARGE",
   "blSMALLbmNAKEbhRIST CIRCLE HITTING WALL DOUBLEcgSINGLEbgZIGZAG LARGEbnMEDIUMbnSMALL",
   "vHINGE DOWN SEQUENTIALbbSIDE TO SIDE SCISSORSbbUP DOWN ALTERNATING LARGEbvSMALLbjLARGEbjSMALL",
   "beSEQUENTIALvWALLPLANE ARM CIRCLE MEDIUM DOUBLEbxSINGLEbqSMALL DOUBLEbwSINGLEbfBEND LARGE",
   "bkMEDIUMbkSMALLbgOX LARGEbjMEDIUMbjSMALLbfCHECK LARGEblMEDIUMblSMALLbgORNER LARGEbmMEDIUM",
   "bmROTATIONbmSMALLbgROSSbgURVE HALF-CIRCLE LARGEccSTbxMEDIUMbxSMALLbmITTING CHESTbtFRONT WALL",
   "blQUARTER LARGEbySTbtMEDIUMbtSMALLblTHEN STRAIGHTbnREE-QUARTER CIRCLE MEDIUMcgSMALL",
   "bkD CROSS MEDIUMbsSMALLbfDOUBLE ALTERNATINGbx WRIST FLEXbmSTRAIGHTbmWRIST FLEX",
   "bfFINGER CIRCLES DOUBLEbuSINGLEbnONTACTbfHUMP HITTING CHESTbsFRONT WALLbkLARGEbkMEDIUMbkSMALL",
   "bfJAWbfLOOP HITTING CHESTbsFRONT WALLbkLARGEbkMEDIUMbkSMALLbp DOUBLEbfPEAKS LARGEblMEDIUM",
   "blSMALLbfSHAKINGbgINGLE STRAIGHT LARGEcaSTbvMEDIUMbvSMALLbmWRIST FLEXbfTRIPLE ALTERNATING",
   "bx WRIST FLEXbmSTRAIGHT MOVEMENTbmWRIST FLEXbfWAVE CURVE DOUBLE LARGEbxMEDIUMbxSMALL",
   "bqTRIPLE LARGEbxMEDIUMbxSMALLbkDIAGONAL PATH LARGEbyMEDIUMbySMALLbkHITTING CHESTbsFRONT WALL",
   "bgRIST CIRCLE FRONT DOUBLEbySINGLEbfZIGZAG LARGEbmMEDIUMbmSMALLmNECKnOSE CONTACTrNEUTRAL",
   "rWIGGLESsRINKLESmPARENTHESISmROTATION MODIFIER-10bf1bf2bf3bf4bf5bf6be2be3be4be5be6be7be8be9",
   "u-FLOORPLANE ALTERNATINGbr HITTING CEILINGcaFLOORbgDOUBLEbm HITTING CEILINGbvFLOORbgSINGLE",
   "bm HITTING CEILINGbvFLOORvWALLPLANE ALTERNATEbnING HITTING CHESTbzFRONT WALLbfDOUBLE",
   "bl HITTING CHESTbuFRONT WALLbfSINGLEbl HITTING CHESTbuFRONT WALLnUB BETWEENqMULTIPLEqSINGLE",
   "mSEMICOLONnHOULDER HIP POSITIONSzSPINEvTILTING FROM WAISTnQUEEZE FLICK ALTERNATING",
   "uLARGE MULTIPLEbaSINGLEuSEQUENTIALvMALL MULTIPLEbaSINGLEnTRIKE BETWEENtMULTIPLEtSINGLE",
   "nURFACE BETWEENuSYMBOLSmTEETHr BITE LIPSsMOVEMENTsON LIPSz MOVEMENTvTONGUEbb MOVEMENT",
   "oNSE CHEEKS HIGHzLOWzMIDDLEnONGUE CENTRE INSIDE MOUTHbaSTICKING OUTtINSIDE MOUTH RELAXED",
   "tLICKING LIPStMOVES AGAINST CHEEKtSTICKING OUT FARtTIP BETWEEN LIPSxTOUCHING INSIDE MOUTH",
   "oRSO-FLOORPLANE TWISTINGsWALLPLANE CURVED BENDbcSTRAIGHT STRETCHoUCH BETWEENsMULTIPLEsSINGLE",
   "nRAVEL-FLOORPLANE ROTATION-FLOORPLANE ALTERNATINGbyDOUBLEbySINGLEbnWALLPLANE ALTERNATING",
   "bxDOUBLEbxSINGLEbeSHAKINGtWALLPLANE ARM SPIRAL DOUBLEboSINGLEboTRIPLEbdROTATION-FLOORPLANE ALT",
   "ERNATINGbxDOUBLEbxSINGLEbmWALLPLANE ALTERNATINGbwDOUBLEbwSINGLEbdSHAKING",
   "mUPPER BODY TILTING FROM HIP JOINTSmWALLPLANE SHOULDER HIP MOVEcLHOUETTE OF JAPAN",
   "cMILAR ABOVE GREATER-THAN ABOVE EQUALS SIGNoLESS-THAN ABOVE EQUALS SIGNiMINUS SIMILAR",
   "iOR GREATER-THANlLESS-THANcNE WAVEdGLE CHARACTER INTRODUCERhGRAPHIC CHARACTER INTRODUCER",
   "hHIGH-REVERSED-9 QUOTATION MARKhLEFT-POINTING ANGLE QUOTATION MARKiOW-9 QUOTATION MARK",
   "hRIGHT-POINTING ANGLE QUOTATION MARKhSHIFT THREEoWOg-SHIFT-2n3dHALA ARCHAIC DIGIT EIGHTwFIVE",
   "xOURwNINEwONEwSEVENxIXwTHREExWOqNUMBER EIGHTYxFIFTYyORTYxNINETYxONE HUNDREDbbTHOUSANDxSEVENTY",
   "yIXTYxTENyHIRTYyWENTYiLETTER AAYANNAqEEYANNArYANNAqIYANNAqLPAPRAANA BAYANNAbaCAYANNAbaDAYANNA",
   "bbDAYANNAbaGAYANNAbaJAYANNAbaKAYANNAbaPAYANNAbaTAYANNAbbTAYANNAqMBA BAYANNAqUYANNAqYANNA",
   "pDANTAJA LAYANNAxNAYANNAxSAYANNApEEYANNAqYANNApFAYANNApHAYANNApIIYANNAqLUUYANNAsYANNAqRUUYANNA",
   "sYANNAqYANNApKANTAJA NAASIKYAYApMAHAAPRAANA BAYANNAbbCAYANNAbbDAYANNAbcDAYANNAbbGAYANNA",
   "bbJAYANNAbbKAYANNAbbPAYANNAbbTAYANNAbcTAYANNArYANNAqUURDHAJA LAYANNAzNAYANNAzSAYANNApOOYANNA",
   "qYANNApRAYANNApSANYAKA DAYANNAyDAYANNAxGAYANNAxJAYANNApTAALUJA NAASIKYAYAxSANYOOGA NAAKSIKYAYA",
   "zYANNApUUYANNAqYANNApVAYANNApYAYANNAjITH DIGIT EIGHTtFIVEuOURtNINEtONEtSEVENuIXtTHREEuWOtZERO",
   "iPUNCTUATION KUNDDALIYAiSIGN AL-LAKUNAoNUSVARAYAnCANDRABINDUnVISARGAYAiVOWEL SIGN AELA-PILLA",
   "tDIGA AEDA-PILLAyGAETTA-PILLAbaYANUKITTAyIS-PILLAyKOMBUVAyPAA-PILLAtGAETTA-PILLAvYANUKITTA",
   "tKETTI AEDA-PILLAzIS-PILLAzPAA-PILLAuOMBU DEKAyVAba HAA AELA-PILLAbfDIGA AELA-PILLA",
   "bfGAYANUKITTAcX PETALLED BLACK AND WHITE FLORETTEfOINTED BLACK STARmPINWHEEL STAR",
   "mSTAR WITH MIDDLE DOTd-PER-EM SPACEdTEEN POINTED ASTERISKbKATEBOARDcI AND SKI BOOTdERcULL",
   "f AND CROSSBONESdNKbLANTED EQUAL TO OR GREATER-THANbg WITH DOT INSIDEuLESS-THAN",
   "bd WITH DOT INSIDEiNORTH ARROW WITH HOOKED HEADbbRIZONTAL TAILdVONIC ASTERISKcED",
   "dEPING ACCOMMODATIONjFACEjSYMBOLfY FACEdUTH OR SPYcICE OF PIZZAdGHTLY FROWNING FACE",
   "jSMILING FACEcOPEeING LARGE ANDoORdT MACHINEeHbMALL AIRPLANEhMPERSANDhSTERISKgBLUE DIAMOND",
   "gCOLONiMMAkERCIAL ATiNTAINS AS MEMBERpWITH OVERBARuVERTICAL BAR AT END OF HORIZONTAL STROKE",
   "gDOLLAR SIGNgELEMENT OFq WITH OVERBARwVERTICAL BAR AT END OF HORIZONTAL STROKEhM DASH",
   "hQUALS SIGNhXCLAMATION MARKgFULL STOPgGREATER-THAN SIGNgHYPHEN-MINUSgIDEOGRAPHIC COMMA",
   "gLEFT CURLY BRACKETlPARENTHESISlTORTOISE SHELL BRACKETiSS-THAN SIGNgNUMBER SIGNgORANGE DIAMOND",
   "gPERCENT SIGNhLUS SIGNgQUESTION MARKgREVERSE SOLIDUShIGHT CURLY BRACKETmPARENTHESIS",
   "mTORTOISE SHELL BRACKEThOMAN NUMERAL EIGHTvLEVENuFIFTYwVEy HUNDREDvOURuNINEuONEx HUNDRED",
   "yTHOUSANDuSEVENvIXuTENvHREEvWELVEwOgSEMICOLONgTILDEhWO DOTS OVER ONE DOT PUNCTUATION",
   "gVEE WITH UNDERBARfER THANm OR EQUAL TOdSH PRODUCTcILEeING CAT FACE WITH HEART-SHAPED EYES",
   "wOPEN MOUTHiFACE WITH HALOtEART-SHAPED EYEStORNSsOPEN MOUTHbc AND COLD SWEATbhSMILING EYES",
   "bhTIGHTLY-CLOSED EYESsSMILING EYESbe AND HAND COVERING MOUTHbjTHREE HEARTStUNGLASSESsTEAR",
   "dRKING FACEcOKING SYMBOLbNAILdKEcEEZING FACEcOW CAPPED MOUNTAINeBOARDEReFLAKEeMAN",
   "h WITHOUT SNOWbOcCCER BALLdKScFT HYPHENfICE CREAMfSHELL FLOPPY DISKeBALLeWARE-FUNCTION SYMBOL",
   "cGDIAN COMBINING CURVE ABOVEyBELOWsDOT ABOVEwBELOWsHOOK ABOVExBELOWsLONG HOOK BELOWsRESH BELOW",
   "sSTROKE BELOWsTWO DOTS ABOVEbbBELOWiINDEPENDENT SHINiLETTER ALEPHqYINpBETHpFETHpGIMELpHErTH",
   "pKAPHpLAMEDHqESHpMEMpNUNpPEpRESH-AYINpSADHErMEKHqHINpTAWpWAWpYODHpZAYINiNUMBER ONEs HUNDRED",
   "pTENqWENTYiPUNCTUATION CIRCLE WITH DOTuHALF CIRCLE WITH DOTuTWO CIRCLES WITH DOTS",
   "yVERTICAL BARSbl WITH DOTScHcLID QUILT SQUARE ORNAMENTbb IN BLACK SQUAREfUSh WITH OVERBAR",
   "cM SIGNcON WITH RIGHTWARDS ARROW ABOVEcRA SOMPENG DIGIT EIGHTtFIVEuOURtNINEtONEtSEVENuIXtTHREE",
   "uWOtZEROnLETTER AHuBAHuCAHuDAHuEEHvHuGAHuHAHuIHuJAHuKAHuLAHuMAEwHuNAHvGAHvYAHuOHuPAHuRAHuSAH",
   "uTAHuUHuVAHuYAHcScUND RECORDING COPYRIGHTdTH EAST ARROWq AND SOUTH WEST ARROW",
   "rCROSSING NORTH EAST ARROWrTO CORNERrWITH HOOKlBLACK ARROWlDOUBLE ARROWlPOINTING BUDuLEAF",
   "uVINE LEAFlSANS-SERIF ARROWlTRIANGLE-HEADED ARROWbg TO BARlWHITE ARROWgWEST ARROW",
   "q AND NORTH WEST ARROWrWITH HOOKlBLACK ARROWlDOUBLE ARROWlPOINTING BUDuLEAFuVINE LEAF",
   "lSANS-SERIF ARROWlTRIANGLE-HEADED ARROWbg TO BARlWHITE ARROWcYOMBO CLUSTER-INITIAL LETTER LA",
   "bfRAbfSAbgHAiFINAL CONSONANT SIGN -AbdBbdDbdGbdKbdLbdMbdNbeGbdRbdSbeHiGEMINATION MARK",
   "iHEAD MARK WITH MOON AND SUNbj AND FLAMEboTRIPLE FLAMEiLETTER -ApApBAqHApCAqHApDAqDArHAqHAqZA",
   "pGAqHApHApJAqHApKAqHAqSSApLApMApNAqGAqNAqYApPAqHApRApSAqHAqSApTAqHAqSArHAqTArHApVApYApZAqHA",
   "iMARK DOUBLE SHADnPLUTAnSHADnTSHEGiSIGN ANUSVARAnJIHVAMULIYAnUPADHMANIYAnVISARGAjUBJOINER",
   "iTERMINAL MARK-1w2iVOWEL LENGTH MARKoSIGN AIuUtEtItOuEtUuEtVOCALIC LbbRbPcAdCEdGHETTIdRKLEhS",
   "gING HEARTcEAK-NO-EVIL MONKEYfERh WITH CANCELLATION STROKEnONE SOUND WAVEnTHREE SOUND WAVES",
   "fING HEAD IN SILHOUETTEdECH BALLOONeDBOATdSMILO SIGNcHERICAL ANGLEp OPENING LEFTyUPcIDERg WEB",
   "dRAL CALENDAR PADhNOTE PADhSHELLcLASHING SWEAT SYMBOLcONGEdOL OF THREADeNdRTS MEDAL",
   "dUTING WHALEbQUARE A OVER MiARUiMiNPEAiPAATOiRUHUAiUhBAARERUjRiEETAiIRUiORUTOiQiUSSYERU",
   "hC OVER KGiALjPiCiDiMj CUBEDkSQUAREDiOjRPORATIONiUPhDAjASUiBiESIiJiLiMj CUBEDkSQUAREDiORU",
   "hEEKAAiRA NAME HEISEIqMEIZIqREIWAqSYOUWAqTAISYOUjGiSUKUUDOiVhFMiOOTjUR CORNERShGALjNMAjRONiB",
   "iHZiIGAjNIIjRUDAAiPAiURAMUnTONiYhHAjITUiEKUTAARUjRUTUiGiIRAGANA HOKAiONjONkRUiPjAiUARADDOjIITO",
   "jRANiZhIMAGE OFp OR EQUAL TOtNOT EQUAL TOiNjINGUjTIiUhK OHMiAjIRIjRATTOkORIIiBiCALiEESUiGiHZ",
   "iIROlGURAMUlMEETORUlWATTOiKiLiMj CAPITALlUBEDkSQUAREDiOOPOjRUNAiPAiTiUROONEkUZEIROiViWiYURII",
   "hLEFT OPEN BOX OPERATORiMiNiOGjZENGEiXhM CUBEDjOHMkVER Sp SQUAREDjSQUAREDiAjHHAjIKUROkRUjNSYON",
   "jRUKUiBj SMALLiEETORUjGAlTONiGiHZiIKURONjLjRIlBAARUiLiMj CUBEDkSQUAREDiOLiPAiSiU AkFkGkLkMkSkV",
   "kWiVj MEGAiWj MEGAhNAjNOiFiMiOTTOiSiViWhONSUiOMUiRIGINAL OFs OR EQUAL TOwNOT EQUAL TOiVhPA",
   "j AMPSjASENTOkTUiCiEEZIjNIHIkSUjSOiFiHiIASUTORUjKOkURUiMiOINTOjNDOjSITION INDICATORiPMiRiSiViW",
   "hRADk OVER Sr SQUAREDiEMUjNTOGENiIGHT OPEN BOX OPERATORjRAjTTORUiOOTiUPIIjUBURUhSAIKURUjNTIIMU",
   "iENTIlOiIRINGUiRiVhTARGETiHZiONhUONhV OVER MhWATTOiBiITH BOTTOM HALF BLACKmCONTOURED OUTLINE",
   "mDIAGONAL CROSSHATCH FILLmHORIZONTAL FILLmLEFT HALF BLACKnOWER LEFT DIAGONAL HALF BLACK",
   "sRIGHT DIAGONAL HALF BLACKmORTHOGONAL CROSSHATCH FILLmRIGHT HALF BLACKmTOP HALF BLACK",
   "mUPPER LEFT DIAGONAL HALF BLACKxTO LOWER RIGHT FILLsRIGHT DIAGONAL HALF BLACK",
   "yTO LOWER LEFT FILLmVERTICAL FILLhYAADOkRUiUANgD ASTERISKiCJK UNIFIED IDEOGRAPH-4E00bh9bg2D",
   "bg8CbgA4be518Dbf21Dbg4Dbg72bf3CCbgF3bf408bg39bf5B6bf8F0bf91Abg29bfB57bfDE6bfF8Cbe624Bbg53bg95",
   "bf307bg55bf599bgB0bf620bf708bh9bfE80bfF14be7121bf51Fbg33bf981bfA7AbfD42be89E3bfCA9bfD70be904A",
   "bf14DjLjOOLiDOT OPERATORiEIGHT KiFALLING DIAGONAL SLASHjIVE POINT ONEjOUR DOT PUNCTUATIONnK",
   "jREEiHCjDRjI-RESjViIDiKATAKANA DErKOKOrSAjEYiLATIN CAPITAL LETTER AbdBbdCbdDbdEbdFbdGbdHbdIbdJ",
   "bdKbdLbdMbdNbdObdPbdQbdRbdSbdTbdUbdVbdWbdXbdYbdZoSMALL LETTER DjOGICAL ANDqORkSSLESSiMINUSjV",
   "iNEWjGiOKjNE HUNDRED TWENTY PiPLUSjPViRISING DIAGONAL SLASHiSALTIREjDjECOND SCREEN",
   "kVEN POINT ONEjHVjIXTY PjMALL CIRCLEjOSjQUAREjSiTHREE DjIMESjWENTY-TWO POINT TWOkO KiUHD",
   "jP WITH EXCLAMATION MARKiVODjSiWCeT BLACK RIGHTWARDS ARROWdIDbS2c3cAbTcADIUMdFF OF AESCULAPIUS",
   "jHERMESdMPED ENVELOPEdNDING PERSONdR AND CRESCENTfEQUALSfOF DAVIDgPERATORfWITH LEFT HALF BLACK",
   "kRIGHT HALF BLACKeT OF GUARDED AREAjHEADINGjPROTECTED AREAjSELECTED AREAkTRINGjTEXTdTION",
   "eUE OF LIBERTYcEAM LOCOMOTIVEfING BOWLdNOGRAPHIC FULL STOPdTHOSCOPEcICK FIGUREm LEANING LEFT",
   "vRIGHTnWITH ARMS RAISEDsDRESScOCK CHARTdPWATCHcRAIGHT RULERiNESSeWBERRY",
   "dESS OUTLINED WHITE STARdICTLY EQUIVALENT TOeNG TERMINATORcScUDIO MICROPHONEdFFED FLATBREADdPA",
   "cXbUBdSCRIPT EIGHTlQUALS SIGNkFIVElOURkLEFT PARENTHESISkMINUSkNINEkONEkPLUS SIGN",
   "kRIGHT PARENTHESISkSEVENlIXkTHREElWOkZEROeET ABOVE RIGHTWARDS ARROWnSUBSETpPERSEThOF",
   "j ABOVE ALMOST EQUAL TOqEQUALS SIGNqNOT EQUAL TOqTILDE OPERATORkOR EQUAL TOv WITH DOT ABOVE",
   "kWITH NOT EQUAL TOhWITH DOTmMULTIPLICATION SIGN BELOWmPLUS SIGN BELOWeTITUTEcCCEEDS",
   "i ABOVE ALMOST EQUAL TOpEQUALS SIGNpNOT ALMOST EQUAL TOtEQUAL TOpSINGLE-LINE EQUALS SIGN",
   "bbNOT EQUAL TOjBUT NOT EQUIVALENT TOjOR EQUAL TOpIVALENT TOjUNDER RELATIONcMMATION BOTTOMkTOP",
   "kWITH INTEGRALcNd BEHIND CLOUDeWITH FACEdDANESE AVAGRAHAkCONSONANT SIGN PAMINGKALbbNYAKRAbdIKU",
   "bbSANGAN MAbiWAkDIGIT EIGHTqFIVErOURqNINEqONEqSEVENrIXqTHREErWOqZEROkLETTER AsErBAsHArCArDArE",
   "sUrFAsINAL KxMrGArHArIrJArKAsHArLAsEUrMArNAsGAsYArOrPArQArRAsEUrSAsYArTArUrVArWArXArYArZA",
   "kPUNCTUATION BINDU BA SATANGAbcCAKRAbcDA SATANGAbcKA SATANGAbcLEU SATANGAbcPANGLONGbdURNAMA",
   "bcSURYAkSIGN PAMAAEHrNGLAYARtWISADsYECEKpVIRAMAkVOWEL SIGN PAMEPETxNAELAENGyEULEUNGyGHULU",
   "yOLONGyYUKUdFLOWERdRISEh OVER MOUNTAINSdSET OVER BUILDINGScPERHEROfSCRIPT EIGHTnQUALS SIGN",
   "mFIVEnOURmLATIN SMALL LETTER IbfNnEFT PARENTHESISmMINUSmNINEmONEmPLUS SIGNmRIGHT PARENTHESIS",
   "mSEVENnIXmTHREEnWOmZEROgET ABOVE LEFTWARDS ARROWpSUBSETrPERSETjBESIDE AND JOINED BY DASH WITH ",
   "SUBSETqSUBSETjOFl ABOVE ALMOST EQUAL TOsEQUALS SIGNsNOT EQUAL TOsTILDE OPERATORmOR EQUAL TO",
   "x WITH DOT ABOVEmWITH NOT EQUAL TOjPRECEDING SOLIDUSjWITH DOToMULTIPLICATION SIGN BELOW",
   "oPLUS SIGN BELOWfVILLAINcRFACE INTEGRALeERcSHIdPENSION RAILWAYbWANdSH AMPERSAND ORNAMENTcIMMER",
   "cUNG DASHbYLOTI NAGRI LETTER AuBHOvOuCHOvOuDDHOwOvHOvOuEuGHOvOuHOuIuJHOvOuKHOvOuLOuMOuNOuOuPHO",
   "vOuROvROuSOuTHOvOvTHOwOuUnPOETRY MARK-1z2z3z4nSIGN ALTERNATE HASANTAtNUSVARAsDVISVARAsHASANTA",
   "nVOWEL SIGN AyEyIyOOyUcMBOL FOR ACKNOWLEDGElBACKSPACEmELLlCANCELnRRIAGE RETURN",
   "lDATA LINK ESCAPEmELETEr FORM TWOnVICE CONTROL FOURbaONEbaTHREEbbWOlEND OF MEDIUMsTEXT",
   "tRANSMISSIONbe BLOCKnQUIRYmSCAPElFILE SEPARATORmORM FEEDlGROUP SEPARATORlHORIZONTAL TABULATION",
   "lLINE FEEDlMARKS CHAPTERlNEGATIVE ACKNOWLEDGEnWLINEmULLlRECORD SEPARATORlSAMARITAN SOURCE",
   "mHIFT INrOUTmPACEmTART OF HEADINGuTEXTmUBSTITUTEv FORM TWOmYNCHRONOUS IDLElTYPE A ELECTRONICS",
   "lUNIT SEPARATORlVERTICAL TABULATIONdMETRYcNdAGOGUEdCHRONOUS IDLEcRIAC ABBREVIATION MARK",
   "hBARREKHhCOLON SKEWED LEFTuRIGHTjNTRACTIONhDOTTED ZLAMA ANGULARuHORIZONTALhEND OF PARAGRAPH",
   "iSASA ABOVEnBELOWhFEMININE DOThHARKLEAN ASTERISCUSqMETOBELUSqOBELUSiBASA ABOVEnBELOW",
   "m-ESASA DOTTEDiORIZONTAL COLONhLETTER ALAPHoBETHoDALATHpOTLESS DALATH RISHoEoFINAL SEMKATH",
   "oGAMALt GARSHUNIoHEqTHoKAPHoLAMADHoMALAYALAM BHAyJAyLLAbaLAyNGAzNAbaNAzYAyRAySSAyTTApIMoNUNoPE",
   "qRSIAN BHETHwDHALATHwGHAMALoQAPHoREVERSED PEpISHoSADHEpEMKATHpHINpOGDIAN FEwKHAPHwZHAIN",
   "pUPERSCRIPT ALAPHoTAWpETHs GARSHUNIoWAWoYUDHs HEoZAINhMUSIChOBLIQUE LINE ABOVEuBELOW",
   "hPTHAHA ABOVEoBELOWoDOTTEDhQUSHSHAYAhRBASA ABOVEnBELOWiUKKAKHAiWAHAhSUBLINEAR COLON",
   "w SKEWED LEFTbeRIGHTrFULL STOPjPRALINEAR COLONy SKEWED LEFTtFULL STOPhTHREE DOTS ABOVEsBELOW",
   "iWO VERTICAL DOTS ABOVEzBELOWhZQAPHA ABOVEoBELOWoDOTTEDeNGEaT-REXcSHIRTbAB",
   "dLE TENNIS PADDLE AND BALLcCOcG AMPERSANDfPOSTROPHEfSTERISKeCIRCUMFLEX ACCENTfOLONgMMA",
   "iERCIAL ATeDIGIT EIGHTkFIVElOURkNINEkONEkSEVENlIXkTHREElWOkZEROfOLLAR SIGNeEQUALS SIGN",
   "fXCLAMATION MARKeFULL STOPeGRAVE ACCENTgEATER-THAN SIGNeHYPHEN-MINUSeLATIN CAPITAL LETTER AzB",
   "zCzDzEzFzGzHzIzJzKzLzMzNzOzPzQzRzSzTzUzVzWzXzYzZkSMALL LETTER AxBxCxDxExFxGxHxIxJxKxLxMxNxOxP",
   "xQxRxSxTxUxVxWxXxYxZfEFT CURLY BRACKETjPARENTHESISjSQUARE BRACKETgSS-THAN SIGNfOW LINE",
   "eNUMBER SIGNePERCENT SIGNfLUS SIGNeQUESTION MARKgOTATION MARKeREVERSE SOLIDUS",
   "fIGHT CURLY BRACKETkPARENTHESISkSQUARE BRACKETeSEMICOLONfOLIDUSfPACEeTILDEeVERTICAL LINE",
   "dALOG LETTER AqRCHAIC RApBApDApGApHApIpKApLApMApNAqGApPApRApSApTApUpWApYAiSIGN PAMUDPODnVIRAMA",
   "iVOWEL SIGN ItUdBANWA LETTER AqBAqDAqGAqIqKAqLAqMAqNArGAqPAqSAqTAqUqWAqYAjVOWEL SIGN IuU",
   "cI LE LETTER ApIpUEoEpEpHoFAoHAoIoKApHAoLAoMAoNApGAoOpOoPApHAoQAoSAoTApHApONE-2t3t4t5t6pSAqHA",
   "oUpEoVAoXAoYAeTHAM COMBINING CRYPTOGRAMMIC DOTlNSONANT SIGN BAyFINAL NGAyHIGH RATHA OR LOW PA",
   "yLA TANG LAIzOW PAyMAzEDIAL LAbfRAySAjHORA DIGIT EIGHTuFIVEvOURuNINEuONEuSEVENvIXuTHREEvWO",
   "uZEROjLETTER AqBAqDAqEEqGREAT SAqHIGH CAwHAvFAvHAvKAwHAwXAvPAwHAvRATHAvSAwHAwSAvTAwHAvYAqIrI",
   "qLAsErLArOW CAvHAuFAuHAuKAvHAvXAuPAvHAuRATHAuSAuTAvHAuYArUEqMAqNArGArYAqOOqRAsNAsTArUEqUrUqWA",
   "jSIGN CAANGoDOKMAIoHANGpOYoKAANsKUUpEOWpHUEN TONE-3z4z5t-LUE KARANoMAI KANGw LAIsSAMsYAMOK",
   "oRA HAAMpEVERSED ROTATED RANAoSAKOTqTKAANvKUUqWANoTONE-1t2oWIANGtWAAKjTHAM DIGIT EIGHTuFIVE",
   "vOURuNINEuONEuSEVENvIXuTHREEvWOuZEROjVOWEL SIGN AvAvEvIuEuIvIuMAI SATuOvA ABOVExBELOWvOvY",
   "uTALL AAvHAM AIuUvEvUwEeVIET LETTER HIGH BOvCHOwOvDOvFOvGOvHOvKHHOxOwOvLOvMOvNGOwOwYOvOvPHOwO",
   "vROvSOvTHOwOvVOvYOqLOW BOuCHOvOuDOuFOuGOuHOuKHHOwOvOuLOuMOuNGOvOvYOuOuPHOvOuROuSOuTHOvOuVOuYO",
   "jMAI KANGoHITjSYMBOL HO HOIqKOI KOIsNqNUENGqSAMjTONE MAI EKsNUENGsSONGsTHOjVOWEL AAqMqNqUEqYpE",
   "pIqApOpUqAqErAcKEOUT BOXdRI ABBREVIATION SIGNgDIGIT EIGHTmFIVEnOURmNINEmONEmSEVENnIXmTHREEnWO",
   "mZEROgLETTER AoAoIoRCHAIC KHAoUnBAoHAnCAoHAnDAoDApHAoHAnEnGAoHAnHAnIoInJAoHAnKAoHAnLAnMAnNAoGA",
   "oNAoYAnOnPAoHAnRAoRAnSAoHAnTAoHAoTApHAnUoUnVAnYAgSIGN ANUSVARAlNUKTAlVIRAMAnSARGA",
   "gVOWEL SIGN AAsIsUrErIsIrOrUsUcLLY MARK FIVElONEcMALEdIL AND ODD SIGNhS ABOVE SIGN",
   "hU LENGTH MARKgCREDIT SIGNhURRENT SIGNgDAY SIGNhEBIT SIGNhIGIT EIGHTmFIVEnOURmNINEmONEmSEVEN",
   "nIXmTHREEnWOmZEROhRY CULTIVATION SIGNgFRACTION DOWNSCALING FACTOR KIIZHpONE EIGHTHyIETHtFIFTH",
   "uORTIETHtHALF-1y2tONE-HUNDRED-AND-SIXTIETHtQUARTERtSIXTEENTH-1bd2xY-FOURTHtTENTHuHIRTY-SECOND",
   "vREE-HUNDRED-AND-TWENTIETHuWENTIETHpTHREE EIGHTIETHSvQUARTERSvSIXTEENTHSzY-FOURTHSvTWENTIETHS",
   "gIN POSSESSION SIGNgLAND SIGNhETTER AoAoIoUnCAnEoEnHAnIoInJAnKAnLAoLApLAnMAnNAoGAoNApNAoYAnOoO",
   "nPAnRAoRAnSAoHAoSAnTAoTAnUoUnVAnYAgMONTH SIGNgNUMBER ONE HUNDREDrTHOUSANDnSIGNnTENgOM",
   "gPUNCTUATION END OF TEXTgRUPEE SIGNgSALT PAN SIGNhIGN AAZHAAKKUmNUSVARAlCEVITUlKAACUmURUNInZHI",
   "lMUKKURUNInTHALIYAnUVUZHAKKUlNELlPAARAMnNAMnTHAKKUmONlUZHAKKUlVAKAIYARAAnRAAKANmELImIRAMA",
   "nSARGAhPENT SIGNhTARTING FROM SIGNgTOTAL SIGNhRADITIONAL CREDIT SIGNsNUMBER SIGNgVOWEL SIGN AA",
   "sIsUrEsErIsIrOsOrUsUgWET CULTIVATION SIGNgYEAR SIGNcNABATA TREEdGERINEeSA DIGIT EIGHTnFIVEoOUR",
   "nNINEnONEnSEVENoIXnTHREEoWOnZEROhLETTER ACpQpWCqQqXqZpXpZoBAoCApHAoDApHAoECpQpXpZoFApINAL NG",
   "oGApHAoHApTAqTAoICpQpXpZoKApHAoLApONG UEXoMApCpQpXpZoNApGApHApYAoOCpQpXpZoPApHAoRAoSApHA",
   "qORT AWXuUEZoTApHApSAoUCpECqQqXqZpICqQqUCrQrXrZqXqZpQpXpZoVCpQpXpZoWAoXAoYAoZA",
   "eUT COMPONENT-001t2t3t4t5t6t7t8t9s10t1t2t3t4t5t6t7t8t9s20t1t2t3t4t5t6t7t8t9s30t1t2t3t4t5t6t7t8",
   "t9s40t1t2t3t4t5t6t7t8t9s50t1t2t3t4t5t6t7t8t9s60t1t2t3t4t5t6t7t8t9s70t1t2t3t4t5t6t7t8t9s80t1t2",
   "t3t4t5t6t7t8t9s90t1t2t3t4t5t6t7t8t9r100t1t2t3t4t5t6t7t8t9s10t1t2t3t4t5t6t7t8t9s20t1t2t3t4t5t6",
   "t7t8t9s30t1t2t3t4t5t6t7t8t9s40t1t2t3t4t5t6t7t8t9s50t1t2t3t4t5t6t7t8t9s60t1t2t3t4t5t6t7t8t9s70",
   "t1t2t3t4t5t6t7t8t9s80t1t2t3t4t5t6t7t8t9s90t1t2t3t4t5t6t7t8t9r200t1t2t3t4t5t6t7t8t9s10t1t2t3t4",
   "t5t6t7t8t9s20t1t2t3t4t5t6t7t8t9s30t1t2t3t4t5t6t7t8t9s40t1t2t3t4t5t6t7t8t9s50t1t2t3t4t5t6t7t8t9",
   "s60t1t2t3t4t5t6t7t8t9s70t1t2t3t4t5t6t7t8t9s80t1t2t3t4t5t6t7t8t9s90t1t2t3t4t5t6t7t8t9r300t1t2t3",
   "t4t5t6t7t8t9s10t1t2t3t4t5t6t7t8t9s20t1t2t3t4t5t6t7t8t9s30t1t2t3t4t5t6t7t8t9s40t1t2t3t4t5t6t7t8",
   "t9s50t1t2t3t4t5t6t7t8t9s60t1t2t3t4t5t6t7t8t9s70t1t2t3t4t5t6t7t8t9s80t1t2t3t4t5t6t7t8t9s90t1t2",
   "t3t4t5t6t7t8t9r400t1t2t3t4t5t6t7t8t9s10t1t2t3t4t5t6t7t8t9s20t1t2t3t4t5t6t7t8t9s30t1t2t3t4t5t6",
   "t7t8t9s40t1t2t3t4t5t6t7t8t9s50t1t2t3t4t5t6t7t8t9s60t1t2t3t4t5t6t7t8t9s70t1t2t3t4t5t6t7t8t9s80",
   "t1t2t3t4t5t6t7t8t9s90t1t2t3t4t5t6t7t8t9r500t1t2t3t4t5t6t7t8t9s10t1t2t3t4t5t6t7t8t9s20t1t2t3t4",
   "t5t6t7t8t9s30t1t2t3t4t5t6t7t8t9s40t1t2t3t4t5t6t7t8t9s50t1t2t3t4t5t6t7t8t9s60t1t2t3t4t5t6t7t8t9",
   "s70t1t2t3t4t5t6t7t8t9s80t1t2t3t4t5t6t7t8t9s90t1t2t3t4t5t6t7t8t9r600t1t2t3t4t5t6t7t8t9s10t1t2t3",
   "t4t5t6t7t8t9s20t1t2t3t4t5t6t7t8t9s30t1t2t3t4t5t6t7t8t9s40t1t2t3t4t5t6t7t8t9s50t1t2t3t4t5t6t7t8",
   "t9s60t1t2t3t4t5t6t7t8t9s70t1t2t3t4t5t6t7t8t9s80t1t2t3t4t5t6t7t8t9s90t1t2t3t4t5t6t7t8t9r700t1t2",
   "t3t4t5t6t7t8t9s10t1t2t3t4t5t6t7t8t9s20t1t2t3t4t5t6t7t8t9s30t1t2t3t4t5t6t7t8t9s40t1t2t3t4t5t6t7",
   "t8t9s50t1t2t3t4t5t6t7t8t9s60t1t2t3t4t5t6t7t8hITERATION MARKcPE CARTRIDGEfDRIVEcURUScXI",
   "bEACUP WITHOUT HANDLEdPOTdR-OFF CALENDAReDROP-BARBED RIGHTWARDS ARROWjSPOKED ASTERISKcDDY BEAR",
   "cLEPHONE LOCATION SIGNkON TOP OF MODEMkRECEIVERs WITH PAGEnORDERkSIGNeSCOPEeVISION",
   "dUGU AI LENGTH MARKhDIGIT EIGHTnFIVEoOURnNINEnONEnSEVENoIXnTHREEoWOnZERO",
   "hFRACTION DIGIT ONE FOR EVEN POWERS OF FOURbeODD POWERS OF FOURwTHREE FOR EVEN POWERS OF FOUR",
   "bgODD POWERS OF FOURxWO FOR EVEN POWERS OF FOURbeODD POWERS OF FOURwZERO FOR ODD POWERS OF FOU",
   "RhLENGTH MARKjTTER ApApIpUoBApHAoCApHAoDApDAqHApHApZAoEpEoGApHAoHAoIpIoJApHAoKApHAoLApLAqLAoMA",
   "oNAqKAARA POLLUpGApNApYAoOpOoPApHAoRApRAqRAoSApHApSAoTApHApSApTAqHAoUpUoVApOCALIC LxLwRxRoYA",
   "hSIGN ANUSVARAnVAGRAHAmCANDRABINDUnOMBINING ANUSVARA ABOVEwCANDRABINDU ABOVEmNUKTAmSIDDHAM",
   "mTUUMUmVIRAMAoSARGAhVOWEL SIGN AAtItUsEtEsItIsOtOsUtUsVOCALIC LbbLbaRbbRcNGE SIGN",
   "dNIS RACQUET AND BALLdTcST TUBEcTRAGRAM FOR ACCUMULATIONpDVANCEpGGRAVATIONpSCENToBARRIER",
   "pOLD RESOLUTIONpRANCHING OUToCENTREpHANGEpLOSED MOUTHtNESSsUREpOMPLETIONtIANCEqNSTANCYrTACT",
   "sENTIONsRARIETYoDARKENINGpECISIVENESSqFECTIVENESS OR DISTORTIONqPARTUREpIFFICULTIESqMINISHMENT",
   "rMINGqVERGENCEpOUBTpUTIESoEASEpMBELLISHMENTpNCOUNTERSqDEAVOURqLARGEMENTpTERNITYpXHAUSTION",
   "oFAILUREpLIGHTpOLLOWINGqSTERINGpULL CIRCLEsNESSoGATHERINGx INpOING TO MEETpREATNESSpUARDEDNESS",
   "oHARDNESSpOLDING BACKoINCREASEqNERoJOYoKEEPING SMALLpINSHIPoLABOURINGqW OR MODELpEGIONoMASSING",
   "pEASUREpIREDoON THE VERGEpPPOSITIONoPACKINGqTTERNpENETRATIONpURITYoREACHqLEASEqSIDENCEsSTANCE",
   "rPONSEpITUALoSEVERANCEpINKINGpTOPPAGErVEqRENGTHoUNITYoVASTNESS OR WASTINGoWAITINGqTCH",
   "oYOUTHFULNESSbHAANA AABAAFILIiBAFILIhEBEFILIiEBEEFILIiYBEYFILIhIBIFILIhLETTER AINUpLIFUoBAA",
   "oCHAVIYANIoDAADHUqVIYANIpHAALUoFAAFUoGAAFUpHAINUpNAVIYANIoHAApHAAoJAVIYANIoKAAFUpHAAoLAAMU",
   "pHAVIYANIoMEEMUoNAApOONUoPAVIYANIoQAAFUoRAAoSAADHUpEENUpHAVIYANIqEENUoTAVIYANIpHAAsLUpOpTAA",
   "oVAAVUoWAAVUoYAAoZAAqVIYANIpOhOABOAFILIiBOFILIiOBOOFILIhSUKUNhUBUFILIdI CHARACTER ANGKHANKHU",
   "pBO BAIMAIpCHO CHANxGvINGvOEpDO CHADAsDEKpFO FAuNrNGMANpHO HIPsNOKHUKpKHO KHAIvONvUATvWAI",
   "tRAKHANGsMUTqO KAIpLAKKHANGYAOqO CHULAsLINGqUpMAI CHATTAWAtEKtHAN-AKATtTHOuRIsTAIKHUsYAMOK",
   "qO MApNGO NGUqIKHAHITqO NENtUpO ANGpPAIYANNOIqHINTHUrO PHANvUNGtSAMPHAOqO PLApRO RUAqUpSARA A",
   "vAvEvI MAIMALAIbbUANvMuEuIvIuOuUvEwEvUqO RUSIsSALAtOtUApTHANTHAKHATrO NANGMONTHOtPHUTHAO",
   "tTHAHANwNvONGvUNGqO PATAKsTAOpWO WAENpYAMAKKANqO YAKtINGgURRENCY SYMBOL BAHTfDIGIT EIGHTlFIVE",
   "mOURlNINElONElSEVENmIXlTHREEmWOlZEROcERE DOES NOT EXISTgEXISTSfFOREeMODYNAMICgMETER",
   "cIN GREEK CROSSfSALTIREgPACEeKING FACEdRD PLACE MEDALcONG SANDALdUGHT BALLOONcREE BUTTON MOUSE",
   "gCONSECUTIVE EQUALS SIGNSgDIMENSIONAL ANGLEhOT PUNCTUATIONgLEFTWARDS ARROWS",
   "hINES CONVERGING LEFTxRIGHTgNETWORKED COMPUTERSgPOINTED BLACK STARgRAYS ABOVElBELOWlLEFTlRIGHT",
   "hIGHTWARDS ARROWSgSPEECH BUBBLESf-D BOTTOM-LIGHTED RIGHTWARDS ARROWHEAD",
   "iLEFT-LIGHTED DOWNWARDS EQUILATERAL ARROWHEADiRIGHT-LIGHTED UPWARDS EQUILATERAL ARROWHEAD",
   "iTOP-LIGHTED LEFTWARDS EQUILATERAL ARROWHEADuRIGHTWARDS ARROWHEADbfEQUILATERAL ARROWHEAD",
   "gEM DASHgPER-EM SPACEcUMBS DOWN SIGNhUP SIGNdNDER CLOUD AND RAINhSTORMbIBETAN ASTROLOGICAL SIG",
   "N -KHYUD PAbaSDONG TSHUGSbbGRA GCAN -CHAR RTAGSiCANTILLATION SIGN CANG TE-UbaHEAVY BEAT",
   "baLIGHT BEATbaSBUB -CHALiDIGIT EIGHToFIVEpOURoHALF EIGHTtFIVEuOURtNINEtONEtSEVENuIXtTHREEuWO",
   "tZEROoNINEoONEoSEVENpIXoTHREEpWOoZEROiKU RU KHAr BZHI MIG CANiLETTER -ApApBAqHApCAqHApDAqDArHA",
   "qHAqZArHApFIXED-FORM RApGAqHApHApJApKAqHAqKAqSSApLApMApNAqGAqNAqYApPAqHApRAqRApSAqHAqSApTAqHA",
   "qSArHAqTArHApWApYApZAqHAjOGOTYPE SIGN CHAD RTAGSwLHAG RTAGSiMARK ANG KHANG GYASzON",
   "nBKA- SHOG GI MGO RGYANxYIG MGOoSDUS RTAGSpKA- SHOG GI MGO RGYANqUR YIG MGO",
   "nCARET -DZUD RTAGS BZHI MIG CANbfME LONG CANtYIG MGO PHUR SHAD MAoHE MGO",
   "oLOSING BRDA RNYING YIG MGO SGAB MAvYIG MGO SGAB MAnDELIMITER TSHEG BSTARnGTER TSHEG",
   "sYIG MGO -UM GTER TSHEG MAbeRNAM BCAD MAbaTRUNCATED AoUG RTAGS GYASzONnHALANTA",
   "nINITIAL BRDA RNYING YIG MGO MDUN MAvYIG MGO MDUN MApTERSYLLABIC TSHEGnLEADING MCHAN RTAGS",
   "nMNYAM YIG GI MGO RGYANnNGAS BZUNG NYI ZLAySGOR RTAGSoYIS SHADsTSHEGx SHADnPALUTA",
   "nRGYA GRAM SHADoIN CHEN SPUNGS SHADnSBRUL SHADoHADnTRAILING MCHAN RTAGSoSA -PHRUpHEG SHAD",
   "nYIG MGO TSHEG SHAD MAiSIGN GRU CAN RGYINGSrMED RGYINGSnINVERTED MCHU CANnLCE TSA CANpI RTAGS",
   "nMAR TSHESoCHU CANnNYI ZLA NAA DAnRDEL DKAR GCIGyNYISySUMxRDEL NAGsNAG GCIGxNYISxSUMwRDEL DKAR",
   "oJES SU NGA ROoNAM BCADnSNA LDANnYANG RTAGSpR TSHESjUBJOINED LETTER -AzAzBAbaHAzCAbaHAzDAbaDA",
   "bbHAbaHAbaZAbbHAzFIXED-FORM RAbkWAbkYAzGAbaHAzHAzJAzKAbaHAbaSSAzLAzMAzNAbaGAbaNAbaYAzPAbaHAzRA",
   "zSAbaHAbaSAzTAbaHAbaSAbbHAbaTAbbHAzWAzYAzZAbaHAsSIGN INVERTED MCHU CANxLCE TSA CANxMCHU CAN",
   "jYLLABLE OMkMBOL DRIL BUpNOR BUv BZHI -KHYILwGSUM -KHYILwNYIS -KHYILpPADMA GDANqHUR PApRDO RJE",
   "w RGYA GRAMiVOWEL SIGN AAtEuEtIuItOuOtREVERSED IbdItUuUtVOCALIC LbcLbbRbcRcCKET",
   "cE OVER INFINITYcFINAGH CONSONANT JOINERjLETTER AHAGGAR YAZHrYER YAGHqBERBER ACADEMY YAHbhJ",
   "qTAWELLEMET YAZrUAREG YAGHbaNzHzKbaHzNGzQzZHqYAsAsBtHsCHsDtDuHtHsFsGtHuHsHtHsJsKtHuHsLsMsNsPsQ",
   "sRtRsStHtSsTtHtTsVsWsYsZtHtZrEsYrIrOrUjMODIFIER LETTER LABIALIZATION MARKjSEPARATOR MARKcGER",
   "f FACEdHT TRIFOLIATE SNOWFLAKEcLDEf OPERATORo ABOVE LEFTWARDS ARROWvRIGHTWARDS ARROW",
   "pWITH DOT ABOVEuRISING DOTSgWITH DOT ABOVEpBELOWlRING ABOVEcMER CLOCKeS WITH LEFT HALF BLACK",
   "lRIGHT HALF BLACKcNYe TWO DOTS OVER ONE DOT PUNCTUATIONcRED FACEdHUTA ABBREVIATION SIGNjNJI",
   "iDIGIT EIGHToFIVEpOURoNINEoONEoSEVENpIXoTHREEpWOoZEROiGVANGiLETTER AqAqIqUpBAqHApCAqHApDAqDA",
   "rHAqHApEpGAqHApHApIqIpJAqHApKAqHApLApMApNAqGAqNAqYApOpPAqHApRApSAqHAqSApTAqHAqTArHApUqUpVA",
   "qOCALIC LyLxRyRpYAiOMiSIGN ANUSVARAoVAGRAHAnCANDRABINDUnNUKTAnVIRAMApSARGAiVOWEL SIGN AAuIuUtE",
   "tIuItOtSHORT EzOtUuUtVOCALIC LbcLbbRbcRdONIAN SIGN CAPITAL EToETbOILETcKYO TOWERcMATOcNGUE",
   "cOLBOXdTHfBRUSHcP ARC ANTICLOCKWISE ARROWbb WITH PLUSiCLOCKWISE ARROW WITH MINUSeCURLY BRACKET",
   "eHALF BLACK CIRCLEjINTEGRALjLEFT PARENTHESISjRIGHT PARENTHESISjSECTION SIGNgTeLEFT CORNERkROP",
   "jHALF BRACKETePARENTHESISeRIGHT CORNERlROPkHALF BRACKETeSQUARE BRACKETeTORTOISE SHELL BRACKET",
   "eWITH UPWARDS ARROW ABOVEcRTOISE SHELL BRACKETED CJK UNIFIED IDEOGRAPH-4E09bx8Cbv52DDbwB89",
   "bv6253bw557bw72Cbv70B9bw6D7zLATIN CAPITAL LETTER ScTAL RUNOUTdO LETTER AnEmBAnREATHY AEuEvOuI",
   "vUmCHAmDAmEnOmGAmHAmInUmJAmKAmLAmMAmNAnGAmOmPAmRAmSAmTAmUmWAmYAfSIGN RISING TONEbRACKBALLeTOR",
   "dDE MARK SIGNdINdMe CARdNSPLUTOfVERSAL INTERSECTIONcIANGLE WITH DOT ABOVEoROUNDED CORNERS",
   "oSERIFS AT BOTTOMoUNDERBARi-HEADED RIGHTWARDS ARROWgULAR BULLETlFLAG ON POSTlRULERdCOLON",
   "dDENT EMBLEMdGRAM FOR EARTHmFIREmHEAVENmLAKEmMOUNTAINmTHUNDERmWATERnINDdPLE COLON OPERATOR",
   "hDAGGERhHORIZONTAL BAR WITH DOUBLE VERTICAL STROKEbbTRIPLE VERTICAL STROKEhINTEGRAL",
   "hNESTED GREATER-THANoLESS-THANhPLUSiRIMEhSOLIDUS BINARY RELATIONhTILDEhVERTICAL BAR BINARY REL",
   "ATIONuDELIMITERuRIGHT TURNSTILEuWITH HORIZONTAL STROKEcOLLfEYBUSdPHYeICAL DRINKjFISHcUE",
   "e LIGHT MOON ARTAdMPETbUGRIK SIGNcLIPcMBLER GLASScRKEYeISH LIRA SIGNdNED AMPERSANDiNGLE",
   "hBLACK PENTAGONnSHOGI PIECEhCAPITAL FiOMMAhDAGGERiIGIT THREEoWOhGREEK SMALL LETTER IOTA",
   "hNORTH EAST POINTING LEAFnWEST POINTING LEAFjT SIGNhOK HAND SIGNhSANS-SERIF CAPITAL GbaLbaY",
   "iEMICOLONiMALL FiOUTH EAST POINTING LEAFnWEST POINTING LEAFhWHITE SHOGI PIECEdTLE",
   "bWELVE POINTED BLACK STARcISTED RIGHTWARDS ARROWScO ASTERISKS ALIGNED VERTICALLYeBUTTON MOUSE",
   "eCONSECUTIVE EQUALS SIGNSeDOT LEADERiPUNCTUATIONhS OVER ONE DOT PUNCTUATIONeHEARTS",
   "eINTERSECTING LOGICAL ANDzOReJOINED SQUARESeLOGICAL AND OPERATORmOR OPERATOReMEN HOLDING HANDS",
   "eSPEECH BUBBLESeWOMEN HOLDING HANDSd-EM DASHaUGARITIC LETTER AINrLPAqBETAqDELTArHALqGAMLArHAIN",
   "qHOsTAqIqKAFrHAqLAMDAqMEMqNUNqPUqQOPAqRASHAqSADEsMKArHINrSUqTETrHANNArOqUqWOqYODqZETArU",
   "jWORD DIVIDERbMBRELLAi ON GROUNDjWITH RAIN DROPSbNAMUSED FACEcCERTAINTY SIGNcDERTIEdO SYMBOL",
   "cICORN FACEdONf ABOVE BAR ABOVE INTERSECTIONmINTERSECTIONgBESIDE AND JOINED WITH UNION",
   "gWITH LOGICAL ORlMINUS SIGNlOVERBARdT SEPARATOReED SYMBOLdVERSAL RECYCLING SYMBOL",
   "cMARRIED PARTNERSHIP SYMBOLbP ARROW THROUGH CIRCLEiHEADm BETWEEN TWO HORIZONTAL BARS",
   "nIN A RECTANGLE BOXdBARB LEFT DOWN BARB LEFT HARPOONxRIGHT HARPOONiRIGHT DOWN BARB LEFT HARPOO",
   "NyRIGHT HARPOONdDOWN ARROWn WITH BASEiBLACK ARROWiDOUBLE ARROWiSANS-SERIF ARROW",
   "iTRIANGLE-HEADED ARROWiWHITE ARROWdFISH TAILdRIGHT DIAGONAL ELLIPSISdTACKh WITH CIRCLE ABOVE",
   "c-POINTING AIRPLANEmMILITARY AIRPLANEmRED TRIANGLEmSMALL AIRPLANEsRED TRIANGLE",
   "mTRIANGLE WITH LEFT HALF BLACKbaRIGHT HALF BLACKcPER AND LEFT AND LOWER TRIANGULAR THREE QUART",
   "ERS BLOCKlOWER ONE EIGHTH BLOCKqTRIANGULAR HALF BLOCKkRIGHT AND LOWER TRIANGULAR THREE QUARTER",
   "S BLOCKgBLADE SCISSORSgFIVE EIGHTHS BLOCKgHALF BLOCKq AND LOWER HALF INVERSE MEDIUM SHADE",
   "lCIRCLElINVERSE MEDIUM SHADE AND LOWER HALF BLOCKtWHITE CIRCLElMEDIUM SHADE",
   "gLEFT BLOCK DIAGONAL LOWER CENTRE TO LOWER MIDDLE RIGHTbqUPPER MIDDLE RIGHTbwRIGHT",
   "bgLEFT TO LOWER MIDDLE RIGHTboUPPER CENTREbuMIDDLE RIGHTbgMIDDLE LEFT TO UPPER CENTRE",
   "cbMIDDLE RIGHTcbRIGHTbaUPPER MIDDLE LEFT TO UPPER CENTREcbRIGHTlCORNER WITH DOT",
   "lOR LOWER RIGHT CURLY BRACKET SECTIONlQUADRANT CIRCULAR ARClTO LOWER RIGHT FILLmRIANGLE",
   "rULAR MEDIUM SHADEgONE EIGHTH BLOCKkQUARTER BLOCKgRIGHT BLOCK DIAGONAL LOWER MIDDLE LEFT TO LO",
   "WER CENTREccRIGHTbbUPPER CENTRE TO LOWER MIDDLE RIGHTbxRIGHTbrUPPER MIDDLE RIGHT",
   "bhLEFT TO LOWER CENTREbvMIDDLE RIGHTbpUPPER MIDDLE RIGHTbhMIDDLE LEFT TO LOWER CENTRE",
   "ccMIDDLE RIGHTccRIGHTmDROP-SHADOWED WHITE SQUAREmOR LOWER LEFT CURLY BRACKET SECTIONmPENCIL",
   "mQUADRANT CIRCULAR ARCmSHADOWED WHITE CIRCLEbbSQUAREmTO LOWER LEFT FILLnRIANGLE",
   "sULAR MEDIUM SHADEgSEVEN EIGHTHS BLOCKgTHREE EIGHTHS BLOCKmQUARTERS BLOCK",
   "hRIANGULAR ONE QUARTER BLOCKcSIDE-DOWN FACEcWARDS ANCORAjRROWn AND RIGHT ONE EIGHTH BLOCK",
   "oFROM BARoLEFTWARDS OF DOWNWARDS ARROWoTO BARoWITH DOUBLE STROKEtEQUILATERAL ARROWHEAD",
   "tHORIZONTAL STROKEtLARGE TRIANGLE ARROWHEADtMEDIUM TRIANGLE ARROWHEADtNOTCHED TAIL",
   "tSMALL EQUILATERAL ARROWHEADzTRIANGLE ARROWHEADtTIP LEFTWARDSxRIGHTWARDSiBLACK ARROW",
   "oCIRCLED WHITE ARROWiCOMPRESSED ARROWiDASHED ARROWjOUBLE ARROWiFINGER-POST ARROW",
   "iHARPOON WITH BARB LEFT BESIDE DOWNWARDS HARPOON WITH BARB RIGHTbmUPWARDS HARPOON WITH BARB RI",
   "GHTbfFROM BARbfTO BARbeWARDSbaRIGHT FROM BARbgTO BARbfWARDSjEAVY ARROWoCOMPRESSED ARROW",
   "iPAIRED ARROWSiQUADRUPLE ARROWiROCKETiSANS-SERIF ARROWjQUARED ARROWiTRIANGLE ARROWHEAD",
   "q-HEADED ARROWbd LEFTWARDS OF DOWNWARDS TRIANGLE-HEADED ARROWbeTO BARbeWITH BOLD SHAFT",
   "bjDOUBLE HORIZONTAL STROKEbjHEAVY SHAFTbjLONG TIP LEFTWARDSbsRIGHTWARDSbjMEDIUM SHAFT",
   "bjNARROW SHAFTbjVERY HEAVY SHAFTyDASHED ARROWyPAIRED ARROWSlPLE ARROWjWO HEADED ARROW",
   "l-HEADED ARROW FROM SMALL CIRCLEzWITH TRIANGLE ARROWHEADSiWHITE ARROWt FROM BAR",
   "bc WITH HORIZONTAL BARuON PEDESTALbf WITH HORIZONTAL BARblVERTICAL BARuWITHIN TRIANGLE ARROWHE",
   "ADoDOUBLE ARROWba ON PEDESTALbRANUSbSaVAI COMMAeDIGIT EIGHTkFIVElOURkNINEkONEkSEVENlIXkTHREE",
   "lWOkZEROeFULL STOPeQUESTION MARKeSYLLABLE AoNnBAoEpEoHApEqEpIpOqOpUoIoOpOoUnCAoEpEoIoOpOoUnDA",
   "oEpEoHApEqEpHAqErEqIqOrOqUpIpOqOpUoIoOpOoUnEoEpNoNnFAoEpEoIoOpOoUnGAoBApEqEqNpIpOqNqOpUoEpEpN",
   "oIoOpOoUnHApNoEpEpNoIpNoOpNpOoUpNnIoNnJAoEpEoIoOpOoUnKApNoEpEoIoOpOoPAqNpEqEqNpIpOqOpUoUnLAoE",
   "pEpNGTHENERoIoOpOoUnMAoBApEqEpIpOqOpUoEpEoGBAqErEqIqOrOqUoIoOpOoUnNAoDApEqEpIpOqLE DOtFAtKAtMA",
   "tSOOqOpUoEpEoGpANpENpGAqErErNqIqOrOqUpONoIoJApEqEpIpOqOpUoOpOoUoYApEqEpIpOqOpUnOoNoOpNnPAoEpE",
   "oIoOpOoUnRAoEpEoIoOpOoUnSAoEpEoHApEqEpIpOqOpUoIoOpOoUnTAoEpEoHApEqEpIpOqOpUoIoOpOoUnUoNnVAoEpE",
   "oIoOpOoUnWApNoEpEqNpNoIpNoOpNpOqNoUpNnYAoEpEoIoOpOoUnZAoEpEoHApEqEpIpOqOpUoIoOpOoUgMBOL BANG",
   "lDANGmO-OnONGlFAAmEENGlJONGlKEENGmUNGlNIIlTAAmINGmONGcMPIREcRIATION SELECTOR-1u0v0v1v2v3v4v5v6",
   "v7v8v9u1v0v1v2v3v4v5v6v7v8v9u2v0v1v2v3v4v5v6v7v8v9u3v0v1v2v3v4v5v6v7v8v9u4v0v1v2v3v4v5v6v7v8v9",
   "u5v0v1v2v3v4v5v6v7v8v9u6v0v1v2v3v4v5v6v7v8v9u7v0v1v2v3v4v5v6v7v8v9u8v0v1v2v3v4v5v6v7v8v9u9v0v1",
   "v2v3v4v5v6v7v8v9t2u0v0v1v2v3v4v5v6v7v8v9u1v0v1v2v3v4v5v6v7v8v9u2v0v1v2v3v4v5v6v7v8v9u3v0v1v2v3",
   "v4v5v6v7v8v9u4v0v1v2v3v4v5v6v7v8v9u5v0v1v2v3v4v5v6u6u7u8u9t3u0u1u2u3u4u5u6u7u8u9t4u0u1u2u3u4u5",
   "u6u7u8u9t5u0u1u2u3u4u5u6u7u8u9t6u0u1u2u3u4u5u6u7u8u9t7u0u1u2u3u4u5u6u7u8u9t8u0u1u2u3u4u5u6u7u8",
   "u9t9u0u1u2u3u4u5u6u7u8u9bECTOR OR CROSS PRODUCTcDIC SIGN ANUSVARA ANTARGOMUKHAuBAHIRGOMUKHA",
   "uUBHAYATO MUKHAuVAMAGOMUKHAbf WITH TAILmRDHAVISARGAmTIKRAMAlDOUBLE ANUSVARA ANTARGOMUKHA",
   "lHEXIFORM LONG ANUSVARAlJIHVAMULIYAlLONG ANUSVARAlNIHSHVASAlREVERSED VISARGA ANUDATTAbcUDATTA",
   "mOTATED ARDHAVISARGAmTHANG LONG ANUSVARAlTIRYAKlUPADHMANIYAlVISARGA ANUDATTAbb WITH TAIL",
   "tSVARITAtUDATTAz WITH TAILlYAJURVEDIC MIDLINE SVARITAgTONE ATHARVAVEDIC INDEPENDENT SVARITA",
   "lCANDRA ABOVEsBELOWlDOT BELOWnUBLE RING ABOVEsSVARITAlKARSHANAnTHAKA ANUDATTAlPRENKHA",
   "lRIGVEDIC KASHMIRI INDEPENDENT SVARITAnNG ABOVElSHARAlTHREE DOTS BELOWmRIPLE SVARITA",
   "mWO DOTS BELOWlYAJURVEDIC AGGRAVATED INDEPENDENT SVARITAwINDEPENDENT SVARITA",
   "wKATHAKA INDEPENDENT SVARITAbx SCHROEDERcRSICLEdTICAL BAR BESIDE RIGHT TRIANGLE",
   "nDOUBLE LEFT TURNSTILEnTRIPLE RIGHT TURNSTILEnWITH HORIZONTAL STROKEjELLIPSISjFOUR DOTS",
   "jIDEOGRAPHIC ITERATION MARKjKANA REPEAT MARKz LOWER HALFbaUPPER HALFvWITH VOICED SOUND MARK",
   "br UPPER HALFjLINEn EXTENSIONoWITH CIRCLE ABOVEbaBELOWtMIDDLE DOTjMALE WITH STROKE SIGN",
   "jONE EIGHTH BLOCK-2ba3ba4ba5ba6ba7jSIX DOTSjTAB KEYmULATIONt SETkILDEkRAFFIC LIGHTjZIGZAG LINE",
   "dY BOLD GREEK CROSSfHEAVY EIGHT POINTED BLACK STARrSPOKED ASTERISKlFIVE SPOKED ASTERISK",
   "lGREEK CROSSlREVERSE SOLIDUSlSALTIREmIX SPOKED ASTERISKmOLIDUSlWHITE CIRCLErSQUARE",
   "fMUCH GREATER-THANkLESS-THANcSTAbIBRATION MODEcCTORY HANDcDEO CAMERAgGAMEfCASSETTE",
   "cETNAMESE ALTERNATE READING MARK CAbiNHAYdWDATA SQUAREcOLINcRGOcTHKUQI CAPITAL LETTER AyBBEzE",
   "yCEzHEyDEzHEyEzIyFEyGAyHAzHAyIzJEyJEyKAyLAzLAyMEyNEzJEyOyPEyQAyREySEzHEyTEzHEyUyVEyXEyYyZE",
   "jSMALL LETTER AwBBExEwCExHEwDExHEwExIwFEwGAwHAxHAwIxJEwJEwKAwLAxLAwMEwNExJEwOwPEwQAwREwSExHE",
   "wTExHEwUwVEwXEwYwZEbOIDED GREEK CROSScLCANOdLEYBALLdUME INTEGRALbS1d0e0e1e2e3e4e5e6e7e8e9d1e0",
   "e1e2e3e4e5e6e7e8e9d2e0e1e2e3e4e5e6e7e8e9d3e0e1e2e3e4e5e6e7e8e9d4e0e1e2e3e4e5e6e7e8e9d5e0e1e2e3",
   "e4e5e6e7e8e9d6e0e1e2e3e4e5e6e7e8e9d7e0e1e2e3e4e5e6e7e8e9d8e0e1e2e3e4e5e6e7e8e9d9e0e1e2e3e4e5e6",
   "e7e8e9c2d0e0e1e2e3e4e5e6e7e8e9d1e0e1e2e3e4e5e6e7e8e9d2e0e1e2e3e4e5e6e7e8e9d3e0e1e2e3e4e5e6e7e8",
   "e9d4e0e1e2e3e4e5e6e7e8e9d5e0e1e2e3e4e5e6d6d7d8d9c3d0d1d2d3d4d5d6d7d8d9c4d0d1d2d3d4d5d6d7d8d9c5",
   "d0d1d2d3d4d5d6d7d8d9c6d0d1d2d3d4d5d6d7d8d9c7d0d1d2d3d4d5d6d7d8d9c8d0d1d2d3d4d5d6d7d8d9c9d0d1d2",
   "d3d4d5d6d7d8d9bTcSbULCANUSdGAR FRACTION FIVE EIGHTHSvSIXTHSrOUR FIFTHSqONE EIGHTHuFIFTHuHALF",
   "uNINTHuQUARTERuSEVENTHvIXTHuTENTHvHIRDqSEVEN EIGHTHSqTHREE EIGHTHSwFIFTHSwQUARTERSrWO FIFTHS",
   "uTHIRDSqZERO THIRDSaWAFFLEcNCHO DIGIT EIGHTnFIVEoOURnNINEnONEnSEVENoIXnTHREEoWOnZEROhLETTER A",
   "pAqNrGpNGpUoBAoCAoDAoEpNoFAoGAoHAoIpNGoJAoKApHAoLApLHAoMAoNApGApYAoOpNqGoPApHAoRAoSApHAoTApHA",
   "pRApSAoUpENoVAoWAoYApIHoZAhNGUN SIGNhTONE KOIpNImTUPpNIdING CRESCENT MOON SYMBOL",
   "hGIBBOUS MOON SYMBOLcRANG CITI CAPITAL LETTER AbcMbcNGbcTbbBUbbDAbbEbcNNbdYbbGAbbHARbcIYObcOLO",
   "bdRRbbIIbbKObbNGAAbcUNGbbObcDDbbPUbbSIIbcSUUbbTTEbbUCbcUbbVIYObbWIbbYAbcObcUbdJmDIGIT EIGHT",
   "sFIVEtOURsNINEsONEsSEVENtIXsTHREEtWOsZEROmNUMBER EIGHTYtFIFTYuORTYtNINETYtSEVENTYuIXTYtTEN",
   "uHIRTYuWENTYmOMmSMALL LETTER AbaMbaNGbaTzBUzDAzEbaNNbbYzGAzHARbaIYObaOLObbRRzIIzKOzNGAAbaUNGzO",
   "baDDzPUzSIIbaSUUzTTEzUCbaUzVIYOzWIzYAbaObaUbbJdNING SIGNcSTEBASKETcTCHdER BUFFALOgCLOSETgPOLO",
   "gWAVEfMELONcVE ARROW POINTING DIRECTLY LEFTbdRIGHTfDASHdING BLACK FLAGhHAND SIGNhWHITE FLAG",
   "dY DASHfLINEgOW LINEfOVERLINEcXING CRESCENT MOON SYMBOLhGIBBOUS MOON SYMBOLbEARY CAT FACEgFACE",
   "cDDINGdGE-TAILED RIGHTWARDS ARROWcIERSTRASS ELLIPTIC FUNCTIONdGHT LIFTERcST SYRIAC CROSSbHALE",
   "cEELf OF DHARMAfCHAIR SYMBOLcITE ARROW SHAFT WIDTH ONEyTWO THIRDSgBULLETgCHESS BISHOP",
   "s ROTATED NINETY DEGREESbbTWO HUNDRED SEVENTY DEGREESmEQUIHOPPERw ROTATED NINETY DEGREESmKING",
   "q ROTATED NINETY DEGREESzTWO HUNDRED SEVENTY DEGREESnNIGHTs ROTATED FORTY-FIVE DEGREES",
   "bbNINETY DEGREESbbONE HUNDRED THIRTY-FIVE DEGREESbbTHREE HUNDRED FIFTEEN DEGREES",
   "bcWO HUNDRED SEVENTY DEGREESbnTWENTY-FIVE DEGREESs-BISHOPtQUEENtROOKmPAWN",
   "q ROTATED NINETY DEGREESzTWO HUNDRED SEVENTY DEGREESmQUEENr ROTATED NINETY DEGREES",
   "baTWO HUNDRED SEVENTY DEGREESmROOKq ROTATED NINETY DEGREESzTWO HUNDRED SEVENTY DEGREES",
   "mTURNED BISHOPtKINGuNIGHTtPAWNtQUEENtROOKhIRCLEm CONTAINING BLACK SMALL CIRCLEnWITH DOT RIGHT",
   "uWN ARROWsLOWER LEFT QUADRANTyRIGHT QUADRANTsTWO DOTSsUPPER LEFT QUADRANTyRIGHT QUADRANT",
   "hLUB SUIThONCAVE-SIDED DIAMONDbb WITH LEFTWARDS TICKbhRIGHTWARDS TICKgDIAMOND",
   "n CONTAINING BLACK MEDIUM DIAMONDbfSMALL DIAMONDbfVERY SMALL DIAMONDoIN SQUAREoSUIT",
   "oWITH CENTRED DOThOWN POINTING BACKHAND INDEXuINDEXuLEFT HAND INDEXk-POINTING SMALL TRIANGLE",
   "uTRIANGLEhRAUGHTS KINGpMANgEXCLAMATION MARK ORNAMENTgFLAGk WITH HORIZONTAL MIDDLE BLACK STRIPE",
   "iORETTEjWERhOUR POINTED CUSPtSTARhROWNING FACEgHARD SHELL FLOPPY DISKhEARTl SUITjVY CHECK MARK",
   "mSALTIRE WITH ROUNDED CORNERSiXAGONhORIZONTAL ELLIPSEiURGLASSgLARGE SQUAREiTIN CROSS",
   "hEFT LANE MERGElPOINTING BACKHAND INDEXuINDEXk-POINTING POINTERuSMALL TRIANGLEuTRIANGLE",
   "hOZENGE CONTAINING BLACK SMALL LOZENGEgMEDIUM DIAMONDnLOZENGEnSMALL SQUAREoQUAREoTAR",
   "hOON SELENAgNIBgPARALLELOGRAMhENNANTjTAGONgQUESTION MARK ORNAMENTgRECTANGLE",
   "hIGHT POINTING BACKHAND INDEXvINDEXl-POINTING PENTAGONwOINTERvSMALL TRIANGLEvTRIANGLEgSCISSORS",
   "hESAME DOThHOGI PIECEhMALL LOZENGEmSQUAREnTARiILING FACEhPADE SUIThQUAREm BUTTON",
   "nCONTAINING BLACK MEDIUM SQUAREbeSMALL SQUAREbeVERY SMALL SQUAREnWITH CENTRE VERTICAL LINE",
   "sLEFTWARDS TICKtOWER LEFT QUADRANTyRIGHT QUADRANTsRIGHTWARDS TICKtOUNDED CORNERS",
   "sUPPER LEFT QUADRANTyRIGHT QUADRANTsVERTICAL BISECTING LINEhTARhUNj BEHIND CLOUDw WITH RAIN",
   "kWITH RAYSpSMALL CLOUDgTELEPHONEhOUCHTONE TELEPHONEhRAPEZIUMiIANGLE CONTAINING SMALL WHITE TRI",
   "ANGLEhWO-WAY LEFT WAY TRAFFICgUP POINTING BACKHAND INDEXsINDEXi-POINTING CHEVRON",
   "sSMALL TRIANGLEsTRIANGLEba WITH DOTgVERTICAL BARpELLIPSEpRECTANGLEjY SMALL SQUARE",
   "f-FEATHERED RIGHTWARDS ARROWbIDE-HEADED DOWNWARDS BARB ARROWwHEAVY BARB ARROWwLIGHT BARB ARROW",
   "wMEDIUM BARB ARROWwVERY HEAVY BARB ARROWmLEFTWARDS BARB ARROWwHEAVY BARB ARROW",
   "wLIGHT BARB ARROWwMEDIUM BARB ARROWwVERY HEAVY BARB ARROWmNORTH EAST BARB ARROW",
   "xHEAVY BARB ARROWxLIGHT BARB ARROWxMEDIUM BARB ARROWxVERY HEAVY BARB ARROWsWEST BARB ARROW",
   "xHEAVY BARB ARROWxLIGHT BARB ARROWxMEDIUM BARB ARROWxVERY HEAVY BARB ARROW",
   "mRIGHTWARDS BARB ARROWxHEAVY BARB ARROWxLIGHT BARB ARROWxMEDIUM BARB ARROW",
   "xVERY HEAVY BARB ARROWmSOUTH EAST BARB ARROWxHEAVY BARB ARROWxLIGHT BARB ARROW",
   "xMEDIUM BARB ARROWxVERY HEAVY BARB ARROWsWEST BARB ARROWxHEAVY BARB ARROWxLIGHT BARB ARROW",
   "xMEDIUM BARB ARROWxVERY HEAVY BARB ARROWmUPWARDS BARB ARROWuHEAVY BARB ARROWuLIGHT BARB ARROW",
   "uMEDIUM BARB ARROWuVERY HEAVY BARB ARROWcGGLY VERTICAL LINEcLTED FLOWERcND BLOWING FACEfCHIME",
   "eOWdE GLASSdKING FACEcRED KEYBOARDbJbOLF FACEcMANf WITH BUNNY EARSfS BOOTShCLOTHEShHAThSANDAL",
   "dENS SYMBOLcN SIGNcODcRD JOINERfSEPARATOR MIDDLE DOTdLD MAPdMdRIED FACEbRAPPED PRESENT",
   "cEATH PRODUCTdNCHdSTLERScITING HANDaX IN A RECTANGLE BOXb-RAYbIANGQI BLACK CANNONpHARIOT",
   "oELEPHANToGENERALoHORSEoMANDARINoSOLDIERiRED CANNONnHARIOTmELEPHANTmGENERALmHORSEmMANDARIN",
   "mSOLDIERbORaYAWNING FACEbELLOW HEARTcN SIGNcZIDI COMBINING HAMZA MARKrMADDA MARK",
   "hHYPHENATION MARKhLETTER BEoCHHIMqIMpIMoDADqLoELIFpTpWpYNoFAoGAFoHAYpHAoJAoKAFpHAFoLAM",
   "r WITH DOT ABOVEoMIMoNUNoOWoPEpHEoQAFoRApHAoSADpEpHINpINoTApHEoUMoVAq ALTERNATE FORMoWAWoXA",
   "pHEYNoYOTr WITH CIRCUMFLEX ABOVEoZAqLpEbI RADICAL BBUTmURlCHEmIPmUOPmYnPnTlDDURmUlGAmEPmGOPnUO",
   "mOTlHMOmXITnOPnUOlJJIEnUTnYmOlKEmITlLInEmYRlMImOPlNBIEmYIPnOPmZUPlOPlPUTmYTlQOTlSHATnOPnURnY",
   "mSIlTATmUlVEPmURlWOlYITmOlZAmOTmUPnRmZIETdSYLLABLE AnPnTnXmBAoPoToXnBApPpTpXoEpPpXoIpEqPqTqXpP",
   "pTpXoOpPpTpXoUpOqPqXpPpRqXpTpXoYpPpTpXnEoPoXnIoEpPpTpXoPoToXnOoPoToXnUoOpPpXoPoRpXoToXnYoPoRpX",
   "oToXmCAoPoToXnEoPoXnHApPpTpXoEpPpTpXoOpPpTpXoUpOqPqTqXpPpRqXpXoYpPpRqXpTpXnIoEpPpTpXoPoToXnOoP",
   "oToXnUoOpPpXoPoRpXoToXnYoPoRpXoToXmDAoPoToXnDApPpTpXoEpPpXoIpEqPqXpPpTpXoOpPpTpXoUpOqPqXpPpRqX",
   "pTpXnEoPoXnIoEpPpXoPoToXnOoPoToXnUoOpXoPoRpXoToXmEnXmFAoPoToXnIoPoToXnOoPoXnUoPoRpXoToXnYoPoT",
   "oXmGAoPoToXnEoPoToXnGApPpTpXoEpPpTpXoIpEqPqXpTpXoOpPpTpXoUpOqPqTqXpPpRqXpTpXnIoEpPpTpXoPoToXnO",
   "oPoToXnUoOpPpTpXoPoRpXoToXmHAoPoToXnEoPoXnIEpXoTnLApPpTpXoEpPpXoIpEqPqXpPpTpXoOpPpXoUpOqPqXpP",
   "pRqXpTpXoYpPpRqXpTpXnMApPpTpXoIpEqPqXpPpTpXoOpPpTpXoUpOqPqXpPpRqXpTpXoYpPpRqXpXnNApPpTpXoEpPpX",
   "oIpEqPqTqXpPpTpXoOPpTpXoUOqXpTnOoPoToXnUOpPpTpXnXApPpTpXoEpPpXoIpEqPqTqXpPpTpXoOpPpTpXoUOqPqT",
   "qXmInEoPoToXnPnToERATION MARKnXmJIoEpPpTpXoPoToXnJIpEqPqTqXpPpTpXoOpPpTpXoUpOqPqXpPpRqXpTpXoY",
   "pPpTpXnOoPoToXnUoOpPpTpXoPoRpXoToXnYoPoRpXoToXmKAoPoToXnEoPoToXnIoEpPpXoPoToXnOoPoToXnUoOpPpX",
   "oPoRpXoToXmLAoPoToXnEoPoXnIoEpPpTpXoPoToXnOoPoToXnUoOpPpTpXoPoRpXoToXnYoPoRpXoToXmMAoPoToXnEoX",
   "nGApPpTpXoEpPpXoIEqXoOpPpTpXoUpOqPqXpPpRqXpTpXnIoEpPpXoPoToXnOoPoToXnUoOpPpTpXoPoRpXoToXnYoPoT",
   "oXmNAoPoXnBApPpTpXoIpEqPqXpPpTpXoOpPpTpXoUpPpRqXpTpXoYpPpRqXpTpXnDApPpTpXoEpPpXoIpEqXpPpTpXoO",
   "pPpTpXoUpPpRqXpTpXnEoPoXnGApPpTpXoEpPpXoIEqPqXoOpPpTpXoUOqTqXnIoEpPpXoPoToXnJIpEqPqTqXpPpTpXoO",
   "pPpTpXoUpOqXpPpRqXpXoYpPpRqXpTpXnOoPoToXnRApPpTpXoEpPpTpXoOpPpXoUpPpRqXpTpXoYpPpRqXpTpXnUoOpP",
   "pXoPoRpXoToXnYIpEqPqTqXpPpTpXoOpPpTpXoUpOqPqXpPpTpXnZApPpTpXoEpXoIpEqPqXpPpTpXoOPpXoUpOqXpPpR",
   "qXpXoYpPpRqXpTpXmOnPnTnXmPAoPoToXnIoEpPpXoPoToXnOoPoToXnUoOpPpXoPoRpXoToXnYoPoRpXoToXmQIoEpPpT",
   "pXoPoToXnOoPoToXnUoOpPpTpXoPoRpXoToXnYoPoRpXoToXmRAoPoToXnEoPoXnOoPoToXnRApXoEpPpTpXoOpPpTpXoU",
   "pOqXpPpRqXpTpXoYpPpRqXpTpXnUoOpPpXoPoRpXoToXnYoPoRpXoToXmSAoPoToXnEoPoXnHApPpTpXoEpPpTpXoOpPpT",
   "pXoUpOqPqXpPpRqXpTpXoYpPpRqXpTpXnIoEpPpXoPoToXnOoPoToXnSApPpTpXoEpPpXoIpEqPqXpPpTpXoOpPpTpXoU",
   "pPpTpXoYpPpRqXpTpXnUoOpPpXoPoRpXoToXnYoPoRpXoToXmTAoPoToXnEoPoXnIoEpPpXoPoToXnOoPoToXnUoOpPpT",
   "pXoPoRpXoToXmUOoPoXmVAoPoToXnEPoXnIoEpPpTpXoPoToXnOoPoToXnUoPoRpXoToXnYoPoRpXoToXmWAoPoToXnEoP",
   "oXnOoPoXnUoOpPpXmXIoEpPpTpXoPoToXnOoPoToXnUOpXnYoPoRpXoToXmYIoEpPpTpXoPoToXnOoPoToXnUoOpPpTpX",
   "oPoRpXoToXnYoPoRpXoToXmZAoPoToXnEoPoXnHApPpTpXoEpPpTpXoOpPpTpXoUpOqPqXpPpRqXpTpXoYpPpRqXpTpXnI",
   "oEpPpXoPoToXnOoPoToXnUoOpPpXoPoRpXoToXnYoPoRpXoToXnZApPpTpXoEpPpXoIpEqPqTqXpPpTpXoOpPpXoUpPpR",
   "qXpXoYpPpRqXpTpXcN YANGbO-YOaZ NOTATION BAG MEMBERSHIPlDOMAIN ANTIRESTRICTION",
   "lLEFT BINDING BRACKETqIMAGE BRACKETlRANGE ANTIRESTRICTIONmELATIONAL COMPOSITION",
   "mIGHT BINDING BRACKETrIMAGE BRACKETlSCHEMA COMPOSITIONsPIPINGtROJECTIONmPOTlTYPE COLON",
   "bANABAZAR SQUARE CLOSING DOUBLE-LINED HEAD MARKzHEAD MARKtUSTER-FINAL LETTER LAbmRAbmVAbmYA",
   "zINITIAL LETTER RArFINAL CONSONANT MARKrINITIAL DOUBLE-LINED HEAD MARKzHEAD MARKrLETTER -AyA",
   "yBAzHAyCAzHAyDAzDAbaHAzHAzZAbaHAyGAzHAyHAyJAyKAzHAzSSAyLAyMAyNAzGAzNAzYAyPAzHAyRAySAzHAzSAyTA",
   "zHAzSAbaHAzTAbaHAyVAyYAyZAzHArMARK DOUBLE SHADwLONG TSHEGwSHADwTSHEGrSIGN ANUSVARA",
   "wCANDRA WITH ORNAMENTbcBINDUbh WITH ORNAMENTwVIRAMAySARGAsUBJOINERrVOWEL LENGTH MARKxSIGN AI",
   "bdUbcEbcIbcObdEbcREVERSED IbcUbdEbEBRA FACEcRO WIDTH JOINERlNO-BREAK SPACEnN-JOINERlSPACEcUS",
   "bIPPER-MOUTH FACEbNAMENNY COMBINING ATTACHING VERTICAL OMETtLOWER TONAL RANGE INDICATOR",
   "tMARK BORZAYAyCHASHKAbf POLNAYAzURVED OMETyDEMESTVENNY ZADERZHKAzVOETOCHIE",
   "yGORAZDO NIZKO ON LEFTbpRIGHTbmS KRYZHEM ON LEFTbzRIGHTbgVYSOKOyKACHKAzRYZHbd ON LEFTzUPNAYA",
   "yLOMKAyMALO POVYSHE ON LEFTboRIGHTblS KHOKHLOM ON LEFTbzRIGHTboRYZHEMbmTRANNOyNIZKO ON LEFT",
   "bhRIGHTbeS KRYZHEM ON LEFTbrRIGHTyOBLACHKOzNzTSECHKAyPODCHASHIEbi WITH VERTICAL STROKEbbVERTKA",
   "baVYSHE ON LEFTbjRIGHTbgS KHOKHLOM ON LEFTbuRIGHTbjRYZHEMbhTRANNOyRAVNObaZSEKAySKOBA",
   "zOROCHYA NOZHKAzREDNE ON LEFTbiRIGHTzTRANNO MALO POVYSHEyTIKHAYAzOCHKAzSATA ON LEFTbhRIGHT",
   "beS KRYZHEMyUDARKAyVYSOKO ON LEFTbiRIGHTbfS KHOKHLOM ON LEFTbtRIGHTbiRYZHEMyZADERZHKAzELObaVOK",
   "tTONAL RANGE MARK MRACHNObkSVETLObkTRESVETLOjNEUME CHASHKArELYUSTKApDEMESTVENNY KLYUCHrRBITSA",
   "qOUBLE ZAPYATAYAqUDAqVA V CHELNUpFITApGOLUBCHIK BORZYzMRACHNYzSVETLYzTIKHYbaRESVETLYpKHAMILO",
   "qLYUCHqOBYLAqRYUKu TIKHYsZHqUFISMApMECHIKv KLYUCHENEPOSTOYANNYbdPOVODNYbdVOYwPOVODNYpNEMKA",
   "pOBLAKOqSOKAu KLYUCHEVAYA NEPOSTOYANNAYAbhSVETLAYAwRYUKOVAYA SVETLAYAvSVETLAYAvTRESVETLAYA",
   "pPALKArRAKLITrUKqEREVODKAy NEPOSTOYANNAYAqODCHASHIErLKULIZMYpREVERSED CHELYUSTKAqOG",
   "pSKAMEYTSA DVOECHELNAYA KLYUCHEVAYAbmNEPOSTOYANNAYAbmPROSTAYAbmSVETLAYAzKLYUCHENEPOSTOYANNAYA",
   "bgVAYA SVETLAYAblTIKHAYAzMRACHNAYAzSVETLAYAzTIKHAYAbaRESVETLAYAqLOZHITIEy S KRYZHEMbbZAPYATOY",
   "zZAKRYTOEqTATYAv NEPOSTOYANNAYAwS DVUMYA ZAPYATYMIyKRYZHEMbf I ZAPYATOYyROGOMyZAPYATOY",
   "bg I KRYZHEMbjPODCHASHIEMwZAKRYTAYAbf S ZAPYATOYrOPITSAx S OCHKOMyWITH SOROCHYA NOZHKA",
   "rRELA DVOECHELNAYAbi KLYUCHEVAYAbfOKRYZHEVAYAbgPOVODNAYAbp KLYUCHEVAYAwGROMNAYA",
   "be WITH SINGLE ZAPYATAYAbaOKRYZHEVAYAbl POVODNAYAbbPOVODNAYAbk WITH DOUBLE ZAPYATAYA",
   "bqSINGLE ZAPYATAYAwKLYUCHENEPOSTOYANNAYAbdPOVODNAYAxRYUKOVAYAbg GROMNAYA",
   "bp WITH SINGLE ZAPYATAYAblOKRYZHEVAYAbw POVODNAYAbmPOVODNAYAbv WITH DOUBLE ZAPYATAYA",
   "cbSINGLE ZAPYATAYAbhPOVODNAYAbhTRYASKAzZHEVAYAwMRACHNOTIKHAYAwNEPOSTOYANNAYAwPOLUPOVODNAYA",
   "yVODNAYAxROSTAYAwTIKHAYA PUTNAYAxRYASOGLASNAYAbcPOVODNAYAbcSTRELNAYApVRAKHIYA KLYUCHEVAYA MRAC",
   "HNAYAbkPROSTAYAbkSVETLAYAbkTRESVETLAYAyMRACHNAYAyPROSTAYAySVETLAYAyTRESVETLAYApZANOZHEK",
   "rPYATAYAqMEYTSAjPRIZNAK MODIFIER DIRECTION FLIPbaKRYZHbaLEVEL-2bg3baROGbOMBIEbWJcNBSPdJcSP"]

end GameAtlas.Text
