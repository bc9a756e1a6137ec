/-!
# Table of character names

* `nameTable` lists the names of the characters of Unicode 14 and their aliases, in alphabetical
  order. Each name is given by a small letter, which counts from `a` how many characters it has in
  common with the name before it, and by the characters behind them.

The names that are spelled by rules are not in the table.
-/

set_option autoImplicit false

namespace Protogen.Text

/-- The names of characters; line feeds do not count. -/
def nameTable : String := "
aABACUSbC CURRENTcCORDIONeUNT OFcKdNOWLEDGEcTIVATE ARABIC FORM SHAPINGjSYMMETRIC SWAPPING
cUTE ACCENThNGLEbDDRESSED TO THE SUBJECTcHESIVE BANDAGEcI SHAKTIcLAM ALIF LENGTHENER
gCAPITAL LETTER ALIFvBAwHEvCHIvDAALIwHAvEvFAvGAwBEvHAvIvJIIMvKAFwHAwPOvLAAMvMIIMvNHAwUNwYAvOvPE
vQAAFvRAvSHAwINNYIIYHEvTUvUvVAvWAWvYAwHEvZALhONSONANT MODIFIERgDIGIT EIGHTmFIVEnOURmNINEmONEmSEVEN
nIXmTHREEnWOmZEROgGEMINATE CONSONANT MODIFIERnION MARKgHAMZAgINITIAL EXCLAMATION MARKoQUESTION MARK
gNASALIZATION MARKhUKTAgSMALL LETTER ALIFtBAuHEtCHItDAALIuHAtEtFAtGAuBEtHAtItJIIMtKAFuHAuPOtLAAM
tMIIMtNHAuUNuYAtOtPEtQAAFtRAtSHAuINNYIIYHEtTUtUtVAtWAWtYAuHEtZALgVOWEL LENGTHENERcMETOS
dISSION TICKETScULTbEGEAN CHECK MARKhDRY MEASURE FIRST SUBUNIThLIQUID MEASURE FIRST SUBUNIT
hMEASURE SECOND SUBUNITpTHIRD SUBUNIThNUMBER EIGHTt HUNDREDuTHOUSANDtYu THOUSANDoFIFTYt THOUSANDqVE
s HUNDREDtTHOUSANDpORTYt THOUSANDqURs HUNDREDtTHOUSANDoNINEs HUNDREDtTHOUSANDsTYu THOUSANDoONE
r HUNDREDsTHOUSANDoSEVENt HUNDREDuTHOUSANDtTYv THOUSANDpIXr HUNDREDsTHOUSANDrTYt THOUSANDoTEN
r THOUSANDpHIRTYu THOUSANDqREEt HUNDREDuTHOUSANDpWENTYu THOUSANDqOr HUNDREDsTHOUSAND
hWEIGHT BASE UNIToFIRST SUBUNITpOURTH SUBUNIToSECOND SUBUNIToTHIRD SUBUNITiORD SEPARATOR DOTwLINE
cRIAL TRAMWAYbFGHANI SIGNbHOM CONSONANT SIGN MEDIAL LAzL LIGATING RAzL RAfDIGIT EIGHTlFIVEmOURlNINE
lONElSEVENmIXlTHREEmWOlZEROfLETTER AnLTERNATE BAwGAwTAmBAnHAmCAnHAmDAnDAoHAnHAmGAnHAmHAmJAnHAmKAnHA
mLAnLAmMAmNAnGAnNAnYAmPAnHAmRAmSAmTAnHAnTAoHAfNUMBER TENnWENTYfSIGN KILLERkRULAIkSECTION
lMALL SECTIONgYMBOL VIfVOWEL SIGN ArArIrMrWqEqIrIqOqUrUbIRPLANEi ARRIVINGjDEPARTUREbKTIESELSKAB
bLARM CLOCKcCHEMICAL SYMBOL FOR AIRxLEMBICyKALIzALI-2yUMxMALGAMxNTIMONY ORExQUA REGIAzA REGIA-2
zA VITAEzA VITAE-2zAFORTISxRSENICxSHESxURIPIGMENTwBATH OF MARYzH OF VAPOURSxISMUTH ORExLACK SULFUR
xORAXzAX-2zAX-3xRICKwCADUCEUSyLXyPUT MORTUUMxINNABARxOPPER ANTIMONIATEzPER ORExROCUS OF COPPER
zCUS OF COPPER-2zCUS OF IRONyUCIBLEzCIBLE-2zCIBLE-3zCIBLE-4zCIBLE-5wDAY-NIGHTxISSOLVEzSOLVE-2zTILL
wEARTHwFIREwGOLDxUMwHALF DRAMzF OUNCExORSE DUNGyURwIRON OREzN ORE-2zN-COPPER OREwLEAD ORExODESTONE
wMARCASITExERCURY SUBLIMATEzCURY SUBLIMATE-2zCURY SUBLIMATE-3xONTHwNIGHTyTREwOIL
wPHILOSOPHERS SULFURxOT ASHESyWDERzDERED BRICKxRECIPITATExURIFYyTREFACTIONwQUICK LIMEzNTESSENCE
wREALGARzLGAR-2yGULUSzULUS OF ANTIMONYzULUS OF ANTIMONY-2zULUS OF IRONzULUS-2zULUS-3zULUS-4yTORT
xOCK SALTzK SALT-2wSAL-AMMONIACzTzT OF ANTIMONYzT OF COPPER ANTIMONIATExCEPTER OF JOVExILVERxOAP
xPIRITxTARRED TRIDENTyRATUM SUPER STRATUMzATUM SUPER STRATUM-2xUBLIMATE OF ANTIMONY
zLIMATE OF COPPERzLIMATE OF SALT OF ANTIMONYzLIMATE OF SALT OF COPPERzLIMATIONyLFURwTARTARzTAR-2
xIN OREzCTURExRIDENTxUTTYwURINEwVERDIGRISxINEGARzEGAR OF ANTIMONYzEGAR-2zEGAR-3yTRIOLzRIOL-2wWATER
yXcEF SYMBOLdMBICdRTcIEN MONSTERcL AROUND-PROFILEeEQUAL TOcMdOST EQUAL OR EQUAL TOnTO
p WITH CIRCUMFLEX ACCENTcTERNATE ONE-WAY LEFT WAY TRAFFICiIVE KEY SYMBOLbMALGAMATION OR COPRODUCT
cBULANCEcERICAN FOOTBALLcPERSANDdHORAbNATOLIAN HIEROGLYPH A001y2y3y4y5y6y7y8y9x10zAy1y2y3y4y5y6y7y8
y9x20y1y2y3y4y5y6zAy7y8y9x30y1y2y3y4y5y6y7y8y9zAx40y1zAy2y3y4y5zAy6zAzBy7y8y9x50y1y2y3y4y5y6y7y8y9
x60y1y2y3y4y5y6zAzBzCy7y8y9x70y1y2y3y4y5y6y7y8y9x80y1y2y3y4y5y6y7y8y9x90y1y2y3y4y5y6y7zAy8zAy9w100
zAy1zAy2zAy3y4zAzBzCy5zAzBy6y7zAzBzCy8y9x10zAzBy1y2y3y4y5zAy6y7y8y9x20y1y2y3y4y5zAy6y7y8y9x30y1y2y3
y4y5zAy6y7y8y9x40y1y2y3y4y5y6y7y8y9x50y1y2y3y4y5y6y7y8y9x60y1y2y3y4y5y6y7y8y9x70y1y2y3y4y5y6y7y8y9
x80y1y2y3y4y5y6y7y8y9x90y1y2y3y4y5y6y7y8y9w200y1y2zAzBy3y4y5y6y7zAy8y9zAx10y1y2y3y4y5zAy6zAy7y8y9
x20y1y2y3y4y5y6y7zAy8y9x30y1y2y3y4y5y6y7y8y9x40y1y2y3y4y5y6y7y8y9x50y1y2y3y4y5y6y7y8y9x60y1y2y3y4y5
y6y7zAy8y9x70y1y2y3y4y5y6y7y8y9x80y1y2y3y4y5y6y7y8y9zAx90y1y2y3y4zAy5y6y7y8y9zAw300y1y2y3y4y5y6y7y8
y9zAx10y1y2y3y4y5y6y7y8y9x20y1y2y3y4y5y6y7y8y9zAx30y1y2AzBzCy3y4y5y6zAzBzCy7y8y9x40y1y2y3y4y5y6y7y8
y9x50y1y2y3y4y5y6y7y8y9zAx60y1y2y3y4zAy5y6y7y8zAy9x70y1zAy2y3y4y5y6y7y8y9x80y1zAy2y3 RA OR RIzAy4y5
y6zAy7y8y9x90y1y2y3 EIGHTy4y5y6y7y8y9w400y1y2y3y4y5y6y7y8y9x10 BEGIN LOGOGRAM MARK
zA END LOGOGRAM MARKy1y2y3y4y5y6y7y8y9x20y1y2y3y4y5y6y7y8y9x30y1y2y3y4y5y6y7y8y9x40y1y2y3y4y5y6y7y8
y9x50zAy1y2y3y4y5y6y7zAy8y9x60y1y2y3y4y5y6y7y8y9x70y1y2y3y4y5y6y7y8y9x80y1y2y3y4y5y6y7y8y9x90y1y2y3
y4y5y6y7w501y2y3y4y5y6y7y8y9x10y1y2y3y4y5y6y7y8y9x20y1y2y3y4y5y6y7y8y9x30fMICAL HEARTcCHOR
cD WITH DOTcGER SYMBOLdLEf WITH S INSIDElUNDERBARdRY FACEdSTROM SIGNdUISHED FACEcKHcT
dENNA WITH BARSdICLOCKWISE CLOSED CIRCLE ARROWpONTOUR INTEGRAL
oDOWNWARDS AND UPWARDS OPEN CIRCLE ARROWSoGAPPED CIRCLE ARROWoINTEGRATIONoOPEN CIRCLE ARROW
oTOP SEMICIRCLE ARROWpRIANGLE-HEADED BOTTOM U-SHAPED ARROWzADED LEFT U-SHAPED ARROW
zADED OPEN CIRCLE ARROWzADED RIGHT U-SHAPED ARROWzADED TOP U-SHAPED ARROWbPC
cL FUNCTIONAL SYMBOL ALPHAzHA UNDERBARwBACKSLASH BARwCIRCLE BACKSLASHzCLE DIAERESISzCLE JOT
zCLE STARzCLE STILEzCLE UNDERBARxOMMA BARwDEL DIAERESISz STILEz TILDEzTA STILEzTA UNDERBAR
xIAMOND UNDERBARxOWN CARET TILDEzN SHOE STILEzN TACK JOTzN TACK UNDERBARzNWARDS VANE
wEPSILON UNDERBARwGREATER-THAN DIAERESISwI-BEAMxOTAzA UNDERBARwJOT DIAERESISz UNDERBAR
wLEFT SHOE STILEzTWARDS VANEwOMEGAzGA UNDERBARwQUADzD BACKSLASHzD CIRCLEzD COLONzD DELzD DELTA
zD DIAMONDzD DIVIDEzD DOWN CARETzD DOWNWARDS ARROWzD EQUALzD GREATER-THANzD JOTzD LEFTWARDS ARROW
zD LESS-THANzD NOT EQUALzD QUESTIONzD RIGHTWARDS ARROWzD SLASHzD UP CARETzD UPWARDS ARROWyOTE QUAD
zTE UNDERBARwRHOxIGHTWARDS VANEwSEMICOLON UNDERBARxLASH BARxQUISH QUADxTAR DIAERESISyILE TILDE
wTILDE DIAERESISwUP CARET TILDEzSHOE JOTzTACK DIAERESISzTACK JOTzTACK OVERBARyWARDS VANEwZILDE
cOLLONdSTROPHEcPLICATION PROGRAM COMMANDdROACHES THE LIMITfXIMATELY BUT NOT ACTUALLY EQUAL TO
oEQUAL OR EQUAL TOuTOw OR THE IMAGE OFbQUARIUSbRABIC BASELINE ROUND DOThCOMMAiURLY DAMMAsTANnFATHA
sTANnKASRAsTANhDAMMAm ISOLATED FORMnMEDIAL FORMnWITH DOTmTANp ISOLATED FORMjTE SEPARATOR
iECIMAL SEPARATORiISPUTED END OF AYAHiOUBLE RIGHT ARROWHEAD ABOVEzHEAD ABOVE WITH DOTnD MADDA
hEMPTY CENTRE HIGH STOPuLOW STOPiND OF AYAHoTEXT MARKhFATHAm ISOLATED FORMnMEDIAL FORM
nWITH DOT ABOVEsRINGsTWO DOTSmTANp ISOLATED FORMiIVE POINTED STARiOOTNOTE MARKERiULL STOP
hHALF MADDA OVER MADDAjMZA ABOVEnBELOWhINVERTED DAMMAhKASRAm ISOLATED FORMnMEDIAL FORM
nWITH DOT BELOWmTANp ISOLATED FORMhLARGE CIRCLE BELOWnROUND DOT ABOVExBELOWxINSIDE CIRCLE BELOW
iEFT ARROWHEAD ABOVEwBELOWjTTER AEpFRICAN FEHwNOONwQAFz WITH THREE DOTS ABOVEpINr FINAL FORM
sINITIAL FORMtSOLATED FORMsMEDIAL FORMsWITH THREE DOTS ABOVEzREE DOTS BELOW
zREE DOTS POINTING DOWNWARDS ABOVEyWO DOTS ABOVEzO DOTS VERTICALLY ABOVEpLEFs FINAL FORM
tISOLATED FORMtMAKSURAzA FINAL FORMzA ISOLATED FORMtWASLAy FINAL FORMzISOLATED FORM
uITH ATTACHED BOTTOM RIGHT KASRAzTTACHED BOTTOM RIGHT KASRA AND DOT ABOVE
zTTACHED BOTTOM RIGHT KASRA AND LEFT RINGzTTACHED FATHAzTTACHED KASRAzTTACHED LEFT HAMZA
zTTACHED LEFT ROUND DOTzTTACHED RIGHT HAMZAzTTACHED RIGHT ROUND DOTzTTACHED ROUND DOT ABOVE
zTTACHED ROUND DOT BELOWzTTACHED TOP RIGHT FATHAzTTACHED TOP RIGHT FATHA AND DOT ABOVE
zTTACHED TOP RIGHT FATHA AND LEFT RINGyDOT ABOVEyEXTENDED ARABIC-INDIC DIGIT THREE ABOVE
zXTENDED ARABIC-INDIC DIGIT TWO ABOVEyHAMZA ABOVEzAMZA ABOVE FINAL FORMzAMZA ABOVE ISOLATED FORM
zAMZA BELOWzAMZA BELOW FINAL FORMzAMZA BELOW ISOLATED FORMyLEFT MIDDLE STROKEyMADDA ABOVE
zADDA ABOVE FINAL FORMzADDA ABOVE ISOLATED FORMyRIGHT MIDDLE STROKE
zIGHT MIDDLE STROKE AND DOT ABOVEzIGHT MIDDLE STROKE AND LEFT RINGyWAVY HAMZA ABOVEzAVY HAMZA BELOW
oBEEHs FINAL FORMtINITIAL FORMuSOLATED FORMtMEDIAL FORMqHr FINAL FORMsINITIAL FORMtSOLATED FORM
sMEDIAL FORMsWITH DOT BELOW AND THREE DOTS ABOVExHAMZA ABOVExINVERTED SMALL V BELOW
xSMALL MEEM ABOVEzALL VzALL V BELOWxTHREE DOTS HORIZONTALLY BELOWzREE DOTS POINTING UPWARDS BELOW
zREE DOTS POINTING UPWARDS BELOW AND TWO DOTS ABOVEyWO DOTS BELOW AND DOT ABOVErEHt FINAL FORM
uINITIAL FORMvSOLATED FORMuMEDIAL FORMoDADr FINAL FORMsINITIAL FORMtSOLATED FORMsMEDIAL FORM
sWITH DOT BELOWqHALt FINAL FORMuISOLATED FORMqLr FINAL FORMsISOLATED FORMsWITH DOT BELOW
zT BELOW AND SMALL TAHxFOUR DOTS ABOVExINVERTED SMALL V BELOWzVERTED VxRING
xTHREE DOTS ABOVE DOWNWARDSzREE DOTS BELOWyWO DOTS VERTICALLY BELOW AND SMALL TAHpDAHALu FINAL FORM
vISOLATED FORMrLs FINAL FORMtISOLATED FORMpOTLESS BEHwFEHwQAFpULr FINAL FORMsISOLATED FORMpYEH
s FINAL FORMtINITIAL FORMuSOLATED FORMtMEDIAL FORMoEp FINAL FORMqINITIAL FORMrSOLATED FORM
qMEDIAL FORMoFARSI YEHx FINAL FORMyINITIAL FORMzSOLATED FORMyMEDIAL FORM
yWITH EXTENDED ARABIC-INDIC DIGIT FOUR BELOWzITH EXTENDED ARABIC-INDIC DIGIT THREE ABOVE
zITH EXTENDED ARABIC-INDIC DIGIT TWO ABOVEzITH INVERTED VzITH THREE DOTS ABOVEzITH TWO DOTS ABOVE
pEHr FINAL FORMsINITIAL FORMtSOLATED FORMsMEDIAL FORMsWITH DOT BELOWzT BELOW AND THREE DOTS ABOVE
zT MOVED BELOWxTHREE DOTS BELOWzREE DOTS POINTING UPWARDS BELOWyWO DOTS BELOWoGAFr FINAL FORM
sINITIAL FORMtSOLATED FORMsMEDIAL FORMsWITH INVERTED STROKExRINGxTHREE DOTS ABOVEyWO DOTS BELOW
pHAINt FINAL FORMuINITIAL FORMvSOLATED FORMuMEDIAL FORMuWITH DOT BELOWzTHREE DOTS ABOVEpRAFpUEH
s FINAL FORMtINITIAL FORMuSOLATED FORMtMEDIAL FORMoHAHr FINAL FORMsINITIAL FORMtSOLATED FORM
sMEDIAL FORMsWITH EXTENDED ARABIC-INDIC DIGIT FOUR BELOWxHAMZA ABOVExINVERTED SMALL V BELOW
xSMALL ARABIC LETTER TAH ABOVEzALL ARABIC LETTER TAH AND TWO DOTSzALL ARABIC LETTER TAH BELOW
xTHREE DOTS ABOVEzREE DOTS POINTING UPWARDS BELOWyWO DOTS ABOVEzO DOTS VERTICAL ABOVEqMZA
t ISOLATED FORMpEHr DOACHASHMEEzHMEE FINAL FORMzHMEE INITIAL FORMzHMEE ISOLATED FORM
zHMEE MEDIAL FORMsFINAL FORMsGOALw FINAL FORMxINITIAL FORMySOLATED FORMxMEDIAL FORM
xWITH HAMZA ABOVEsINITIAL FORMtSOLATED FORMsMEDIAL FORMsWITH INVERTED VxYEH ABOVE
zH ABOVE FINAL FORMzH ABOVE ISOLATED FORMpIGH HAMZAy ALEFzWAWzYEHoJEEMs FINAL FORMtINITIAL FORM
uSOLATED FORMtMEDIAL FORMtWITH THREE DOTS ABOVEzHREE DOTS BELOWzWO DOTS ABOVEqHr FINAL FORM
sISOLATED FORMoKAFr FINAL FORMsINITIAL FORMtSOLATED FORMsMEDIAL FORMsWITH DOT ABOVEzT BELOWxRING
xTHREE DOTS BELOWyWO DOTS ABOVEqSHMIRI YEHpEHEHt FINAL FORMuINITIAL FORMvSOLATED FORMuMEDIAL FORM
uWITH DOT ABOVEzSMALL VzTHREE DOTS ABOVEzTHREE DOTS BELOWzTHREE DOTS POINTING UPWARDS BELOW
zTWO DOTS ABOVEzTWO DOTS VERTICALLY BELOWpHAHs FINAL FORMtINITIAL FORMuSOLATED FORMtMEDIAL FORM
pIRGHIZ OEy FINAL FORMzISOLATED FORMwYUy FINAL FORMzISOLATED FORMoLAMr FINAL FORMsINITIAL FORM
tSOLATED FORMsMEDIAL FORMsWITH BARxDOT ABOVEzUBLE BARxSMALL ARABIC LETTER TAH ABOVEzALL V
xTHREE DOTS ABOVEzREE DOTS BELOWpOW ALEFoMARKpEEMs FINAL FORMtINITIAL FORMuSOLATED FORMtMEDIAL FORM
tWITH DOT ABOVEzOT BELOWyTHREE DOTS ABOVEoNGq FINAL FORMrINITIAL FORMsSOLATED FORMrMEDIAL FORMqOEH
t FINAL FORMuINITIAL FORMvSOLATED FORMuMEDIAL FORMpOONs FINAL FORMtGHUNNAz FINAL FORM
z ISOLATED FORMtINITIAL FORMuSOLATED FORMtMEDIAL FORMtWITH DOT BELOWyINVERTED SMALL VyRING
ySMALL TAHzMALL VyTHREE DOTS ABOVEzWO DOTS BELOWpYEHs FINAL FORMtINITIAL FORMuSOLATED FORM
tMEDIAL FORMoOEq FINAL FORMrISOLATED FORMoPEHr FINAL FORMsINITIAL FORMtSOLATED FORMsMEDIAL FORM
sWITH SMALL MEEM ABOVEzALL VrEHt FINAL FORMuINITIAL FORMvSOLATED FORMuMEDIAL FORMoQAFr FINAL FORM
sINITIAL FORMtSOLATED FORMsMEDIAL FORMsWITH DOT ABOVEzT BELOWzT BELOW AND NO DOTS ABOVE
xTHREE DOTS ABOVEoREHr FINAL FORMsISOLATED FORMsWITH DOT BELOWzT BELOW AND DOT ABOVE
xFOUR DOTS ABOVExHAMZA ABOVExINVERTED VxLOOPxRINGxSMALL ARABIC LETTER TAH AND TWO DOTS
zALL NOON ABOVEzALL VzALL V BELOWyTROKExTWO DOTS ABOVEzO DOTS VERTICALLY ABOVEpNOONt FINAL FORM
uINITIAL FORMvSOLATED FORMuMEDIAL FORMpOHINGYA YEHpREHs FINAL FORMtISOLATED FORMoSADr FINAL FORM
sINITIAL FORMtSOLATED FORMsMEDIAL FORMsWITH THREE DOTS ABOVEzREE DOTS BELOWyWO DOTS BELOWpEEN
s FINAL FORMtINITIAL FORMuSOLATED FORMtMEDIAL FORMtWITH DOT BELOW AND DOT ABOVE
yEXTENDED ARABIC-INDIC DIGIT FOUR ABOVEyFOUR DOTS ABOVEyINVERTED V
ySMALL ARABIC LETTER TAH AND TWO DOTSyTHREE DOTS BELOWzHREE DOTS BELOW AND THREE DOTS ABOVE
zWO DOTS VERTICALLY ABOVEpHEENt FINAL FORMuINITIAL FORMvSOLATED FORMuMEDIAL FORMuWITH DOT BELOW
pTRAIGHT WAWpUPERSCRIPT ALEFpWASH KAFoTAHr FINAL FORMsINITIAL FORMtSOLATED FORMsMEDIAL FORM
sWITH DOT BELOWxTHREE DOTS ABOVEzREE DOTS BELOWyWO DOTS ABOVEpCHEHt FINAL FORMuINITIAL FORM
vSOLATED FORMuMEDIAL FORMuWITH DOT ABOVEzSMALL VtEHv FINAL FORMwINITIAL FORMxSOLATED FORM
wMEDIAL FORMpEHr FINAL FORMsINITIAL FORMtSOLATED FORMsMARBUTAz FINAL FORMz GOALz ISOLATED FORM
tEDIAL FORMsWITH RINGxSMALL TEH ABOVEzALL VxTHREE DOTS ABOVE DOWNWARDSrEHt FINAL FORMuINITIAL FORM
vSOLATED FORMuMEDIAL FORMpHALs FINAL FORMtISOLATED FORMqEHs FINAL FORMtINITIAL FORMuSOLATED FORM
tMEDIAL FORMqIN YEHpTEHs FINAL FORMtINITIAL FORMuSOLATED FORMtMEDIAL FORMtWITH SMALL VsEH
u FINAL FORMvINITIAL FORMwSOLATED FORMvMEDIAL FORMoUp FINAL FORMqISOLATED FORMqWITH HAMZA ABOVE
zA ABOVE ISOLATED FORMpIGHUR KAZAKH KIRGHIZ ALEF MAKSURA INITIAL FORM
zKH KIRGHIZ ALEF MAKSURA MEDIAL FORMoVEq FINAL FORMrISOLATED FORMqHr FINAL FORMsINITIAL FORM
tSOLATED FORMsMEDIAL FORMoWAWr FINAL FORMsISOLATED FORMsWITH DOT ABOVEzT WITHIN
xEXTENDED ARABIC-INDIC DIGIT THREE ABOVEzTENDED ARABIC-INDIC DIGIT TWO ABOVExHAMZA ABOVE
zMZA ABOVE FINAL FORMzMZA ABOVE ISOLATED FORMxRINGxTWO DOTS ABOVEoYEHr BARREEy FINAL FORM
zISOLATED FORMzWITH EXTENDED ARABIC-INDIC DIGIT THREE ABOVE
zWITH EXTENDED ARABIC-INDIC DIGIT TWO ABOVEzWITH HAMZA ABOVEzWITH HAMZA ABOVE FINAL FORM
zWITH HAMZA ABOVE ISOLATED FORMsFINAL FORMsINITIAL FORMtSOLATED FORMsMEDIAL FORMsWITH HAMZA ABOVE
zMZA ABOVE FINAL FORMzMZA ABOVE INITIAL FORMzMZA ABOVE ISOLATED FORMzMZA ABOVE MEDIAL FORMxSMALL V
xTAILyHREE DOTS BELOWyWO DOTS BELOW AND DOT ABOVEzO DOTS BELOW AND HAMZA ABOVE
zO DOTS BELOW AND SMALL NOON ABOVEpUq FINAL FORMrISOLATED FORMoZAHr FINAL FORMsINITIAL FORM
tSOLATED FORMsMEDIAL FORMqINs FINAL FORMtISOLATED FORMtWITH INVERTED V ABOVE
iIGATURE AIN WITH ALEF MAKSURA FINAL FORMzALEF MAKSURA ISOLATED FORMzJEEM INITIAL FORM
zJEEM ISOLATED FORMzJEEM WITH MEEM FINAL FORMzJEEM WITH MEEM INITIAL FORMzMEEM INITIAL FORM
zMEEM ISOLATED FORMzMEEM WITH ALEF MAKSURA FINAL FORMzMEEM WITH MEEM FINAL FORM
zMEEM WITH MEEM INITIAL FORMzMEEM WITH YEH FINAL FORMzYEH FINAL FORMzYEH ISOLATED FORM
rKBAR ISOLATED FORMrLAYHAA AS-SALAAMvE ISOLATED FORMvI AS-SALAAMz-SALAATU WAS-SALAAMwM AS-SALAAM
xAA AS-SALAAMsEF MAKSURA WITH SUPERSCRIPT ALEF FINAL FORMzURA WITH SUPERSCRIPT ALEF ISOLATED FORM
vWITH FATHATAN FINAL FORMz FATHATAN ISOLATED FORMsLAH ISOLATED FORMrZZA WA JALL
qBEH WITH ALEF MAKSURA FINAL FORMzALEF MAKSURA ISOLATED FORMzHAH INITIAL FORMzHAH ISOLATED FORM
zHAH WITH YEH FINAL FORMzHEH INITIAL FORMzHEH MEDIAL FORMzJEEM INITIAL FORMzJEEM ISOLATED FORM
zKHAH INITIAL FORMzKHAH ISOLATED FORMzKHAH WITH YEH FINAL FORMzMEEM FINAL FORMzMEEM INITIAL FORM
zMEEM ISOLATED FORMzMEEM MEDIAL FORMzNOON FINAL FORMzREH FINAL FORMzYEH FINAL FORM
zYEH ISOLATED FORMzZAIN FINAL FORMrISMILLAH AR-RAHMAN AR-RAHEEMqDAD WITH ALEF MAKSURA FINAL FORM
zALEF MAKSURA ISOLATED FORMzHAH INITIAL FORMzHAH ISOLATED FORMzHAH WITH ALEF MAKSURA FINAL FORM
zHAH WITH YEH FINAL FORMzJEEM INITIAL FORMzJEEM ISOLATED FORMzKHAH INITIAL FORMzKHAH ISOLATED FORM
zKHAH WITH MEEM FINAL FORMzKHAH WITH MEEM INITIAL FORMzMEEM INITIAL FORMzMEEM ISOLATED FORM
zREH FINAL FORMzREH ISOLATED FORMzYEH FINAL FORMzYEH ISOLATED FORMqFEH WITH ALEF MAKSURA FINAL FORM
zALEF MAKSURA ISOLATED FORMzHAH INITIAL FORMzHAH ISOLATED FORMzJEEM INITIAL FORMzJEEM ISOLATED FORM
zKHAH INITIAL FORMzKHAH ISOLATED FORMzKHAH WITH MEEM FINAL FORMzKHAH WITH MEEM INITIAL FORM
zMEEM INITIAL FORMzMEEM ISOLATED FORMzMEEM WITH YEH FINAL FORMzYEH FINAL FORMzYEH ISOLATED FORM
qGHAIN WITH ALEF MAKSURA FINAL FORMzH ALEF MAKSURA ISOLATED FORMzH JEEM INITIAL FORM
zH JEEM ISOLATED FORMzH MEEM INITIAL FORMzH MEEM ISOLATED FORMzH MEEM WITH ALEF MAKSURA FINAL FORM
zH MEEM WITH MEEM FINAL FORMzH MEEM WITH YEH FINAL FORMzH YEH FINAL FORMzH YEH ISOLATED FORM
qHAH WITH ALEF MAKSURA FINAL FORMzALEF MAKSURA ISOLATED FORMzJEEM INITIAL FORMzJEEM ISOLATED FORM
zJEEM WITH YEH FINAL FORMzMEEM INITIAL FORMzMEEM ISOLATED FORMzMEEM WITH ALEF MAKSURA FINAL FORM
zMEEM WITH YEH FINAL FORMzYEH FINAL FORMzYEH ISOLATED FORMrEH WITH ALEF MAKSURA ISOLATED FORM
zJEEM INITIAL FORMzJEEM ISOLATED FORMzMEEM INITIAL FORMzMEEM ISOLATED FORM
zMEEM WITH JEEM INITIAL FORMzMEEM WITH MEEM INITIAL FORMzSUPERSCRIPT ALEF INITIAL FORM
zYEH ISOLATED FORMqJALLAJALALOUHOUrEEM WITH ALEF MAKSURA FINAL FORMz ALEF MAKSURA ISOLATED FORM
z HAH INITIAL FORMz HAH ISOLATED FORMz HAH WITH ALEF MAKSURA FINAL FORMz HAH WITH YEH FINAL FORM
z MEEM INITIAL FORMz MEEM ISOLATED FORMz MEEM WITH ALEF MAKSURA FINAL FORM
z MEEM WITH HAH FINAL FORMz MEEM WITH HAH INITIAL FORMz MEEM WITH YEH FINAL FORMz YEH FINAL FORM
z YEH ISOLATED FORMqKAF WITH ALEF FINAL FORMzALEF ISOLATED FORMzALEF MAKSURA FINAL FORM
zALEF MAKSURA ISOLATED FORMzHAH INITIAL FORMzHAH ISOLATED FORMzJEEM INITIAL FORMzJEEM ISOLATED FORM
zKHAH INITIAL FORMzKHAH ISOLATED FORMzLAM FINAL FORMzLAM INITIAL FORMzLAM ISOLATED FORM
zLAM MEDIAL FORMzMEEM FINAL FORMzMEEM INITIAL FORMzMEEM ISOLATED FORMzMEEM MEDIAL FORM
zMEEM WITH MEEM FINAL FORMzMEEM WITH MEEM INITIAL FORMzMEEM WITH YEH FINAL FORMzYEH FINAL FORM
zYEH ISOLATED FORMrHAH WITH ALEF MAKSURA FINAL FORMz ALEF MAKSURA ISOLATED FORMz HAH ISOLATED FORM
z JEEM INITIAL FORMz JEEM ISOLATED FORMz MEEM INITIAL FORMz MEEM ISOLATED FORMz YEH FINAL FORM
z YEH ISOLATED FORMqLAM WITH ALEF FINAL FORMzALEF ISOLATED FORMzALEF MAKSURA FINAL FORM
zALEF MAKSURA ISOLATED FORMzALEF WITH HAMZA ABOVE FINAL FORMzALEF WITH HAMZA ABOVE ISOLATED FORM
zALEF WITH HAMZA BELOW FINAL FORMzALEF WITH HAMZA BELOW ISOLATED FORM
zALEF WITH MADDA ABOVE FINAL FORMzALEF WITH MADDA ABOVE ISOLATED FORMzHAH INITIAL FORM
zHAH ISOLATED FORMzHAH WITH ALEF MAKSURA FINAL FORMzHAH WITH MEEM FINAL FORM
zHAH WITH MEEM INITIAL FORMzHAH WITH YEH FINAL FORMzHEH INITIAL FORMzJEEM INITIAL FORM
zJEEM ISOLATED FORMzJEEM WITH JEEM FINAL FORMzJEEM WITH JEEM INITIAL FORMzJEEM WITH MEEM FINAL FORM
zJEEM WITH MEEM INITIAL FORMzJEEM WITH YEH FINAL FORMzKHAH INITIAL FORMzKHAH ISOLATED FORM
zKHAH WITH MEEM FINAL FORMzKHAH WITH MEEM INITIAL FORMzMEEM FINAL FORMzMEEM INITIAL FORM
zMEEM ISOLATED FORMzMEEM MEDIAL FORMzMEEM WITH HAH FINAL FORMzMEEM WITH HAH INITIAL FORM
zMEEM WITH YEH FINAL FORMzYEH FINAL FORMzYEH ISOLATED FORMqMEEM WITH ALEF FINAL FORM
z ALEF MAKSURA ISOLATED FORMz HAH INITIAL FORMz HAH ISOLATED FORMz HAH WITH JEEM INITIAL FORM
z HAH WITH MEEM INITIAL FORMz HAH WITH YEH FINAL FORMz JEEM INITIAL FORMz JEEM ISOLATED FORM
z JEEM WITH HAH INITIAL FORMz JEEM WITH KHAH INITIAL FORMz JEEM WITH MEEM INITIAL FORM
z JEEM WITH YEH FINAL FORMz KHAH INITIAL FORMz KHAH ISOLATED FORMz KHAH WITH JEEM INITIAL FORM
z KHAH WITH MEEM INITIAL FORMz KHAH WITH YEH FINAL FORMz MEEM FINAL FORMz MEEM INITIAL FORM
z MEEM ISOLATED FORMz MEEM WITH YEH FINAL FORMz YEH ISOLATED FORMrOHAMMAD ISOLATED FORM
qNOON WITH ALEF MAKSURA FINAL FORMz ALEF MAKSURA ISOLATED FORMz HAH INITIAL FORMz HAH ISOLATED FORM
z HAH WITH ALEF MAKSURA FINAL FORMz HAH WITH MEEM INITIAL FORMz HAH WITH YEH FINAL FORM
z HEH INITIAL FORMz HEH MEDIAL FORMz JEEM INITIAL FORMz JEEM ISOLATED FORM
z JEEM WITH ALEF MAKSURA FINAL FORMz JEEM WITH HAH FINAL FORMz JEEM WITH HAH INITIAL FORM
z JEEM WITH MEEM FINAL FORMz JEEM WITH MEEM INITIAL FORMz JEEM WITH YEH FINAL FORM
z KHAH INITIAL FORMz KHAH ISOLATED FORMz MEEM FINAL FORMz MEEM INITIAL FORMz MEEM ISOLATED FORM
z MEEM MEDIAL FORMz MEEM WITH ALEF MAKSURA FINAL FORMz MEEM WITH YEH FINAL FORMz NOON FINAL FORM
z REH FINAL FORMz YEH FINAL FORMz YEH ISOLATED FORMz ZAIN FINAL FORM
qQAF WITH ALEF MAKSURA FINAL FORMzALEF MAKSURA ISOLATED FORMzHAH INITIAL FORMzHAH ISOLATED FORM
zMEEM INITIAL FORMzMEEM ISOLATED FORMzMEEM WITH HAH FINAL FORMzMEEM WITH HAH INITIAL FORM
zMEEM WITH MEEM FINAL FORMzMEEM WITH YEH FINAL FORMzYEH FINAL FORMzYEH ISOLATED FORM
sLA USED AS KORANIC STOP SIGN ISOLATED FORMrUDDISA SIRRAHqRADI ALLAAHU ANHzAHU ANHAAzAHU ANHUM
zAHU ANHUMAAzAHU ANHUNNAsHIMAHU ALLAAHyM ALLAAHsSOUL ISOLATED FORM
rEH WITH SUPERSCRIPT ALEF ISOLATED FORMqSAD WITH ALEF MAKSURA FINAL FORMzALEF MAKSURA ISOLATED FORM
zHAH INITIAL FORMzHAH ISOLATED FORMzHAH WITH HAH FINAL FORMzHAH WITH HAH INITIAL FORM
zHAH WITH YEH FINAL FORMzKHAH INITIAL FORMzMEEM INITIAL FORMzMEEM ISOLATED FORM
zMEEM WITH MEEM FINAL FORMzMEEM WITH MEEM INITIAL FORMzREH FINAL FORMzREH ISOLATED FORM
zYEH FINAL FORMzYEH ISOLATED FORMsLAAMUHU ALAYNAAuM ISOLATED FORMtLA ISOLATED FORM
wUSED AS KORANIC STOP SIGN ISOLATED FORMvLLAAHU ALAYHI WA-AALIHyHOU ALAYHE WASALLAM
zU ALAYHI WAAALIHEE WA-SALLAMrEEN WITH ALEF MAKSURA FINAL FORMz ALEF MAKSURA ISOLATED FORM
z HAH INITIAL FORMz HAH ISOLATED FORMz HAH MEDIAL FORMz HAH WITH JEEM INITIAL FORM
z HEH INITIAL FORMz HEH MEDIAL FORMz JEEM INITIAL FORMz JEEM ISOLATED FORMz JEEM MEDIAL FORM
z JEEM WITH ALEF MAKSURA FINAL FORMz JEEM WITH HAH INITIAL FORMz KHAH INITIAL FORM
z KHAH ISOLATED FORMz KHAH MEDIAL FORMz KHAH WITH ALEF MAKSURA FINAL FORMz KHAH WITH YEH FINAL FORM
z MEEM INITIAL FORMz MEEM ISOLATED FORMz MEEM MEDIAL FORMz MEEM WITH HAH FINAL FORM
z MEEM WITH HAH INITIAL FORMz MEEM WITH JEEM INITIAL FORMz MEEM WITH MEEM FINAL FORM
z MEEM WITH MEEM INITIAL FORMz REH FINAL FORMz REH ISOLATED FORMz YEH FINAL FORMz YEH ISOLATED FORM
rHADDA WITH DAMMA ISOLATED FORMzTH DAMMA MEDIAL FORMzTH DAMMATAN ISOLATED FORM
zTH FATHA ISOLATED FORMzTH FATHA MEDIAL FORMzTH KASRA ISOLATED FORMzTH KASRA MEDIAL FORM
zTH KASRATAN ISOLATED FORMzTH SUPERSCRIPT ALEF ISOLATED FORMsEEN WITH ALEF MAKSURA FINAL FORM
zH ALEF MAKSURA ISOLATED FORMzH HAH FINAL FORMzH HAH INITIAL FORMzH HAH ISOLATED FORM
zH HAH MEDIAL FORMzH HAH WITH MEEM FINAL FORMzH HAH WITH MEEM INITIAL FORM
zH HAH WITH YEH FINAL FORMzH HEH INITIAL FORMzH HEH MEDIAL FORMzH JEEM FINAL FORM
zH JEEM INITIAL FORMzH JEEM ISOLATED FORMzH JEEM MEDIAL FORMzH JEEM WITH YEH FINAL FORM
zH KHAH FINAL FORMzH KHAH INITIAL FORMzH KHAH ISOLATED FORMzH KHAH MEDIAL FORMzH MEEM FINAL FORM
zH MEEM INITIAL FORMzH MEEM ISOLATED FORMzH MEEM MEDIAL FORMzH MEEM WITH KHAH FINAL FORM
zH MEEM WITH KHAH INITIAL FORMzH MEEM WITH MEEM FINAL FORMzH MEEM WITH MEEM INITIAL FORM
zH REH FINAL FORMzH REH ISOLATED FORMzH YEH FINAL FORMzH YEH ISOLATED FORMrUBHAANAHU WA TAAALAA
qTABAARAKA WA-TAAALAAsH WITH ALEF MAKSURA FINAL FORMzALEF MAKSURA ISOLATED FORMzHAH INITIAL FORM
zHAH ISOLATED FORMzMEEM INITIAL FORMzMEEM ISOLATED FORMzMEEM MEDIAL FORMzMEEM WITH HAH FINAL FORM
zMEEM WITH HAH INITIAL FORMzMEEM WITH MEEM INITIAL FORMzMEEM WITH YEH FINAL FORMzYEH FINAL FORM
zYEH ISOLATED FORMrEH WITH ALEF MAKSURA FINAL FORMzALEF MAKSURA ISOLATED FORMzHAH INITIAL FORM
zHAH ISOLATED FORMzHAH WITH JEEM FINAL FORMzHAH WITH JEEM INITIAL FORMzHAH WITH MEEM INITIAL FORM
zHEH INITIAL FORMzHEH MEDIAL FORMzJEEM INITIAL FORMzJEEM ISOLATED FORM
zJEEM WITH ALEF MAKSURA FINAL FORMzJEEM WITH MEEM INITIAL FORMzJEEM WITH YEH FINAL FORM
zKHAH INITIAL FORMzKHAH ISOLATED FORMzKHAH WITH ALEF MAKSURA FINAL FORMzKHAH WITH MEEM INITIAL FORM
zKHAH WITH YEH FINAL FORMzMEEM FINAL FORMzMEEM INITIAL FORMzMEEM ISOLATED FORMzMEEM MEDIAL FORM
zMEEM WITH ALEF MAKSURA FINAL FORMzMEEM WITH HAH INITIAL FORMzMEEM WITH JEEM INITIAL FORM
zMEEM WITH KHAH INITIAL FORMzMEEM WITH YEH FINAL FORMzNOON FINAL FORMzREH FINAL FORMzYEH FINAL FORM
zYEH ISOLATED FORMzZAIN FINAL FORMrHAL WITH SUPERSCRIPT ALEF ISOLATED FORM
sEH WITH ALEF MAKSURA FINAL FORMz ALEF MAKSURA ISOLATED FORMz HEH MEDIAL FORMz JEEM ISOLATED FORM
z MEEM FINAL FORMz MEEM INITIAL FORMz MEEM ISOLATED FORMz MEEM MEDIAL FORMz NOON FINAL FORM
z REH FINAL FORMz YEH FINAL FORMz YEH ISOLATED FORMz ZAIN FINAL FORM
qUIGHUR KIRGHIZ YEH WITH HAMZA ABOVE WITH ALEF MAKSURA FINAL FORM
zRGHIZ YEH WITH HAMZA ABOVE WITH ALEF MAKSURA INITIAL FORM
zRGHIZ YEH WITH HAMZA ABOVE WITH ALEF MAKSURA ISOLATED FORMqWASALLAM ISOLATED FORM
qYEH WITH ALEF MAKSURA FINAL FORMzALEF MAKSURA ISOLATED FORMzHAH INITIAL FORMzHAH ISOLATED FORM
zHAH WITH YEH FINAL FORMzHAMZA ABOVE WITH AE FINAL FORMzHAMZA ABOVE WITH AE ISOLATED FORM
zHAMZA ABOVE WITH ALEF FINAL FORMzHAMZA ABOVE WITH ALEF ISOLATED FORM
zHAMZA ABOVE WITH ALEF MAKSURA FINAL FORMzHAMZA ABOVE WITH ALEF MAKSURA ISOLATED FORM
zHAMZA ABOVE WITH E FINAL FORMzHAMZA ABOVE WITH E INITIAL FORMzHAMZA ABOVE WITH E ISOLATED FORM
zHAMZA ABOVE WITH HAH INITIAL FORMzHAMZA ABOVE WITH HAH ISOLATED FORM
zHAMZA ABOVE WITH HEH INITIAL FORMzHAMZA ABOVE WITH HEH MEDIAL FORM
zHAMZA ABOVE WITH JEEM INITIAL FORMzHAMZA ABOVE WITH JEEM ISOLATED FORM
zHAMZA ABOVE WITH KHAH INITIAL FORMzHAMZA ABOVE WITH MEEM FINAL FORM
zHAMZA ABOVE WITH MEEM INITIAL FORMzHAMZA ABOVE WITH MEEM ISOLATED FORM
zHAMZA ABOVE WITH MEEM MEDIAL FORMzHAMZA ABOVE WITH NOON FINAL FORMzHAMZA ABOVE WITH OE FINAL FORM
zHAMZA ABOVE WITH OE ISOLATED FORMzHAMZA ABOVE WITH REH FINAL FORMzHAMZA ABOVE WITH U FINAL FORM
zHAMZA ABOVE WITH U ISOLATED FORMzHAMZA ABOVE WITH WAW FINAL FORM
zHAMZA ABOVE WITH WAW ISOLATED FORMzHAMZA ABOVE WITH YEH FINAL FORM
zHAMZA ABOVE WITH YEH ISOLATED FORMzHAMZA ABOVE WITH YU FINAL FORM
zHAMZA ABOVE WITH YU ISOLATED FORMzHAMZA ABOVE WITH ZAIN FINAL FORMzHEH INITIAL FORM
zHEH MEDIAL FORMzJEEM INITIAL FORMzJEEM ISOLATED FORMzJEEM WITH YEH FINAL FORMzKHAH INITIAL FORM
zKHAH ISOLATED FORMzMEEM FINAL FORMzMEEM INITIAL FORMzMEEM ISOLATED FORMzMEEM MEDIAL FORM
zMEEM WITH MEEM FINAL FORMzMEEM WITH MEEM INITIAL FORMzMEEM WITH YEH FINAL FORMzNOON FINAL FORM
zREH FINAL FORMzYEH FINAL FORMzYEH ISOLATED FORMzZAIN FINAL FORMqZAH WITH MEEM INITIAL FORM
zMEEM ISOLATED FORMzMEEM MEDIAL FORMhMADDA WAAJIBmH ABOVEjRK NOON GHUNNAmSIDEWAYS NOON GHUNNA
jTHEMATICAL AINvLEFuBEHuDADwLvOTLESS BEHzSS FEHzSS NOONzSS QAFwUBLE-STRUCK AINzE-STRUCK BEH
zE-STRUCK DADzE-STRUCK DALzE-STRUCK FEHzE-STRUCK GHAINzE-STRUCK HAHzE-STRUCK JEEMzE-STRUCK KHAH
zE-STRUCK LAMzE-STRUCK MEEMzE-STRUCK NOONzE-STRUCK QAFzE-STRUCK REHzE-STRUCK SADzE-STRUCK SEEN
zE-STRUCK SHEENzE-STRUCK TAHzE-STRUCK TEHzE-STRUCK THALzE-STRUCK THEHzE-STRUCK WAWzE-STRUCK YEH
zE-STRUCK ZAHzE-STRUCK ZAINuFEHuGHAINuHAHuINITIAL AINzAL BEHzAL DADzAL FEHzAL GHAINzAL HAHzAL HEH
zAL JEEMzAL KAFzAL KHAHzAL LAMzAL MEEMzAL NOONzAL QAFzAL SADzAL SEENzAL SHEENzAL TEHzAL THEHzAL YEH
uJEEMuKAFvHAHuLAMvOOPED AINzD ALEFzD BEHzD DADzD DALzD FEHzD GHAINzD HAHzD HEHzD JEEMzD KHAHzD LAM
zD MEEMzD NOONzD QAFzD REHzD SADzD SEENzD SHEENzD TAHzD TEHzD THALzD THEHzD WAWzD YEHzD ZAHzD ZAIN
uMEEMuNOONuOPERATOR HAH WITH DALzTOR MEEM WITH HAH WITH TATWEELuQAFuREHuSADvEENvHEENvTRETCHED AIN
zCHED BEHzCHED DADzCHED DOTLESS BEHzCHED DOTLESS FEHzCHED FEHzCHED GHAINzCHED HAHzCHED HEH
zCHED JEEMzCHED KAFzCHED KHAHzCHED MEEMzCHED NOONzCHED QAFzCHED SADzCHED SEENzCHED SHEENzCHED TAH
zCHED TEHzCHED THEHzCHED YEHzCHED ZAHuTAHwILED AINzD DADzD DOTLESS NOONzD DOTLESS QAFzD GHAINzD HAH
zD JEEMzD KHAHzD LAMzD NOONzD QAFzD SADzD SEENzD SHEENzD YEHvEHvHALwEHuWAWuYEHuZAHwIN
hNUMBER MARK ABOVEoSIGNhOPEN DAMMATANmFATHATANmKASRATANhPERCENT SIGNiIASTRE MARK ABOVE
iLACE OF SAJDAHiOETIC VERSE SIGNjUND MARK ABOVEhQUESTION MARKhRAISED ROUND DOTjYiEVERSED DAMMA
iIGHT ARROWHEAD ABOVEzOVE WITH DOTxBELOWiOUNDED HIGH STOP WITH FILLED CENTREhSEMICOLONiHADDA
n ISOLATED FORMoMEDIAL FORMiIGN ALAYHE ASSALLAMmMISRAmRADI ALLAHOU ANHUoHMATULLAH ALAYHEmSAFHA
oLLALLAHOU ALAYHE WASSALLAMoMVAToNAHnINDHI AMPERSANDtPOSTPOSITION MENmTAKHALLUSiMALL DAMMA
nFARSI YEHpTHAnHIGH AINsDOTLESS HEAD OF KHAHsFARSI YEHtOOTNOTE MARKERsJEEMsLAM ALEF
tIGATURE ALEF WITH LAM WITH YEHzE QAF WITH LAM WITH ALEF MAKSURAzE SAD WITH LAM WITH ALEF MAKSURA
sMADDAtEEM INITIAL FORMySOLATED FORMsNOONw WITH KASRAsQAFsROUNDED ZEROsSADtEENtIGN SAFHAsTAH
tHREE DOTSsUPRIGHT RECTANGULAR ZEROsWAWtORD AL-JUZyN-NISFyR-RUByS-SAJDAyTH-THALATHAxQIFxSAHzKTA
xWAQFAsYEHv BARREE WITH TWO DOTS BELOWsZAHuINnKASRAnLOW MEEMrNOON WITH KASRArSEENrWAWsORD IMAALA
xSHMAAMwTASHEELnWAWnYEHiTART OF RUB EL HIZBiUBSCRIPT ALEFjKUNm BELOWnISOLATED FORMnMEDIAL FORM
jPERSCRIPT ALEF MOKHASSASiYMBOL DOT ABOVEsBELOWqUBLE VERTICAL BAR BELOWoFOUR DOTS ABOVEyBELOWoRING
oSMALL TAH ABOVEyBELOWoTHREE DOTS ABOVEzBELOWzPOINTING DOWNWARDS ABOVEzPOINTING DOWNWARDS BELOW
pWO DOTS ABOVExBELOWxVERTICALLY ABOVEzRTICALLY BELOWoWASLA ABOVEhTAIL FRAGMENTjTWEEL
o WITH FATHATAN ABOVEuOVERSTRUCK HAMZAzTRUCK WAWuTWO DOTS BELOWiHOUSANDS SEPARATORiONE LOOP ABOVE
rBELOWmONE DOT ABOVEuBELOWmTWO DOTS ABOVEvBELOWiRIPLE DOT PUNCTUATION MARKiURNED DAMMA BELOW
hVERTICAL TAILiOWEL SIGN DOT BELOWsINVERTED SMALL V ABOVEsSMALL V ABOVEhWAVY HAMZA BELOWhZWARAKAY
g-INDIC CUBE ROOTnDIGIT EIGHTtFIVEuOURtNINEtONEtSEVENuIXtTHREEuWOtZEROnFOURTH ROOTnPER MILLE SIGN
rTEN THOUSAND SIGNcCcIEScMENIAN ABBREVIATION MARKkPOSTROPHEjCAPITAL LETTER AYByBENyCAzHAzHEHzOyDA
yECHzHzTyFEHyGHADzIMyHOyINIyJAzHEHyKEHzENyLIWNyMENyNOWyOHyPEHzIWRyRAzEHySEHzHAyTIWNzOyVEWzOyXEHyYI
zIWNyZAzHEkOMMAjDRAM SIGNjEMPHASIS MARKkXCLAMATION MARKjFULL STOPjHYPHEN
jMODIFIER LETTER LEFT HALF RINGjQUESTION MARKjSMALL LETTER AYBwBENwCAxHAyEHxOwDAwECHxHxTwFEHwGHAD
xIMwHOwINIwJAxHEHwKEHyNwLIWNwMENwNOWwOHwPEHxIWRwRAxEHwSEHxHAwTIWNxOxURNED AYBwVEWxOwXEHwYI
y WITH STROKEyWNwZAxHEqIGATURE ECH YIWNyMEN ECHzEN INIzEN NOWzEN XEHyVEW NOW
cROW POINTING DOWNWARDS THEN CURVING LEFTWARDSzTHEN CURVING RIGHTWARDS
pRIGHTWARDS THEN CURVING DOWNWARDSz THEN CURVING SOUTH WESTz THEN CURVING UPWARDS
pUPWARDS THEN NORTH WESTfHEAD-SHAPED POINTERcTICULATED LORRYeST PALETTEbSCENDING NODEdIA SYMBOL
cSERTIONcTERISKi OPERATORhMdONISHED FACEdRAEAeONOMICAL SYMBOL FOR URANUScYMPTOTICALLY EQUAL TO
bTHLETIC SHOEcOM SYMBOLbUBERGINEcSTRAL SIGNcTO RICKSHAWeMATED TELLER MACHINEfOBILE
bVESTAN ABBREVIATION MARKiLETTER AqArNrOqErEqNqOpBEqHEpCEpDEqHEpEqEpFEpGEqGEqHEpHEqMEpIqIpJEpKEpLE
pMEpNEqGErVErYEqNEqYEpOqOpPEpREpSEqHErYEqSHEpTEqHEqTEpUqUpVEpXEqVEqYEpYEqYEpZEqHEcOCADObXEaBABY
e ANGELfBOTTLEfCHICKfSYMBOLcCK OF ENVELOPEfWITH LEFTWARDS ARROW ABOVE
e-TILTED SHADOWED WHITE RIGHTWARDS ARROWeSLANTED SOUTH ARROW WITH HOOKED TAILzITH HORIZONTAL TAIL
fPACEdONdTRIAN CAMELcDGERdMINTON RACQUET AND SHUTTLECOCKcGELdGAGE CLAIMdUETTE BREAD
cLINESE ADEG ADEGjCARIK PAMUNGKAHrRERENpSIKIjDIGIT EIGHTpFIVEqOURpNINEpONEpSEVENqIXpTHREEqWOpZERO
jLETTER AIKARArKARAv TEDUNGrRCHAIC JNYArSYURA SASAKqBAs KEMBANGqCAs LACAqDAs MADUuURDA ALPAPRANA
zMAHAPRANAqEF SASAKrKARAqGAs GORAqHAqIKARAv TEDUNGqJAs JERAqKAs MAHAPRANAsF SASAKrHOT SASAKqLA
s LENGAy TEDUNGqMAqNAs RAMBATrGArYAqOKARAv TEDUNGqPAs KAPALqRAs REPAx TEDUNGqSAs SAGAvPAqTAs LATIK
tMURDA MAHAPRANAtTAWArZIR SASAKqUKARAv TEDUNGqVE SASAKqWAqYAqZAL SASAK
jMUSICAL SYMBOL COMBINING BENDEzOMBINING ENDEPzOMBINING GONGzOMBINING JEGOGANzOMBINING KEMPLI
zOMBINING KEMPLI WITH JEGOGANzOMBINING KEMPULzOMBINING KEMPUL WITH JEGOGANzOMBINING TEGEHyDAENG
zAINGzANGzANG GEDEzANG SURANGzENGzEUNGzINGzONGzUNGyLEFT-HAND CLOSED PLAKzEFT-HAND CLOSED PLUK
zEFT-HAND OPEN PANGzEFT-HAND OPEN PINGzEFT-HAND OPEN PUNGyRIGHT-HAND CLOSED TAK
zIGHT-HAND CLOSED TUKzIGHT-HAND OPEN DAGzIGHT-HAND OPEN DUGjPAMADAp LANTANGmENENGlNTIo LANTANG
jSIGN BISAHoCECEKoREREKANoSURANGoULU CANDRAsRICEMjVOWEL SIGN LA LENGAzNGA TEDUNGuPEPETz TEDUNG
uRA REPAzPA TEDUNGuSUKUy ILUTuTALINGzG REPAzG REPA TEDUNGzG TEDUNGvEDUNGuULUx SARIjWINDUdL OF YARN
eET SHOESeOONh-SPOKED ASTERISKfT BOLD SCRIPT XjXk WITH BALLOTrOLD CHECKvSCRIPT XqCHECKqLIGHT X
qSCRIPT XqXhSCRIPT XhXcMUM COLONiMBINING MARK KOQNDONvTUKWENTISjMAgFULL STOPgLETTER AnEEnFAAMAEoEE
oOMoUnInKAoENpTpUXoIoOpGHOMpVUUoPAoUoYEEnLAoEEEEoIoOQoUnMoAoBAApENoEEEEpNoIoOoUnNAoDAAoGApGApKWAEN
oIoJAEMpEEpUAEoSHAoTEEpUUoUpAEoYInOnPAoEEpUXoHASE-A FIRIvGBIEE FONwHEUAEGHEUAEzAERAEvKAFAxQwET
xUKEUTNDAwPOQwUOQvLAPAQwET KUTwOMMAEwUxAEPvMAEKEUPyMzBGBIEEzKPENzVEUXyNYIySIxNSUAExP PIEETwBANYIyQ
wEUNJOMNDEUQwGBASAwON NGGEUAETxOMEUTzPUQwVEUAENGAMvNAA MFONxQwDA LEERAEWAyANGGEUAETwENwGANGUxGEN
xKUE MFONzENZEUMwIKAwJAMwKAARAExINDIwSHAyIEEwTAPz MFAAz NTAAxOQPENwYETxIyT MONGKEUAEQwZA MFON
xUN MEUTvPA LEERAEWAxAMyRAExMSHAExSHAEwETwON MFON PIPAEMBAzMFON PIPAEMGBIEEzPA NJI PIPAEMBA
zPA NJI PIPAEMGBIEEwUPvROMvSEUNYAMwHINDA PA NJIyRAExOQ NSHUT YUMxUENSHUETyMwISAwONJAMxQxTwUUvTEUAEN
yTEUWENwITA MFONwU MAEMBAxAEPvU YUQ NAEwNKNOWNvVEEtB FEExUXvGHEUGHENzGHEUAEMvKAMwEUAEMyPUQyYEUX
wIEEMxQvLAANAExM NSHUT NYAMwETwOM NTEUMvMAx NJEUAENAzJUQAwBA MAELEEyARAExEURIxIT MBAAKETxUOQwEUQ
yT NGGEETwFIYAQxON TEUAEQwONTIEENvNDU NJAAwGGAAMyEU MBUyUOQzOQ LARGExKINDI MVOPxOMwSENxHUET
wTIEE SHEUOQwYAEMAExI NTEUMvPARUMwEESHIwITwUNGAAMvSAKEUAEwET TUwHET NJAQyUAEQTUwIEEwUEvTAAM
wU MAEMGBIEEyNSIEEvVEUMvWUAETvYAFU LEERAEWAwEURAEtC BUNGvFUEvGBAYIwHAPyRAEvKAAwEN FATIGUEzLAWxT
xUKAQyMySEUXzHEUAEPwPARAQwUOP NKAARAExTvLAMxPwIQwUvMA KEUAERIyNSIEExEMBAySIwBAA CABBAGE-TREE
z PICKETyNYIxEEKEETyRAEyUMzXxIyRIEENyTxUAEMyEwGBASAQwIEEwUAEvNANSANAQxQwDAMyPxEUAEREEzTxIDAxOMBU
wGAQxGENyUzAEN NYAMzEETzMzONxKAQyUE MAEMBAxOMwJAEMyMxEEEEyUXxUEQwSAxEUAENxHAQxOMxUNyOT NGOMwTAAxEN
yUNGBAxU MBITwYIR MKPARAQ MEUNwZAxEUMvPENwINxRIEENvRUvSETFONxUXwHIQxUEQwUAETvTAASHAEwETxUTEUX
wITA YUEyUAEPvVEUAEPENyXvWANGKUOQwUPvYAAwEUQwU MUOMAExMxWOQtD FAAwEUFEUAETvGHAAxEUAEvKETxUAETMEUNyM
yOT MBUAEyPwUxNxOMxQwWAETwYEEvLEEEExTxUAEPyMwIEEwOQwUMvMwAENJETxLEERIwBAAz SEVENxUOwEEEExUNyTwFEUAE
zTxIEExOyNwGBEUNyIEEyOFUMwONIwUwVOPvNDAMxEEyUXxONwGGAAMzAMAEzPyEUXyUOMyWAENxKAPyEUAEQzURIyIEEyUN
yYEEwIwJAPxEUAEMzTxIyEExUEQwSHEEyUTxIEEPzETxUMwTEEyUMxUUwUwYAMxETxIxUEvPAPwEExUTAEwIPwUQxUTvRAEM
wEN MUCHzOLDwIIvSAPxQwEUAEQwHEEyUAEzXxIIxOQxUwOTwUAExExUvTAEwEEEExUAENyNyTwIwOQwUxOTvWAPwUAEN
vYAEMMAEwENwUOMyPxWOQtE AvFAxQwEEwOMwU CALLyIyREMEDYxEyTvGBETyUXwHAAMAExETyUAEzNzXxOMvIvKETxUAEyXwI
wOwPEUXwUETxOPxTvLAAMxPxQwEUAEMwOMxONyTxQwUvMAxEyMxPxQwBEEyUMwENwFEUQwGBAyENwIxEEwONwUAEwVIvNAxE
wDAA MY HOUSEz SOFTNESSyPxIAQyQxUNwGAxEUREUTxGEEEEzUAEzUAETyUAESHAE NYAMzPzRAExKAzAMIyEUAEMzUXyUMzP
xOPyQxUAEzETwJAEMLIxEEz EPOCHyUXwKOMwSHIEEyUEzOPwTAPxUMwYI BETWEENzCLEAVERwZAQxUQvOvPA PEOPLEzLURAL
xAyMwEEMxUTyXwIxEEQyTwOxONwUxAEyQxExMvRAExQwEUXwIMGBAvSAAwEExTwHEUAEQxIQxOyQwOMwUAENvTAAyQxEN NTEUM
xMxQwENxUyAEQwOOyNxQwUAExMyAEvVEExUAEwOMvWEUXwUExOvYAPwEUAEzETyMyXwIEExTwOQ COVERzSWIMMINGwUAENxEQ
xNxQtF EEvFOMvKAwENxTwOwPAwUwYEEvLAwIwOQvMwAwBAAxENwEEEEwOvNDAAwGGAxKWAENwIwJAEMxUAEwSHAwTEEwUxAE
wYIvPEExUXwUAEvREExNxUXwIEExIwUvSAMBAwEUXwHIIxOxUwIwUUvTAAxEwETvUvVUEQvWAwUEvYAwOQoIoUAEpEnRAEoEEpN
pUXoIEEpIoUnSAMBAoEUXoHEUXpIIpOpUoIoUUnTAApEoENpToInUnWAoUEnYAoOQoUQgNJAEMLIgQUESTION MARK
gSEMICOLONcNANAdJOdKeNOTE WITH DOLLAR SIGNoEURO SIGNoPOUND SIGNoYEN SIGNcR CHARTeOF SOAPdBER POLE
cSEBALLdKETgBALL AND HOOPdSA VAH COMBINING HIGH TONEy-LOW TONEuLOW TONEx-MID TONEuMID TONE
kFULL STOPkLETTER ArBArCErDHIIsOrEsEsNNIrFArGAHsBUrHWAHrIrJOrKAsPAHrMBErOsOrPArSErTOrUsWUrVUrWAtDDA
rYEINsIErZOcTdAK CONSONANT SIGN HvNGgLETTER AnBAnCAnDAnGAnHAnInJAnKARO BAnLAnMApNDAILING HAyNAySA
oBAnNAoDAoGAoORTHERN TAoYAnPApKPAK WAnRAnSAoIMALUNGUN AyGAyHAyLAyMAyPAyRAySAyWAyYAoOUTHERN TAnUnWA
nYAgPANGOLATjONGONANgSIGN TOMPIhYMBOL BINDU JUDULtNA METEKtPANGOLATuINARBORASgVOWEL SIGN EsErI
rKARO IwOrOrPAKPAK ErUs FOR SIMALUNGUN SAdHeTUBdTERYbEACH WITH UMBRELLAdMED ASCENDING MUSICAL NOTES
hDESCENDING MUSICAL NOTEShEIGHTH NOTEShSIXTEENTH NOTESdNSdR FACEeDED PERSONdTING HEARTdVERcCAUSEcD
cER MUGdTLEcLdLe PEPPERfSYMBOLfWITH CANCELLATION STROKEeHOP BELLcNGALI ABBREVIATION SIGNjNJI
jU LENGTH MARKiCURRENCY DENOMINATOR SIXTEENrNUMERATOR FOURzR ONEzR ONE LESS THAN THE DENOMINATOR
zR THREEzR TWOiDIGIT EIGHToFIVEpOURoNINEoONEoSEVENpIXoTHREEpWOoZEROiGANDA MARKiISSHARiLETTER AqAqI
qUpBAqHApCAqHApDAqDArHAqHApEpGAqHApHApIqIpJAqHApKAqHAsNDA TApLApMApNAqGAqNAqYApOpPAqHApRA
r WITH LOWER DIAGONALxMIDDLE DIAGONALqHAqRApSAqHAqSApTAqHAqTArHApUqUpVEDIC ANUSVARAqOCALIC LyLxRyR
pYAqYAiRUPEE MARKoSIGNiSANDHI MARKjIGN ANUSVARAoVAGRAHAnCANDRABINDUnNUKTAnVIRAMApSARGA
iVOWEL SIGN AAuIuUtEtIuItOtUuUtVOCALIC LzC LLzC RzC RRdT ARROW POINTING DOWNWARDS THEN NORTH EAST
eO BOXdZENE RINGm WITH CIRCLEcT SYMBOLdWEENcVERAGE BOXbHAIKSUKI DANDAlIGIT EIGHTqFIVErOURqNINEqONE
qSEVENrIXqTHREErWOqZEROlOUBLE DANDAkGAP FILLER-1v2kHUNDREDS UNIT MARKkLETTER AsAsIsUrBAsHArCAsHArDA
sDAtHAsHArErGAsHArHArIsIrJAsHArKAsHArLArMArNAsGAsNAsYArOrPAsHArRArSAsHAsSArTAsHAsTAtHArUsUrVA
sOCALIC LzRzRRrYAkNUMBER EIGHTwYrFIFTYtVEsORTYtURrNINEvTYrONErSEVENwTYsIXuTYrTENsHIRTYtREEsWENTYtO
kSIGN ANUSVARAqVAGRAHApCANDRABINDUpVIRAMArSARGAkVOWEL SIGN AAwIwUvEvIwIvOvUwUvVOCALIC LzLIC R
zLIC RRkWORD SEPARATORbICYCLEgISTcG REVERSE SOLIDUSeSOLIDUScKINIcLLED CAPeIARDScOHAZARD SIGNcRD
dTHDAY CAKEcSONcTCOIN SIGNdING LIPbLACK BOWTIEgCENTRE WHITE STARhHESS BISHOP
s ROTATED NINETY DEGREESzD TWO HUNDRED SEVENTY DEGREESmEQUIHOPPERw ROTATED NINETY DEGREESmKING
q ROTATED NINETY DEGREESzTWO HUNDRED SEVENTY DEGREESnNIGHTs ROTATED FORTY-FIVE DEGREES
zD NINETY DEGREESzD ONE HUNDRED THIRTY-FIVE DEGREESzD THREE HUNDRED FIFTEEN DEGREES
zD TWO HUNDRED SEVENTY DEGREESzD TWO HUNDRED TWENTY-FIVE DEGREESs-BISHOPtQUEENtROOKmPAWN
q ROTATED NINETY DEGREESzTWO HUNDRED SEVENTY DEGREESmQUEENr ROTATED NINETY DEGREES
z TWO HUNDRED SEVENTY DEGREESmROOKq ROTATED NINETY DEGREESzTWO HUNDRED SEVENTY DEGREES
mTURNED BISHOPtKINGuNIGHTtPAWNtQUEENtROOKhIRCLEm FOR RECORDnWITH DOWN ARROWsTWO WHITE DOTS
sWHITE DOT RIGHThLUB SUIThROSS ON SHIELDhURVED DOWNWARDS AND LEFTWARDS ARROWzD RIGHTWARDS ARROW
nLEFTWARDS AND DOWNWARDS ARROWzD UPWARDS ARROWnRIGHTWARDS AND DOWNWARDS ARROWzND UPWARDS ARROW
nUPWARDS AND LEFTWARDS ARROWzRIGHTWARDS ARROWgDIAMONDn CENTREDoMINUS WHITE XoON CROSSoSUIT
oWITH DOWN ARROWhOWN POINTING BACKHAND INDEXk-POINTING DOUBLE TRIANGLEuISOSCELES RIGHT TRIANGLE
uSMALL TRIANGLEuTRIANGLEkWARDS EQUILATERAL ARROWHEADhRAUGHTS KINGpMANiOPLETgFLAGiORETTEhOLDER
iUR POINTED STARgHARD SHELL FLOPPY DISKhEARTl SUITiXAGONhORIZONTAL ELLIPSEiURGLASSgLARGE CIRCLE
mSQUAREhEFT LANE MERGElPOINTING BACKHAND INDEXuINDEXk-POINTING DOUBLE TRIANGLE
zE TRIANGLE WITH VERTICAL BARuISOSCELES RIGHT TRIANGLEuPOINTERuSMALL TRIANGLEuTRIANGLEkWARDS BULLET
qEQUILATERAL ARROWHEADhOWER LEFT TRIANGLEmRIGHT TRIANGLEiZENGEgMEDIUM DIAMONDoOWN-POINTING TRIANGLE
zG TRIANGLE CENTREDnLEFT-POINTING TRIANGLEzG TRIANGLE CENTREDoOZENGEnRIGHT-POINTING TRIANGLE
zNG TRIANGLE CENTREDnSMALL DIAMONDtLOZENGEtSQUAREoQUAREnUP-POINTING TRIANGLEzTRIANGLE CENTRED
hOON LILITHgNIBgOCTAGONgPARALLELOGRAMhENNANTjTAGONhUSHPINgQUESTION MARK ORNAMENTgRECTANGLE
hIGHT POINTING BACKHAND INDEXvINDEXl-POINTING DOUBLE TRIANGLEzLE TRIANGLE WITH VERTICAL BAR
vISOSCELES RIGHT TRIANGLEvPENTAGONwOINTERvSMALL TRIANGLEvTRIANGLEzNGLE WITH DOUBLE VERTICAL BAR
lWARDS ARROWwHEADrBULLETrEQUILATERAL ARROWHEADhOSETTEgSAFETY SCISSORShCISSORShHOGI PIECE
hKULL AND CROSSBONEShLIGHTLY SMALL CIRCLEvSQUAREhMALL DIAMONDmLOZENGEmSQUAREnTARiILING FACEhNOWMAN
hPADE SUIThQUAREm BUTTONnCENTREDnFOR STOPhTARhUN WITH RAYSgTELEPHONEhINY DIAMONDlLOZENGElSQUARE
hOUCHTONE TELEPHONEhRUCKhWO-WAY LEFT WAY TRAFFICgUNIVERSAL RECYCLING SYMBOL
hP POINTING BACKHAND INDEXi-POINTING DOUBLE TRIANGLEsISOSCELES RIGHT TRIANGLEsSMALL TRIANGLE
sTRIANGLEiPER LEFT TRIANGLEmRIGHT TRIANGLEiWARDS EQUILATERAL ARROWHEADgVERTICAL ELLIPSEpRECTANGLE
jY SMALL DIAMONDrLOZENGErSQUAREf-FEATHERED NORTH EAST ARROWqRIGHTWARDS ARROWqSOUTH EAST ARROW
gLETTER CAPITAL CvHvIvRvZdNK SYMBOLcOCK SEXTANT-1p2q3r4s5s6r5s6r6q4r5s6r6q5r6q6p3q4r5s6r6q56q6p4q5
r6q6p5q6p6o2p3q4r5s6r6q5r6q6p4q5r6p5q6p6o3p4q5r6q6p5q6p6o4p5q6p6o5p6o6dSSOMdWFISHcUE BOOKfHEART
eBERRIESbOARcLD EIGHT SPOKED ASTERISKfFIVE SPOKED ASTERISKfGREEK CROSSfSALTIREgIX SPOKED ASTERISK
fWHITE CIRCLElSQUAREcMdBcNEcOKeMARKi TABSeSdMERANGcPOMOFO FINAL LETTER GwHwKwPwTjLETTER ArHrIsNNrM
rNsGsNrUsNNqBrUqCrHqDqErErHrIrNsGsNrRqFqGrHrNrUrWqHqIrHrMrNNtNrRrUqJrIqKrWqLrHqMqNrGsGrNqO
r WITH DOT ABOVErErMrNGsNrOrUqPqQqRqSrHqTqUrNNqVqXqZrHrIrYcTTLE WITH POPPING CORK
eOM ARC ANTICLOCKWISE ARROWhCURLY BRACKEThHALF BLACK CIRCLEmINTEGRALmLEFT PARENTHESIS
mRIGHT PARENTHESIShLEFT CORNERnROPmHALF BRACKEThPARENTHESIShRIGHT CORNERoROPnHALF BRACKET
hSQUARE BRACKETv OVER TOP SQUARE BRACKEThTORTOISE SHELL BRACKETcUQUETh OF FLOWERScW AND ARROW
dL OF HYGIEIAfWITH SPOONeINGdTIEg WITH LEFT HALF BLACKmRIGHT HALF BLACK
cX DRAWINGS DOUBLE DOWN AND HORIZONTALzAND LEFTzAND RIGHTuHORIZONTALuUP AND HORIZONTALzD LEFT
zD RIGHTuVERTICALzCAL AND HORIZONTALzCAL AND LEFTzCAL AND RIGHTpWN DOUBLE AND HORIZONTAL SINGLE
zAND LEFT SINGLEzAND RIGHT SINGLEsHEAVY AND HORIZONTAL LIGHTzND LEFT LIGHTzND LEFT UP LIGHT
zND RIGHT LIGHTzND RIGHT UP LIGHTzND UP HORIZONTAL LIGHTsLIGHT AND HORIZONTAL HEAVYzND LEFT HEAVY
zND LEFT UP HEAVYzND RIGHT HEAVYzND RIGHT UP HEAVYzND UP HORIZONTAL HEAVY
sSINGLE AND HORIZONTAL DOUBLEzAND LEFT DOUBLEzAND RIGHT DOUBLEnHEAVY DOUBLE DASH HORIZONTAL
z DASH VERTICALvWNx AND HORIZONTALzND LEFTzND RIGHTtHORIZONTALtLEFTx AND LIGHT RIGHT
tQUADRUPLE DASH HORIZONTALzPLE DASH VERTICALtRIGHTtTRIPLE DASH HORIZONTALz DASH VERTICALtUP
v AND HORIZONTALz LEFTz LIGHT DOWNz RIGHTtVERTICALzAL AND HORIZONTALzAL AND LEFTzAL AND RIGHT
nLEFT DOWN HEAVY AND RIGHT UP LIGHTsHEAVY AND RIGHT DOWN LIGHTzND RIGHT UP LIGHT
zND RIGHT VERTICAL LIGHTsLIGHT AND RIGHT DOWN HEAVYzND RIGHT UP HEAVYzND RIGHT VERTICAL HEAVY
sUP HEAVY AND RIGHT DOWN LIGHToIGHT ARC DOWN AND LEFTzWN AND RIGHTxUP AND LEFTz AND RIGHT
tDIAGONAL CROSSzAL DIAMONDzAL MIDDLE LEFT TO LOWER CENTRE
zAL MIDDLE LEFT TO LOWER CENTRE TO MIDDLE RIGHTzAL MIDDLE LEFT TO UPPER CENTRE TO MIDDLE RIGHT
zAL MIDDLE LEFT TO UPPER CENTRE TO MIDDLE RIGHT TO LOWER CENTREzAL MIDDLE RIGHT TO LOWER CENTRE
zAL MIDDLE RIGHT TO UPPER CENTRE TO MIDDLE LEFT TO LOWER CENTREzAL UPPER CENTRE TO MIDDLE LEFT
zAL UPPER CENTRE TO MIDDLE LEFT AND MIDDLE RIGHT TO LOWER CENTRE
zAL UPPER CENTRE TO MIDDLE LEFT TO LOWER CENTRE
zAL UPPER CENTRE TO MIDDLE LEFT TO LOWER CENTRE TO MIDDLE RIGHTzAL UPPER CENTRE TO MIDDLE RIGHT
zAL UPPER CENTRE TO MIDDLE RIGHT AND MIDDLE LEFT TO LOWER CENTRE
zAL UPPER CENTRE TO MIDDLE RIGHT TO LOWER CENTRE
zAL UPPER CENTRE TO MIDDLE RIGHT TO LOWER CENTRE TO MIDDLE LEFTzAL UPPER LEFT TO LOWER RIGHT
zAL UPPER RIGHT TO LOWER LEFTuOUBLE DASH HORIZONTALz DASH VERTICALvWNx AND HORIZONTALzND LEFT
zND RIGHTtHORIZONTALzNTAL WITH VERTICAL STROKEtLEFTx AND HEAVY RIGHTtQUADRUPLE DASH HORIZONTAL
zPLE DASH VERTICALtRIGHTtTRIPLE DASH HORIZONTALz DASH VERTICALtUPv AND HEAVY DOWNz HORIZONTALz LEFT
z RIGHTtVERTICALzAL AND HORIZONTALzAL AND LEFTzAL AND RIGHTnRIGHT DOWN HEAVY AND LEFT UP LIGHT
tHEAVY AND LEFT DOWN LIGHTzAND LEFT UP LIGHTzAND LEFT VERTICAL LIGHTtLIGHT AND LEFT DOWN HEAVY
zAND LEFT UP HEAVYzAND LEFT VERTICAL HEAVYtUP HEAVY AND LEFT DOWN LIGHT
nUP DOUBLE AND HORIZONTAL SINGLEzD LEFT SINGLEzD RIGHT SINGLEqHEAVY AND DOWN HORIZONTAL LIGHT
z HORIZONTAL LIGHTz LEFT DOWN LIGHTz LEFT LIGHTz RIGHT DOWN LIGHTz RIGHT LIGHT
qLIGHT AND DOWN HORIZONTAL HEAVYz HORIZONTAL HEAVYz LEFT DOWN HEAVYz LEFT HEAVYz RIGHT DOWN HEAVY
z RIGHT HEAVYqSINGLE AND HORIZONTAL DOUBLEzD LEFT DOUBLEzD RIGHT DOUBLE
nVERTICAL DOUBLE AND HORIZONTAL SINGLEzBLE AND LEFT SINGLEzBLE AND RIGHT SINGLE
wHEAVY AND HORIZONTAL LIGHTzVY AND LEFT LIGHTzVY AND RIGHT LIGHTwLIGHT AND HORIZONTAL HEAVY
zHT AND LEFT HEAVYzHT AND RIGHT HEAVYwSINGLE AND HORIZONTAL DOUBLEzGLE AND LEFT DOUBLE
zGLE AND RIGHT DOUBLEdING GLOVEcYdS SYMBOLbPHbRAHMI DANDAiIGIT EIGHTnFIVEoOURnNINEnONEnSEVENoIX
nTHREEoWOnZEROiOUBLE DANDAhLETTER ApApIpUoBApHAoCApHAoDApDAqHApHAoEoGApHAoHAoIpIoJApHAoKApHAoLApLA
oMAoNApGApNApYAoOpLD TAMIL LLAzLLAyNNNAyRRAySHORT EzHORT OoPApHAoRAoSApHApSAoTApHApTAqHAoUpUoVA
pOCALIC LxLwRxRoYAhNUMBER EIGHTtYoFIFTYqVEpORTYqURoJOINERoNINEsTYoONEr HUNDREDsTHOUSANDoSEVENtTYpIX
rTYoTENpHIRTYqREEpWENTYqOhPUNCTUATION CRESCENT BARtDOTvUBLE DOTtLINEuOTUShSIGN ANUSVARAmCANDRABINDU
mJIHVAMULIYAmOLD TAMIL VIRAMAmUPADHMANIYAmVISARGAhVIRAMAiOWEL SIGN AAtItUsBHATTIPROLU AAsEsItIsO
tLD TAMIL SHORT EzIL SHORT OsUtUsVOCALIC Lz LLz Rz RRdILLE PATTERN BLANKqDOTS-1w2x3y4z5z56z567z5678
z568z57z578z58z6z67z678z68z7z78z8y5z6z67z678z68z7z78z8y6z7z78z8y7z8y8x4y5z6z67z678z68z7z78z8y6z7z78
z8y7z8y8x5y6z7z78z8y7z8y8x6y7z8y8x7y8x8w3x4y5z6z67z678z68z7z78z8y6z7z78z8y7z8y8x5y6z7z78z8y7z8y8x6
y7z8y8x7y8x8w4x5y6z7z78z8y7z8y8x6y7z8y8x7y8x8w5x6y7z8y8x7y8x8w6x7y8x8w7x8w8v2w3x4y5z6z67z678z68z7
z78z8y6z7z78z8y7z8y8x5y6z7z78z8y7z8y8x6y7z8y8x7y8x8w4x5y6z7z78z8y7z8y8x6y7z8y8x7y8x8w5x6y7z8y8x7y8
x8w6x7y8x8w7x8w8v3w4x5y6z7z78z8y7z8y8x6y7z8y8x7y8x8w5x6y7z8y8x7y8x8w6x7y8x8w7x8w8v4w5x6y7z8y8x7y8x8
w6x7y8x8w7x8w8v5w6x7y8x8w7x8w8v6w7x8w8v7w8v8eNcEADeK PERMITTED HEREeST-FEEDINGdVEcICKdDE WITH VEIL
eGE AT NIGHTdEFCASEfScOCCOLIdKEN BARhCIRCLE WITH NORTHWEST ARROWhHEARTdOMdWN HEARTbSbUBBLE TEAgS
cCKETcGdINESE END OF SECTIONjLETTER AqBAqCAqDAqGAqHAqJAqKAqLAqMArPAqNArGAsKArRArYAsCAqPAqRAqSAqTA
qVAqYAjPALLAWAjVOWEL SIGN AEuEuIuOuUcHID LETTER AnBAnDAnGAnHAnInKAnLAnMAnNAoGAnPAnRAnSAnTAnUnWAnYA
gVOWEL SIGN IrUcILDING CONSTRUCTIONcLLETg OPERATOReHORNi WITH SOUND WAVESeSEYEcRRITOcSd STOP
dT IN SILHOUETTEeS IN SILHOUETTEcTTERgFLYbYTE ORDER MARKcZANTINE MUSICAL SYMBOL AGOGI ARGI
zAGOGI ARGOTERIzAGOGI GORGIzAGOGI GORGOTERIzAGOGI MESIzAGOGI METRIAzAGOGI POLI ARGI
zAGOGI POLI GORGIzANATRICHISMAzANTIKENOKYLISMAzANTIKENOMAzAPESO EKFONITIKONzAPESO EXO NEOzAPLI
zAPODERMA ARCHAIONzAPODERMA NEOzAPOSTROFOI SYNDESMOS NEOzAPOSTROFOI TELOUS ICHIMATOSzAPOSTROFOS
zAPOSTROFOS DIPLIzAPOSTROFOS NEOzAPOTHEMAzARGONzARGOSYNTHETONzARKTIKO DIzARKTIKO GAzARKTIKO KE
zARKTIKO NIzARKTIKO PAzARKTIKO VOUzARKTIKO ZOzCHAMILIzCHAMILONzCHOREVMA ARCHAIONzCHOREVMA NEO
zCHROA KLITONzCHROA SPATHIzCHROA ZYGOSzDASEIAzDIARGONzDIASTOLI APLI MEGALIzDIASTOLI APLI MIKRI
zDIASTOLI DIPLIzDIASTOLI THESEOSzDIESIS APLI DYO DODEKATAzDIESIS DIGRAMMOS EX DODEKATA
zDIESIS MONOGRAMMOS TESSERA DODEKATAzDIESIS TETARTIMORIONzDIESIS TRIGRAMMOS OKTO DODEKATA
zDIESIS TRITIMORIONzDIFTOGGOS OUzDIGORGONzDIGORGON PARESTIGMENON ARISTERA ANO
zDIGORGON PARESTIGMENON ARISTERA KATOzDIGORGON PARESTIGMENON DEXIAzDIGRAMMA GGzDIPLIzDIPLI ARCHAION
zDYOzEKSTREPTONzELAFRONzENARXIS KAI FTHORA VOUzENDOFONONzEPEGERMAzETERON ARGOSYNTHETON
zETERON PARAKALESMAzEXO EKFONITIKONzFANEROSIS DIFONIASzFANEROSIS MONOFONIASzFANEROSIS TETRAFONIAS
zFHTORA SKLIRON CHROMA VASISzFTHORA ARCHAIONzFTHORA ARCHAION DEYTEROU ICHOUzFTHORA DIATONIKI DI
zFTHORA DIATONIKI KEzFTHORA DIATONIKI NANAzFTHORA DIATONIKI NI ANOzFTHORA DIATONIKI NI KATO
zFTHORA DIATONIKI PAzFTHORA DIATONIKI ZOzFTHORA ENARMONIOS ANTIFONIAzFTHORA I YFESIS TETARTIMORION
zFTHORA MALAKON CHROMA DIFONIASzFTHORA MALAKON CHROMA MONOFONIASzFTHORA NAOS ICHOSzFTHORA NENANO
zFTHORA SKLIRON CHROMA SYNAFIzFTHORA SKLIRON CHROMA VASISzFTHORA SKLIRON DIATONON DIzGENIKI DIESIS
zGENIKI YFESISzGORGON ARCHAIONzGORGON NEO ANOzGORGON NEO KATOzGORGON PARESTIGMENON ARISTERA
zGORGON PARESTIGMENON DEXIAzGORGOSYNTHETONzGORTHMIKON N APLOUNzGORTHMIKON N DIPLOUNzGRONTHISMATA
zICHADINzIMIDIARGONzIMIFONONzIMIFTHORAzIMIFTHORONzISAKIA TELOUS ICHIMATOSzISON ARCHAIONzISON NEO
zKATAVA TROMIKONzKATAVASMAzKATHISTIzKENTIMA ARCHAIONzKENTIMA NEO ANOzKENTIMA NEO KATO
zKENTIMA NEO MESOzKENTIMATAzKENTIMATA ARCHAIONzKENTIMATA NEO ANOzKENTIMATA NEO KATO
zKENTIMATA NEO MESOzKLASMAzKLASMA ANOzKLASMA KATOzKONTEVMAzKONTEVMA ALLOzKORONISzKOUFISMA
zKRATIMA ALLOzKRATIMA ARCHAIONzKRATIMA NEOzKRATIMATAzKRATIMOKOUFISMAzKRATIMOYPORROONzKREMASTI
zKYLISMAzLEIMMA DYO CHRONONzLEIMMA ENOS CHRONOUzLEIMMA IMISEOS CHRONOUzLEIMMA TESSARON CHRONON
zLEIMMA TRION CHRONONzLEMOIzLYGISMAzMARTYRIA ALLI DEYTEROS ICHOSzMARTYRIA ALLI PROTOS ICHOS
zMARTYRIA DEYTEROS ICHOSzMARTYRIA LEGETOS ICHOSzMARTYRIA PLAGIOS ICHOS
zMARTYRIA PLAGIOS TETARTOS ICHOSzMARTYRIA PROTOS ICHOSzMARTYRIA PROTOVARYS ICHOS
zMARTYRIA TETARTOS ICHOSzMARTYRIA TETARTOS LEGETOS ICHOSzMARTYRIA TRIFONIASzMARTYRIA TRITOS ICHOS
zMARTYRIA VARYS ICHOSzMIKRON ISONzNANAzOLIGON ARCHAIONzOLIGON NEOzOMALONzOXEIA DIPLI
zOXEIA EKFONITIKONzOXEIA NEOzOXEIAI ARCHAIONzOYRANISMA ARCHAIONzOYRANISMA NEOzPARAKALESMA ARCHAION
zPARAKALESMA NEOzPARAKLITIKIzPARAKLITIKI ARCHAIONzPARAKLITIKI NEOzPARICHONzPELASTONzPELASTON NEO
zPERISPOMENIzPETASMAzPETASTIzPETASTOKOUFISMAzPIASMA ARCHAIONzPIASMA NEOzPSIFISTOLYGISMAzPSIFISTON
zPSIFISTON NEOzPSIFISTOPARAKALESMAzPSIFISTOSYNAGMAzPSILIzPSILONzRAPISMAzREVMAzSAXIMATAzSEISMA
zSEISMA NEOzSIMANSIS ARSEOSzSIMANSIS ARSEOS DISIMOUzSIMANSIS ARSEOS TETRASIMOU
zSIMANSIS ARSEOS TRISIMOUzSIMANSIS THESEOSzSIMANSIS THESEOS DISIMOUzSIMANSIS THESEOS TETRASIMOU
zSIMANSIS THESEOS TRISIMOUzSTAVROSzSTAVROS APODEXIAzSTIGMAzSTRAGGISMATAzSYNAGMA ARCHAION
zSYNAGMA META STAVROUzSYNAGMA NEOzSYNEVMAzSYRMAzSYRMATIKIzTELEIAzTESSERAzTETRAPLIzTHEMA
zTHEMA APLOUNzTHEMATISMOS ESOzTHEMATISMOS EXOzTHES KAI APOTHESzTHITAzTINAGMAzTRIAzTRIGORGONzTRIPLI
zTROMIKOLYGISMAzTROMIKON ALLOzTROMIKON ARCHAIONzTROMIKON NEOzTROMIKOPARAKALESMAzTROMIKOPSIFISTON
zTROMIKOSYNAGMAzVAREIA DIPLIzVAREIA EKFONITIKONzVAREIA NEOzVAREIAI ARCHAIONzVATHYzXIRON KLASMA
zYFEN ANOzYFEN KATOzYFESIS APLI DYO DODEKATAzYFESIS DIGRAMMOS EX DODEKATA
zYFESIS MONOGRAMMOS TESSERA DODEKATAzYFESIS TRIGRAMMOS OKTO DODEKATAzYFESIS TRITIMORIONzYPOKRISIS
zYPOKRISIS DIPLIzYPORROIzYPSILIaCACTUScDA UNAdUCEUScLENDARdL ME HANDcMERAg WITH FLASHdPINGcN
dADIAN SYLLABICS AuAvIvYuIvVILIK BuNuTHAPASCAN MzSCAN SuYtBEAVER DENE Lz DENE RuIBLE-CREE Y
uLACKFOOT AzOOT EzOOT IzOOT KAzOOT KEzOOT KIzOOT KOzOOT NAzOOT NEzOOT NIzOOT NOzOOT OzOOT SzOOT W
zOOT WAzOOT WEzOOT WIzOOT WOtCuAvAwIvRRIER CHAzR CHEzR CHEEzR CHIzR CHOzR CHUzR DEEzR DENE GEE
zR DENTAL SzR DIzR DLAzR DLEzR DLEEzR DLIzR DLOzR DLUzR DZAzR DZEzR DZEEzR DZIzR DZOzR DZUzR EE
zR GAzR GAAzR GEzR GEEzR GHAzR GHEzR GHEEzR GHIzR GHOzR GHUzR GIzR GOzR GUzR GWAzR GWUzR HzR HEE
zR HIzR HWAzR HWEzR HWEEzR HWIzR HWOzR HWUzR IzR INITIAL ZzR JAzR JEzR JEEzR JIzR JJAzR JJEzR JJEE
zR JJIzR JJOzR JJUzR JOzR JUzR JWAzR KHAzR KHEzR KHEEzR KHIzR KHOzR KHUzR KKzR KKAzR KKEzR KKEE
zR KKIzR KKOzR KKUzR LAzR LEzR LEEzR LHAzR LHEzR LHEEzR LHIzR LHOzR LHUzR LIzR LOzR LUzR MAzR ME
zR MEEzR MIzR MOzR MUzR NAzR NEzR NEEzR NGzR NIzR NOzR NUzR PzR PAzR PEzR PEEzR PIzR POzR PUzR RA
zR REzR REEzR RIzR ROzR RUzR SAzR SEzR SEEzR SHzR SHAzR SHEzR SHEEzR SHIzR SHOzR SHUzR SIzR SOzR SU
zR THAzR THEzR THEEzR THIzR THOzR THUzR TLAzR TLEzR TLEEzR TLHAzR TLHEzR TLHEEzR TLHIzR TLHOzR TLHU
zR TLIzR TLOzR TLUzR TSAzR TSEzR TSEEzR TSIzR TSOzR TSUzR TTAzR TTEzR TTEEzR TTIzR TTOzR TTSA
zR TTSEzR TTSEEzR TTSIzR TTSOzR TTSUzR TTUzR WAzR WEzR WEEzR WIzR WOzR WUzR YAzR YEzR YEEzR YIzR YO
zR YUzR ZzR ZAzR ZEzR ZEEzR ZIzR ZOzR ZUuEuHI SIGNuIvIuOvOuWAwAvEvIwIvOwOtEuASTERN WuNtFuAvAwIuEuI
vIvNAL ACUTEzBOTTOM HALF RINGzDOUBLE ACUTEzDOUBLE SHORT VERTICAL STROKESzDOWN TACKzGRAVEzMIDDLE DOT
zPLUSzRAISED DOTzRIGHT HALF RINGzRINGzSHORT HORIZONTAL STROKEzSMALL RINGzTOP HALF RINGuOvOuULL STOP
uWAAtGLOTTAL STOPtHKuYPHENtIuIuNtKuAvAwIvYuEuIvIuOvOuWvAwAwYvEvIwIvOwOtLuAvAwIvYuEuHvAwAvIwIvOwOuI
vIuOvOuWAwAvEvIwIvOwOtMuAvAwIvYuEvDIAL Lz RuHuIvIuOvOwSE-CREE SKuWAwAvEvIwIvOwOtNu-CREE THEz THI
z THIIuAvAwIvSKAPI CWAAzI KWAAzI MWAAzI NWAAzI S-WzI SCWAzI SKWzI SKWAzI SPWAzI STWAzI SWAAzI TWAA
zI WAAzI WOOzI YWAAvTTILIK HAzIK HAAzIK HIzIK HIIzIK HOzIK HOOzIK SHRAzIK SHRAAzIK SHRIzIK SHRII
zIK SHROzIK SHROOvYuEuGvAwAxIwIvIwIvOwOuHuIvIuNGwAxAwIxIwOxOuOvOvYuUNAVIK HzK HAzK HAAzK HEzK HI
zK HIIzK HOzK HOOyUT HuWAwAvEvIwIvOwOtOuJIBWAY CzY KzY MzY NzY NWIzY NWIIzY NWOzY NWOOzY PzY SzY SH
zY TuNuOuYtPuAvAwIvYuEuIvIuOvOvYuWAwAvEvIwIvOwOwYtQuAvAwIvIuIvIuOvOtRu-CREE REz RWEuAvAwIvYuEuIvIuO
vOuWAwAvEEvIwIvOwOtSuAvAwIvYwISI HAz HEz HIz HOz HOOz JIz JUz JUUz Mz SHAz SHEz SHIz SHOz SHOO
z SHWEz THz YIuEuHvAwAwYvEvIwIvOwOwYvWAxAwEwIxIwOxOxYuIvIuOvOvUTH-SLAVEY KAHzSLAVEY KEHzSLAVEY KIH
zSLAVEY KOHvYuPAvEvIvOuWvAwAvEvIwIvOwOtTuAvAwIvYuEuHv-CREE THzE THAzE THAAzE THEzE THIzE THIIzE THO
zE THOOvAwAvEvIwIvOwOvWAxAwEuIvIuLHAwEwIwOxOwWEuOvOuTAvEvHwAxAwEwIwOxOwWEvIvOuWAwAvEvIwIvOwOuYAvEvI
vOtWAvAvYuEvST-CREE CWAzREE CWAAzREE CWEzREE CWIzREE CWIIzREE CWOzREE CWOOzREE FWAAzREE KWA
zREE KWAAzREE KWEzREE KWIzREE KWIIzREE KWOzREE KWOOzREE LzREE LAzREE LAAzREE LEzREE LOzREE LOO
zREE LWAzREE LWAAzREE LWEzREE LWIzREE LWIIzREE LWOzREE LWOOzREE MzREE MWAzREE MWAAzREE MWEzREE MWI
zREE MWIIzREE MWOzREE MWOOzREE NWAzREE NWAAzREE NWEzREE PzREE PWAzREE PWAAzREE PWEzREE PWIzREE PWII
zREE PWOzREE PWOOzREE RzREE RAzREE REzREE RIzREE ROzREE RWAAzREE SHWAzREE SHWAAzREE SHWEzREE SHWI
zREE SHWIIzREE SHWOzREE SHWOOzREE SWAzREE SWAAzREE SWEzREE SWIzREE SWIIzREE SWOzREE SWOOzREE THWAA
zREE TWAzREE TWAAzREE TWEzREE TWIzREE TWIIzREE TWOzREE TWOOzREE WAzREE WAAzREE WEzREE WIzREE WII
zREE WOzREE WOOzREE YzREE YWAzREE YWAAzREE YWEzREE YWIzREE YWIIzREE YWOzREE YWOOxERN WuIvIuOvO
wDS-CREE FINAL THzCREE THzCREE THAzCREE THEzCREE THIzCREE THOzCREE THWAzCREE THWAAzCREE THWEE
zCREE THWIzCREE THWIIzCREE THWOzCREE THWOOtYu-CREE COOz KOOz LOOz MOOz NOOz OOz POOz PWAAz SOOz TOO
z Wz YOOuAvAwIvYuEuIvIuOvOvYuWAwAvEvIwIvOwOdCELg CHARACTERhTAGgLATION XfRdDLEeYdNED FOODdOEcPITULUM
dRICORNcR SLIDINGdD FILE BOXfINDEXk DIVIDERSdE OFeTf INSERTION POINTdIAN LETTER Ap2oBoC-18q39oDp2oE
p2oGp2oIpIoKp2oLpDq2oMpBq2q3q4oNpDpGpNoOoPp2oQoRpRoSpHq2pSpTq2oTpTq2oUpUqUr2r3rUoXdONeUSEL HORSE
dP STREAMEReENTRY SAWdRIAGE RETURNeOTcSTLEcTd FACEi WITH TEARS OF JOYoWRY SMILE
cUCASIAN ALBANIAN CITATION MARKtLETTER ALTz AORz BETz CARz CAYNz CHAz CHATz CHIz CHOYz CYAWz CYAY
z DATz DYANz DZAYz DZYAYz EBz EYNz FAMz GHEYSz GIMz HEYTz INYAz IRBz IWNz JAYNz JHOXz KARz KIWz LAN
z LYITz MAQz NOWCz ONz PENz PIWRz QARz QAYz RATz SEYKz SHAz SHAKz SHOYz TASz TIWRz TYAYz VEYZz XEYN
z YAYDz YOWDz ZARLz ZHAz ZHILdTION SIGNbCHbEDI SIGNeLLAcLTIC CROSScNT SIGNeRE LINE SYMBOL
gLINE LOW LINElOVERLINEcRESbGJbHAINSeRdKMA AU MARKhDANDAiIGIT EIGHTnFIVEoOURnNINEnONEnSEVENoIX
nTHREEoWOnZEROiOUBLE DANDAhLETTER AAoBAApHAAoCAApHAAoDAApDAAqHAApHAAoEoGAApHAAoHAAoIoJAApHAAoKAA
pHAAoLAApHAAoMAAoNAApGAApNAApYAAoPAApHAAoRAAoSAAoTAApHAApTAAqHAAoUoVAAoWAAoYAApYAAhMAAYYAAhO MARK
hQUESTION MARKhSECTION MARKiIGN ANUSVARAmCANDRABINDUmVISARGAhVIRAMAiOWEL SIGN AtAtItUsEtIsItIsOtIsU
tUdM CONSONANT SIGN FINAL Hz Mz NGuLAuRAuWAuYAfDIGIT EIGHTlFIVEmOURlNINElONElSEVENmIXlTHREEmWOlZERO
fLETTER AnImBAnBAnHAmCHAoHAmDAnDAnHAmEmFINAL CHsGsKsLsNtGsPsRsSSsTsYmGAnHAmHAmImJAnHAmKAnHAmLAmMA
nUEmNAnGAoUEnHAoJAoUEnUEmOmPAnHAnPAmRAmSAnSAmTAnHAmUmVAmYAfPUNCTUATION DANDAsOUBLE DANDArSPIRAL
rTRIPLE DANDAfVOWEL SIGN AArIrUqEIqIrIqOrEqUrEdRACTER TABULATIONu SETvWITH JUSTIFICATIONlIE
eT WITH DOWNWARDS TRENDlUPWARDS TRENDy AND YEN SIGNcECK MARKfER BOARDn FILLdERING MEGAPHONE
eSE WEDGEdQUERED FLAGdROKEE LETTER AqDArErIrLArOrUrVqEqGArErIrOrUrVqHArErIrNArOrUrVqIqKAqLArErIrOrU
rVqMArErIrOrUrVqNAsHrErIrOrUrVqOqQUAsEsIsOsUsVqSrArErIrOrUrVqTArErIrLAsEsIsOsUsVrSAsEsIsOsUsVqUqV
qWArErIrOrUrVqYArErIrOrUrVjSMALL LETTER AwDAxExIxLAxOxUxVwEwGAxExIxOxUxVwHAxExIxNAxOxUxVwIwKAwLAxE
xIxOxUxVwMAxExIxOxUxVwNAyHxExIxOxUxVwOwQUAyEyIyOyUyVwSxAxExIxOxUxVwTAxExIxLAyEyIyOyUyVxSAyEyIyOyUyV
wUwVwWAxExIxOxUxVwYAxExIxOxUxVeRIESfY BLOSSOMdSTNUTcI RHOdCKENdLDfREN CROSSINGdPMUNKdRON
cOCOLATE BARdPSTICKSdRASMIAN LETTER ALEPHtYINsBETHsCURLED WAWsDALETHsGIMELsHEuTHsKAPHsLAMEDHsMEM
sNUNsPEsRESHsSAMEKHtHINtMALL ALEPHsTAWsWAWsYODHsZAYINlNUMBER FOURsONEv HUNDREDsTENtHREEtWENTYuO
cRISTMAS TREEcURCHbINEMAcRCLE DIVIDED BY HORIZONTAL BAR AND TOP HALF DIVIDED BY VERTICAL BAR
hWITH ALL BUT UPPER LEFT QUADRANT BLACKmHORIZONTAL BARmLEFT HALF BLACKnOWER HALF BLACK
mRIGHT HALF BLACKmSMALL CIRCLE TO THE RIGHTnUPERIMPOSED XmTWO HORIZONTAL STROKES TO THE RIGHT
mUPPER HALF BLACKsRIGHT QUADRANT BLACKmVERTICAL FILLgD ANTICLOCKWISE ARROWv-ROTATED DIVISION SIGN
jSTERISK OPERATORiBOLD XjULLETiC WITH OVERLAID BACKSLASHjCjDjROSS FORMEEu WITH FOUR DOTSz TWO DOTS
oPOMMEEnING LANESiDASHjIGIT EIGHToFIVEpOURoNINEoONEoSEVENpIXoTHREEpWOoZEROkVISION SIGNsLASH
jOLLAR SIGN WITH OVERLAID BACKSLASHkT OPERATORiEQUALSiGREATER-THANiHANGUL CHIEUCHw AqIEUCu ApHIEUH
u ApIEUNGu AvUpKHIEUKHw AqIYEOKv ApMIEUMu ApNIEUNu ApPHIEUPHw AqIEUPu ApRIEULu ApSIOSt ApTHIEUTHw A
qIKEUTv AjEAVY WHITE RIGHTWARDS ARROWjORIZONTAL BAR WITH NOTCHjUMAN FIGUREiIDEOGRAPH ACCEPT
tDVANTAGEtLLIANCEtTTENTIONsCENTREtONGRATULATIONuPYuRRECTsEARTHtIGHTtNTERPRISEtXCELLENTsFEMALE
tINANCIALuREuVEtOURsHAVEtIGHsITEMsKINDERGARTENtOTOsLABORtEFTtOWsMALEtEDICINEuTALtOONsNAMEtIGHTuNE
sONEsPRINTsQUESTIONsRELIGIONuSOURCEvTtIGHTsSCHOOLtECRETuVENtIXtOCIETYtPECIALtTOCKuUDYtUITABLEuN
uPERVISEsTENtHREEtWOsWATERtOODjNFORMATION SOURCEjTALIC LATIN CAPITAL LETTER CzTAL LETTER R
iKATAKANA ArErHAsEsIsOsUrIrKAsEsIsOsUrMAsEsIsOsUrNAsEsIsOsUrOrRAsEsIsOsUrSAsEsIsOsUrTAsEsIsOsUrUrWA
sEsIsOrYAsOsUjOREAN CHARACTER CHAMKOzJUEUIiLATIN CAPITAL LETTER AzTER BzTER CzTER DzTER EzTER F
zTER GzTER HzTER IzTER JzTER KzTER LzTER MzTER NzTER OzTER PzTER QzTER RzTER SzTER TzTER UzTER V
zTER WzTER XzTER YzTER ZoSMALL LETTER AzR BzR CzR DzR EzR FzR GzR HzR IzR JzR KzR LzR MzR NzR OzR P
zR QzR RzR SzR TzR UzR VzR WzR XzR YzR ZjESS-THANiMINUSjULTIPLICATION SIGN WITH CIRCUMFLEX ACCENT
iNUMBER EIGHTEENuY ON BLACK SQUAREqLEVENpFIFTEENtYu ON BLACK SQUAREqORTYu EIGHTvFIVEwOURvNINE
vON BLACK SQUARExEvSEVENwIXvTHREEwWOrURTEENpNINETEENpSEVENTEENvY ON BLACK SQUAREqIXTEEN
tY ON BLACK SQUAREpTENs ON BLACK SQUAREqHIRTEENuYv EIGHTwFIVExOURwNINEwON BLACK SQUAREyEwSEVENxIX
wTHREExWOqWELVEsNTYv EIGHTwFIVExOURwNINEwON BLACK SQUAREyEwSEVENxIXwTHREExWO
iOPEN CENTRE EIGHT POINTED STARiPARALLELjERPENDICULARjLUSjOSTAL MARKiREVERSE SOLIDUSjING OPERATOR
iSQUAREiTIMESjRIANGLEq DOWNiVERTICAL BARiWHITE BULLEToSTARjZiXiZERO WITH SLASHeULATION FUNCTION
fMFLEX ACCENTfS TENTcTYSCAPEj AT DUSKbJK RADICAL BAMBOOnLUEnOLT OF CLOTHoNEoXnRUSH ONEsTWO
mC-SIMPLIFIED BIRDzCARTzDRAGONzEATzEVENzFISHzFLYzFROGzGATEzGOLDzHORSEzLEAFzLONGzSALTzSEEzSHELLzSILK
zSPEECHzTANNED LEATHERzTOOTHzTURTLEzWINDnHOKEnITYoVILIANnLIFFoOTHESnOWmDEATHnIVINATIONnOGmEAT ONE
qTHREErWOnWEnYEmFIREnOOTmGHOSTnRASS ONEsTHREEtWOmHANDnEADpRT ONEsTWOnORNmJ-SIMPLIFIED DRAGONzEVEN
zTOOTHzTURTLEnADEmKNIFE ONEsTWOmLAME FOURrONErTHREEsWOnONG ONErTWOmMEAToSHnOONoRTARoTHERoUND ONE
sTWOmNET FOURqONEqTHREErWOmOLDmPAW ONEqTWOnERSONmRAINoMoPnEPEATmSEALoCOND ONEtTHREEuWOnHEEPnILK
oMPLIFIED HALF TREE TRUNKyORNxWALKyHEATxYELLOWnMALL ONEsTWOnNAKEoOUT ONEsTWOnPIRIT ONEtTWOnUNmTABLE
nHREADnIGERnURTLEmWALK ONErTWOoTER ONEsTWOnEST ONErTWOeSTROKE BXGlDlHmGmPnWGmXWGmZnGnTnWoGnZoPoZpG
lNlPmDmGmZlQlSmGmPmTmWnGnZmZnWGnZlTmNlWGlXGbLAMSHELL MOBILE PHONEdPPER BOARDfING HANDS SIGN
dSSICAL BUILDINGcEAR SCREEN SYMBOLcINKING BEER MUGSjGLASSESdPBOARDcOCK FACE EIGHT OCLOCKq-THIRTY
mLEVEN OCLOCKr-THIRTYlFIVE OCLOCKp-THIRTYmOUR OCLOCKp-THIRTYlNINE OCLOCKp-THIRTYlONE OCLOCKo-THIRTY
lSEVEN OCLOCKq-THIRTYmIX OCLOCKo-THIRTYlTEN OCLOCKo-THIRTYmHREE OCLOCKq-THIRTYmWELVE OCLOCKr-THIRTY
nO OCLOCKo-THIRTYfWISE CLOSED CIRCLE ARROWlONTOUR INTEGRALkDOWNWARDS AND UPWARDS OPEN CIRCLE ARROWS
kGAPPED CIRCLE ARROWkINTEGRALkOPEN CIRCLE ARROWkRIGHT AND LEFT SEMICIRCLE ARROWS
pWARDS AND LEFTWARDS OPEN CIRCLE ARROWSzLEFTWARDS OPEN CIRCLE ARROWS WITH CIRCLED ONE OVERLAY
kTOP SEMICIRCLE ARROWlRIANGLE-HEADED OPEN CIRCLE ARROWdSE UPfD BOOKhINTERSECTION WITH SERIFS
hLOCK WITH KEYhMAILBOX WITH LOWERED FLAGuRAISED FLAGhSUBSETn OR EQUAL TOjPERSETp OR EQUAL TO
hUMBRELLAiNION WITH SERIFSy AND SMASH PRODUCTdUDf WITH LIGHTNINGlRAINlSNOWlTORNADOdWN FACEbOAT
cCKROACHeTAIL GLASSdONUTcFFINcINcLLISION SYMBOLdONf EQUALSgSIGNcMBINING ACUTE ACCENTw BELOW
qTONE MARKp-GRAVE-ACUTEqMACRONlLMOST EQUAL TO ABOVEz BELOWlNNUITY SYMBOLmTICLOCKWISE ARROW ABOVE
yRING OVERLAYlSTERISK ABOVEtBELOWkBINDU BELOWlREVEp BELOWp-MACRONmIDGE ABOVErBELOWkCANDRABINDUmRON
p BELOWlEDILLAlIRCUMFLEX ACCENTzNT BELOWlLOCKWISE ARROW ABOVEuRING OVERLAYlOMMA ABOVEv RIGHTqBELOW
mNJOINING MACRONzON BELOWlYRILLIC DASIA PNEUMATAtHUNDRED MILLIONS SIGNzD THOUSANDS SIGNtKAVYKA
tLETTER Az BEz BIG YUSz CHEz DEz DJERVz EFz ELz EMz ENz ERz ESz ES-TEz FITAz GHEz HAz HARD SIGNz I
z IEz IOTIFIED Az IOTIFIED BIG YUSz IOTIFIED Ez KAz LITTLE YUSz MONOGRAPH UKz Oz OMEGAz PEz SHA
z SHCHAz SOFT SIGNz TEz TSEz Uz UKRAINIAN IEz VEz YATz YERUz YIz YUz ZEz ZHEtMILLIONS SIGN
tPALATALIZATIONvYEROKuOKRYTIEuSILI PNEUMATAtTEN MILLIONS SIGNuHOUSAND MILLIONS SIGNuITLOy LEFT HALF
zRIGHT HALFtVZMETkDELETION MARKmVANAGARI DIGIT EIGHTzT FIVEzT FOURzT NINEzT ONEzT SEVENzT SIX
zT THREEzT TWOzT ZEROvLETTER AzER KAzER NAzER PAzER RAzER UzER VIvSIGN AVAGRAHAlIAERESISt BELOW
t-RINGlOT ABOVEt LEFTuRIGHToBELOWt LEFTnTED ACUTE ACCENTrGRAVE ACCENTmUBLE ACUTE ACCENTrBREVE
w BELOWrCIRCUMFLEX ABOVErGRAVE ACCENTrINVERTED BREVEz BREVE BELOWrLOW LINErMACRONx BELOW
rOPEN MARK BELOWsVERLINErPARENTHESES ABOVEsLUS SIGN ABOVEzN BELOWrRIGHTWARDS ARROW BELOWtNG BELOW
rTILDEw LEFT HALFxRIGHT HALFrVERTICAL LINE ABOVEz LINE BELOWz STROKE OVERLAYqD CIRCUMFLEX ACCENT
mWN TACK BELOWoWARDS ARROWkENCLOSING CIRCLEzE BACKSLASHuDIAMONDuKEYCAPuSCREENvQUARE
uUPWARD POINTING TRIANGLElQUALS SIGN BELOWkFERMATAlOUR DOTS ABOVEkGLAGOLITIC LETTER AZUzER BIG YUS
zER BUKYzER CHRIVIzER DJERVIzER DOBROzER FITAzER FRITUzER GLAGOLIzER HERUzER IzER INITIAL IZHE
zER IOTATED BIG YUSzER IOTATED SMALL YUSzER IZHEzER KAKOzER LJUDIJEzER MYSLITEzER NASHIzER ONU
zER POKOJIzER RITSIzER SHAzER SHTAzER SLOVOzER SMALL YUSzER TSIzER TVRIDOzER UKUzER VEDEzER YATI
zER YERIzER YERUzER YESTUzER YOzER YUzER ZEMLJAzER ZHIVETElRANTHA DIGIT FIVEzOURyONEySIXyTHREEzWO
yZEROsLETTER AzKAzNAzPAzVInPHEME JOINERnVE ACCENTw BELOWqTONE MARKp-ACUTE-GRAVEqMACRON
mEEK DIALYTIKA TONOSqKORONISqMUSICAL PENTASEMEyTETRASEMEzRISEMEqPERISPOMENIqYPOGEGRAMMENI
kHOMOTHETIC ABOVEmOK ABOVEmRNkINFINITYmVERTED BREVEy BELOWvIDGE BELOWtDOUBLE ARCH ABOVEz ARCH BELOW
lS BELOWkKATAKANA-HIRAGANA SEMI-VOICED SOUND MARKzNA VOICED SOUND MARKmVYKA ABOVE LEFTxRIGHT
kLATIN LETTER SMALL CAPITAL GzALL CAPITAL LzALL CAPITAL MzALL CAPITAL NzALL CAPITAL R
qSMALL LETTER AzTER A WITH DIAERESISzTER AEzTER ALPHAzTER AOzTER AVzTER BzTER BETAzTER C
zTER C CEDILLAzTER DzTER EzTER ESHzTER ETHzTER FzTER FLATTENED OPEN A ABOVEzTER GzTER HzTER I
zTER INSULAR DzTER INSULAR GzTER INSULAR RzTER INSULAR TzTER KzTER LzTER L WITH DOUBLE MIDDLE TILDE
zTER LONG SzTER MzTER NzTER OzTER O WITH DIAERESISzTER O WITH LIGHT CENTRALIZATION STROKEzTER P
zTER RzTER R BELOWzTER R ROTUNDAzTER SzTER SCHWAzTER TzTER TURNED W BELOWzTER U
zTER U WITH DIAERESISzTER U WITH LIGHT CENTRALIZATION STROKEzTER VzTER WzTER W BELOWzTER XzTER Z
lEFT ANGLE ABOVEvBELOWqRROW ABOVEvBELOWuHEAD ABOVEzBELOWpHALF RING ABOVEzBELOWrRPOON ABOVE
pPARENTHESIS ABOVE LEFTzS BELOW LEFTpRIGHT ARROW ABOVEzW BELOWpTACK BELOWoWARDS ARROW OVERLAY
uHARPOON WITH BARB DOWNWARDSlIGATURE LEFT HALFzALF BELOWtRIGHT HALFzHALF BELOW
nHT CENTRALIZATION STROKE BELOWlONG DOUBLE SOLIDUS OVERLAYpSOLIDUS OVERLAYqTROKE OVERLAY
pVERTICAL LINE OVERLAYmW LINEkMACRONq BELOWrLEFT HALFzF BELOWrRIGHT HALFzLF BELOWq-ACUTErBREVE
rGRAVElINUS SIGN BELOWkNOT TILDE ABOVElUMBER SIGN ABOVEkOGONEKq ABOVElLD PERMIC LETTER ANzER DOI
zER NENOEzER SIIzER ZATAlPEN MARK BELOWlVERLINEkPALATALIZED HOOK BELOWmRENTHESES ABOVEwBELOW
wOVERLAYlLUS SIGN ABOVEuBELOWkRETROFLEX HOOK BELOWmVERSE SOLIDUS OVERLAYrD COMMA ABOVE
lIGHT ARROW ABOVEwBELOWvHEAD ABOVEz AND DOWN ARROWHEAD BELOWz AND UP ARROWHEAD BELOWz BELOW
qHALF RING ABOVEz BELOWsRPOON ABOVEqPARENTHESIS ABOVE RIGHTzIS BELOW RIGHTqTACK BELOW
pWARDS HARPOON WITH BARB DOWNWARDSmNG ABOVEpBELOWpOVERLAYkSEAGULL BELOWlHORT SOLIDUS OVERLAY
rTROKE OVERLAYqVERTICAL LINE OVERLAYlNAKE BELOWlQUARE BELOWsRACKETS ABOVE
lTRONG CENTRALIZATION STROKE BELOWlUSPENSION MARKkTHREE DOTS ABOVElILDEp BELOWqLEFT HALF BELOW
qOVERLAYqRIGHT HALF BELOWlRIPLE ACUTE ACCENTrDOTrUNDERDOTlURNED COMMA ABOVEkUP TACK ABOVEsBELOW
mWARDS ARROW BELOWlR ABOVElS ABOVEkVERTICAL LINE ABOVEyBELOWtTILDEkWIDE BRIDGE ABOVE
pINVERTED BRIDGE BELOWmGGLY LINE BELOWkX ABOVEmBELOWl-X BELOWkZIGZAG ABOVErBELOWdETdMAeERCIAL AT
lMINUS SIGNdPASSeLEMENTeOSITION SYMBOLeRESSIONcNFETTI BALLeOUNDED FACEeUSED FACE
dGRUENT WITH DOT ABOVEdICAL TAPERdJUNCTIONdSTRUCTION SIGNnWORKERdTAINS AS MEMBERmNORMAL SUBGROUP
zUP OR EQUAL TOjWITH LONG HORIZONTAL STROKEoOVERBARoVERTICAL BAR AT END OF HORIZONTAL STROKE
eINUOUS UNDERLINE SYMBOLeOUR INTEGRALeROL KNOBSiSEQUENCE INTRODUCERdVENIENCE STOREcOKED RICEeIEfNG
cPTIC CAPITAL LETTER AKHMIMIC KHEIxLFAwBOHAIRIC KHEIwCROSSED SHEIyYPTOGRAMMIC EIEzPTOGRAMMIC GANGIA
zPTOGRAMMIC NIzPTOGRAMMIC SHEIwDALDAxEIxIALECT-P ALEFzLECT-P HORIzLECT-P KAPAzLECT-P NIwEIEwFEIxI
wGAMMAyNGIAwHATExORIwIAUDAwKAPAxHEIyIxSIwL-SHAPED HAxAULAwMIwNIwOxLD COPTIC AINz COPTIC DJA
z COPTIC ESHz COPTIC GANGIAz COPTIC HAz COPTIC HATz COPTIC HEIz COPTIC HORIz COPTIC OOU
z COPTIC SHEIz COPTIC SHIMAz NUBIAN NGIz NUBIAN NYIz NUBIAN SHIMAz NUBIAN WAUxOUwPIxSIwROwSAMPIxHEI
yIMAxIMAxOUwTAUxHETHEwUAwVIDAwZATAiOMBINING NI ABOVErSPIRITUS ASPERz LENIShEPACT DIGIT EIGHTtFIVE
uOURtNINEtONEtSEVENuIXtTHREEuWOnNUMBER EIGHT HUNDREDzYuFIFTYwVE HUNDREDvORTYwUR HUNDRED
uNINE HUNDREDyTYuONE HUNDREDuSEVEN HUNDREDzTYvIX HUNDREDxTYuTENvHIRTYwREE HUNDREDvWENTYwO HUNDRED
nTHOUSANDS MARKhFRACTION ONE HALFiULL STOPhMORPHOLOGICAL DIVIDERhOLD NUBIAN DIRECT QUESTION MARK
sFULL STOPsINDIRECT QUESTION MARKsVERSE DIVIDERhSMALL LETTER AKHMIMIC KHEIvLFAuBOHAIRIC KHEI
uCROSSED SHEIwYPTOGRAMMIC EIEzOGRAMMIC GANGIAzOGRAMMIC NIzOGRAMMIC SHEIuDALDAvEIvIALECT-P ALEF
zCT-P HORIzCT-P KAPAzCT-P NIuEIEuFEIvIuGAMMAwNGIAuHATEvORIuIAUDAuKAPAvHEIwIvSIuL-SHAPED HAvAULAuMI
uNIuOvLD COPTIC AINzOPTIC DJAzOPTIC ESHzOPTIC GANGIAzOPTIC HAzOPTIC HATzOPTIC HEIzOPTIC HORI
zOPTIC OOUzOPTIC SHEIzOPTIC SHIMAyNUBIAN NGIzUBIAN NYIzUBIAN SHIMAzUBIAN WAUvOUuPIvSIuROuSAMPIvHEI
wIMAvIMAvOUuTAUvHETHEuUAuVIDAuZATAiYMBOL KAIpHI ROoMI ROoPI ROoSHIMA SIMApTAUROSoTAU RO
dYLEFT SYMBOLeRIGHT SIGNcRALdNISH VERSE DIVIDERdRESPONDS TOcUCH AND LAMPdNTERBOREhSINK
fING ROD TENS DIGIT EIGHTyFIVEzOURyNINEyONEySEVENzIXyTHREEzWOnUNIT DIGIT EIGHTyFIVEzOURyNINEyONE
ySEVENzIXyTHREEzWOdPLE WITH HEARTcWd FACEbRcABcEDIT CARDdSCENT MOONcICKETh BAT AND BALLcOCODILE
dISSANTdSS MARKgOF JERUSALEMjLORRAINEgPATTY WITH LEFT CROSSBARrRIGHT CROSSBARhOMMEE
m WITH HALF-CIRCLE BELOWfED FLAGSiNEGATIVE SQUARED LATIN CAPITAL LETTER PiSWORDSfING LANESdWNcUTCH
dZEIRO SIGNcYING CAT FACEhFACEdSTAL BALLbSIbUBE ROOTcCUMBERcNEIFORM NUMERIC SIGN EIGHT ASHzGHT DISH
zGHT GESH2zGHT SHAR2zGHT UzGHT U VARIANT FORMzGHT VARIANT FORM USSUzGHT VARIANT FORM USSU3
yLAMITE FIFTYzAMITE FORTYzAMITE ONE THIRDzAMITE TWO THIRDSxFIVE ASHzVE ASH TENUzVE BAN2
zVE BAN2 VARIANT FORMzVE BURUzVE DISHzVE GESH2zVE GESHUzVE SHAR2zVE SHARUzVE SIXTHS DISHzVE U
zVE U VARIANT FORMyOUR ASHzUR ASH TENUzUR BAN2zUR BAN2 VARIANT FORMzUR BURUzUR DISHzUR GESH2
zUR GESHUzUR SHAR2zUR SHARUzUR UzUR U VARIANT FORMzUR VARIANT FORM LIMMUzUR VARIANT FORM LIMMU A
zUR VARIANT FORM LIMMU BzUR VARIANT FORM LIMMU4xNIGIDAESHzGIDAMINzNE ASHzNE DISHzNE GESH2zNE SHAR2
zNE UzNE U VARIANT FORMzNE VARIANT FORM ILIMMUzNE VARIANT FORM ILIMMU AzNE VARIANT FORM ILIMMU3
zNE VARIANT FORM ILIMMU4xOLD ASSYRIAN ONE QUARTERzD ASSYRIAN ONE SIXTHyNE BAN2zE BURUzE EIGHTH ASH
zE ESHE3zE GESH2zE GESHUzE HALF GURzE QUARTER ASHzE QUARTER GURzE SHARUzE THIRD DISH
zE THIRD VARIANT FORM AxSEVEN ASHzVEN DISHzVEN GESH2zVEN SHAR2zVEN UzVEN U VARIANT FORM
zVEN VARIANT FORM IMIN AzVEN VARIANT FORM IMIN BzVEN VARIANT FORM IMIN3yHAR2 TIMES GAL PLUS DISH
zAR2 TIMES GAL PLUS MINyIX ASHzX ASH TENUzX DISHzX GESH2zX SHAR2zX UzX U VARIANT FORM
zX VARIANT FORM ASH9xTHREE ASHzREE ASH TENUzREE BAN2zREE BURUzREE BURU VARIANT FORMzREE DISH
zREE GESH2zREE GESHUzREE SHAR2zREE SHAR2 VARIANT FORMzREE SHARUzREE SHARU VARIANT FORM
zREE VARIANT FORM ESH16zREE VARIANT FORM ESH21yWO ASHzO ASH TENUzO BAN2zO BURUzO ESHE3zO GESH2
zO GESHUzO SHAR2zO SHARUzO THIRDS DISHzO THIRDS VARIANT FORM AkPUNCTUATION SIGN DIAGONAL COLON
zN DIAGONAL QUADCOLONzN DIAGONAL TRICOLONzN OLD ASSYRIAN WORD DIVIDERzN VERTICAL COLONkSIGN A
q TIMES AxBADxGAN2 TENUxHAxIGIxLAGAR GUNUxMUSHxSAGq2qBr GUNUsTIMES ASH2yDUN3 GUNUyGALzAN2 TENUyHA
yIGI GUNUzMINyLAGAByNUNzUN TENUySHESHzHU2yU PLUS U PLUS Ur2s TIMES AzBALAGzGAN2 TENUzME PLUS EN
zSHA3zTAK4qDr TIMES ESH2qKr TIMES ERIN2ySHITA PLUS GISHqLr TIMES ALyDIM2yGISHyHAyKAD3zIySHEyUSHrAN
rEPHqMARt TIMES KUGz SHEqNr OVER ANsPLUS NAGA OPPOSING AN PLUS NAGAzGA SQUAREDsTHREE TIMESrSHEqPIN
qRADt TIMES KURrKABqSAL2rHs KABA TENUtOVER ASH OVER ASHzSH OVER ASH CROSSING ASH OVER ASH OVER ASH
zSH TUG2 OVER TUG2 TUG2 OVER TUG2 PAPtZIDA TENUs2sGABpBArDs TIMES DISH TENUrG3rHAR2v TIMES AB2
zES NIzES ZArLs OVER BALsAGrRsA2qIr TIMES AyGARyIGI GUNUqUr CROSSING BUsOVER BU ABz TIMES NA2z UN
rLUGu OVER BULUGrRs2pDAr TIMES TAK4rGs KISIM5 TIMES A PLUS MASHz TIMES AMARz TIMES BALAGz TIMES BI
z TIMES GAz TIMES GA PLUS MASHz TIMES GIz TIMES GIR2z TIMES GUDz TIMES HAz TIMES IR
z TIMES IR PLUS LUz TIMES KAKz TIMES LAz TIMES LUz TIMES LU PLUS MASH2z TIMES LUMz TIMES NE
z TIMES PAP PLUS PAPz TIMES SIz TIMES TAK4z TIMES U2 PLUS GIR2z TIMES U2 PLUS MASHz TIMES USH
tTIMES KURs3rMrRsA3t4qIrBrMs TIMES IGIzSHEzU U Us2t TIMES UDrNs KASKAL U GUNU DISHrSHt PLUS SHUqU
r GUNUsOVER DUsSHESHIGrBs TIMES ESH2zSHEs2rGs TIMES ANSHEzASHzASH AT LEFTzDINzDUNzERIN2zGAzGI
zGIR2 GUNUzGISHzHAzHIzIGI GUNUzKASKALzKURzKUSHU2zKUSHU2 PLUS KASKALzLAK-020zLAMzLAM TIMES KUR
zLUH PLUS GISHzMASHzMESzMIzNIzPIzSHEzSI GUNUsUDrHrNs3t GUNUy GUNUs4rR2pEq OVER E NUN OVER NUN
rTIMES PAPq2r TIMES A PLUS HA PLUS DAyGARyKURyMIyPAPySALzHEyUqDINqGIRqLqNr CROSSING ENsOPPOSING EN
sSQUAREDsTIMES GAN2zAN2 TENUyMEqRENrIN2u XqSH2t CROSSING ESH2qZENt SHESHIG TIMES ASHzIG TIMES HI
zIG TIMES IGI GUNUzIG TIMES LAzIG TIMES LALzIG TIMES MEzIG TIMES MESzIG TIMES SUuTIMES A
z A PLUS LALz A PLUS LAL TIMES LALz ANz BADz DUN3 GUNUz DUN3 GUNU GUNUz GUDz HAz HA GUNUz IGI GUNU
z KASKALz KASKAL SQUAREDz KU3z LAz LAL TIMES LALz LIz LUz SHEz SUz U2z UDpGAr GUNUr2s OVER GA2
tTIMES A PLUS DA PLUS HAzA PLUS HAzA PLUS IGIzAB2 TENU PLUS TABzANzAN PLUS KAK PLUS AzASHzASH2
zASH2 PLUS GALzBADzBAHAR2zBAR PLUS RAzBURzBUR PLUS RAzDAzDIzDIM GUNUzDIM TIMES SHEzDUB
zDUG TIMES IGI GUNUzDUG TIMES KASKALzELzEL PLUS LAzENzEN TIMES GAN2 TENUzERENzGAzGAN2 TENUzGAR
zGAR PLUS DIzGAR PLUS NEzGIzGI4zGI4 PLUS AzGIR2 PLUS SUzHA PLUS AzHA PLUS LU PLUS ESH2zHAL
zHAL PLUS LAzHI PLUS LIzHUB2zIGI GUNUzISH PLUS HU PLUS ASHzKAKzKASKALzKIDzKID PLUS LALzKU3 PLUS AN
zKUSHU2 PLUS KASKALzLAzLAMzLAM TIMES KURzLUHzME PLUS ENzMIzMUSHzNEzNE PLUS E2zNE PLUS GIzNUN
zNUN OVER NUNzPAzSALzSARzSHEzSHE PLUS TURzSHIDzSHIMzSUMzTAK4zUzUDzUD PLUS DUzZIZ2rBAt CROSSING GABA
uROTATED NINETY DEGREESrDs OVER GAD GAR OVER GARrLs GAD OVER GAD GAR OVER GARsAMrMrNs2
t CROSSING GAN2uOVER GAN2uTENUrRs3rSHANqE22rSHTINw TIMES KURzMES UqIr CROSSING GIsTIMES EyUr4
s CROSSING GI4tOVER GI4rDIMrGrR2t GUNUs3t TIMES A PLUS IGIz GAN2 TENUz IGIz LU PLUS IGIz PArSALsH
t CROSSING GISHuTENUvIMES BADz GISH CROSSING GISHz TAK4qUr CROSSING GUr2s GUNUtTIMES IGI GUNUzKAK
zKAK TIMES IGI GUNUzNUNzSAL PLUS TUG2rDs OVER GUD LUGALtPLUS GISH TIMES TAK4tTIMES A PLUS KURzKURrL
rMs TIMES SHErRs7sUNtSHpHAr GUNUsTENUw GUNUrLqIr TIMES ASHzSH OVER HI TIMES ASHzSH2yBADyDISHyGAD
yKINyNUNySHEyUqUrB2t TIMES ANz HALz KASKALz LISHz UDrL2rSHpIq AqBqDIMt OVER IDIM BURzIDIM SQUAREDqG
rIs DIBtGUNUtOVER IGI SHIR OVER SHIR UD OVER UDtRIqLr TIMES GAN2 TENUr2qMr CROSSING IMsOPPOSING IM
sSQUAREDsTIMES TAK4rINqNqRqSHpKAr TIMES AzDzD PLUS KU3zNSHEzSH2zSH3yBADzALAGzARzIzUyERIN2zSH2yGAzAL
zAN2 TENUzARzAR PLUS SHA3 PLUS AzIzIR2zISHzISH CROSSING GISHzISH PLUS SARzUzUDzUR7yHI TIMES ASH2
yIGIzMyKAzAKzIzIDyLIzUzUMyMEzE PLUS DUzE PLUS GIzE PLUS TEzIzI PLUS NUNUZyNEzUNyPAzIyRUySAzARzHAzHE
zHIDzHUzHULzIGzUHURyTARzUyUz U Uz2zDzMUM TIMES PAzRzR2zSHyZIr2s CROSSING KA2rBrD2s3s4s5t OVER KAD5
rKs TIMES IGI GUNUrLs CROSSING KALtTIMES BADrM2s4rP ELAMITErSKALv LAGAB TIMES U OVER LAGAB TIMES U
wOVER KASKAL LAGAB TIMES U OVER LAGAB TIMES UqESH2qIr TIMES BADyUzDrDrNrSALsHsIM5v OVER KISIM5qU
r OVER HI TIMES ASH2 KU OVER HI TIMES ASH2r3r4s VARIANT FORMr7rLs GUNUrNrRs OPPOSING KURrSHU2qWU318
pLArGABu SQUAREDvTIMES AzS A PLUS DA PLUS HAzS A PLUS GARzS A PLUS LALzS ALzS ANzS ASH ZIDA TENU
zS BADzS BIzS DARzS ENzS GAzS GARzS GIzS GUDzS GUD PLUS GUDzS HAzS HALzS HI TIMES NUNzS IGI GUNU
zS IMzS IM PLUS HAzS IM PLUS LUzS KIzS KINzS KU3zS KULzS KUL PLUS HI PLUS AzS LAGABzS LISHzS LU
zS LULzS MEzS ME PLUS ENzS MUSHzS NEzS SHE PLUS SUMzS SHITA PLUS GISH PLUS ERIN2
zS SHITA PLUS GISH TENUzS SHU2zS SHU2 PLUS SHU2zS SUMzS TAGzS TAK4zS TE PLUS A PLUS SU PLUS NAzS U
zS U PLUS AzS U PLUS U PLUS UzS U2 PLUS ASHzS UDzS USHzS ZU OVER ZUtRu GUNUz OVER LAGAR GUNU SHE
vTIMES SHEzS SHE PLUS SUMrHSHUrK-003u21v5u30u50v1u62u79 OVER LAK-079 GUNUu80v1 OVER LAK-081u92t130
u42t210v9u20v5v8u38u65v6t343v7v8u83v4u90t441v9w TIMES GUzMES IGIzMES PAP PLUS LU3
zMES PAP PLUS PAP PLUS LU3zMES U2 PLUS BAu50v7u70u83u90v2v3v5t550t608u17w TIMES ASHzMES BAD
zMES DUN3 GUNU GUNUzMES KU3zMES LAzMES TARzMES TEzMES U2zMES UDzMES URUDAu36u48w TIMES DUBzMES GA
zMES IGIzMES IGI GUNUzMES NIzMES PAP PLUS PAP PLUS LU3zMES SHESH PLUS KIzMES UDzMES URUDAt724u49rL
s TIMES LALrMs TIMES KURzKUR PLUS RUqIrLrMMU2rSHqUr TIMES BADr2s CROSSING LU2tGUNU TIMES ASH
tOPPOSING LU2tSHESHIGzG TIMES BADuQUAREDtTENUuIMES ALzBADzDISHzESH2zESH2 PLUS LALzESH2 TENU
zGAN2 TENUzHALzHI TIMES BADzIMzKAD2zKAD3zKAD3 PLUS ASHzKIzLA PLUS ASHzLAGABzME PLUS ENzNEzNUzPAP
zPAP PLUS PAP PLUS LU3zSHUzSI PLUS ASHzSIK2 PLUS BUzTAK4zTUG2r3rGALu OPPOSING LUGALwVER LUGAL
vSHESHIGrHrLrMs OVER LUMzUM GAR OVER GARpMAr GUNUsTIMES TAK4r2rHrRrSHt2qErSsHqIr PLUS ZA7rNqU
r OVER MUrGs GUNUrNSUBrRGU2rSHt CROSSING MUSHuOVER MUSHzMUSH TIMES A PLUS NAzMUSH TIMES GA
zMUSH TIMES KAKuTIMES Az KURz ZAt3u GUNUvTIMES AzS A PLUS DIzS DIzS ZApNAr2r4rGAt INVERTED
uOPPOSING NAGAuTIMES SHU TENUtRrMs NUTILLUs2qEr SHESHIGsTIMES AyUDqIr TIMES Er2rMs TIMES GAN2 TENU
zGAR PLUS GAN2 TENUrNs9sDA2v TIMES ANzES ASHzES ASH PLUS ASHzES BALzES DIM GUNUzES GIzES GISH
zES GUDzES GULzES HIzES KESH2zES LAK-050zES MASHzES ME PLUS GAN2 TENUzES NEzES NUNzES PAP PLUS PAP
zES SHEzES SHE PLUS A ANzES SHE PLUS ASHzES SHE PLUS ASH PLUS ASHzES UzES U PLUS UzES U2 PLUS ASH
zES URUDAzES USHrSAGqUr11t OVER NU11 BUR OVER BURuROTATED NINETY DEGREESuTENUrNs CROSSING NUN
zNG NUN LAGAR OVER LAGARtLAGAR TIMES GARzTIMES MASHzTIMES SALzTIMES SAL OVER NUN LAGAR TIMES SAL
zTIMES USHtOVER NUNtTENUsUZu AB2 TIMES ASHGABzTIMES BIzTIMES DUGzTIMES GUDzTIMES IGI GUNU
zTIMES KAD3zTIMES LAzTIMES NEzTIMES SILA3zTIMES U2vKISIM5 TIMES BIzM5 TIMES BI UpPArDrNrPqESH2
u ASTERISKqIr CROSSING PIsTIMES AzByBIzUyEyIzByUz2rR2sIGu OPPOSING PIRIGvTIMES KALzS UDzS ZApRArBqI
qUpSArGs GUNUx TIMES HAtNUTILLUtOVER SAGtTIMES AzDUzDUBzENzHAzIGI GUNUzKAKzKURzLUMzMIzNUNzSAL
zSHE AT LEFTzSHIDzTABzTAK4zU2zUBzUMzURzUSHrLs LAGAB TIMES ASH2rNGA2rRqHAs3t TIMES Az BADz GISHz NE
z SHU2z TURz Uz U PLUS As6t TENUsB6sR2rEs HUtOVER SHEzHE GAD OVER GAD GAR OVER GAR
zHE TAB OVER TAB GAR OVER GARtPLUS HUB2yNAM2ySARsG9sNsSHu2uLAMrIDt TIMES Az IMsMt TIMES Az BAL
z BULUGz DINz GARz IGIz IGI GUNUz KUSHU2z LULz MUGz SALsNIGsRt OVER SHIR BUR OVER BURuTENUsTArU
s OVER INVERTED SHUs2t PLUS DUG TIMES NIzE2 TIMES ANsBURqIr GUNUsTIMES TAK4rGs4t OVER SIG4 SHU2rK2
rLA3qUr OVER SUrDs2rHURrMsASHrRs9pTAr ASTERISKsGUNUsTIMES HIyMIrB
s OVER TAB NI OVER NI DISH OVER DISHtSQUAREDrGs TIMES BIzGUDzSHEzSHUzTUG2zUDrK4t PLUS SAGrRqEr GUNU
qIr TENUr2rLrRs OVER TIRzIR GAD OVER GAD GAR OVER GARtTIMES TAK4qUrG2rKrMs TIMES GAN2 TENU
zTHREE DISHrRs OVER TUR ZA OVER ZApUq GUDrOVER U PA OVER PA GAR OVER GARySUR OVER SUR
yU REVERSED OVER U REVERSEDrUs Uq2qBqDr GUNUsKUSHU2sSHESHIGz TIMES BADsTIMES BADyMIyU PLUS U PLUS U
z PLUS U PLUS U GUNUrUGqMr TIMES LAGAByMEzE PLUS DAySHA3yUrBINrUMt TIMES KASKALz PAqNr GUNUqR
r CROSSING URsSHESHIGr2s INVERTEDtTIMES A PLUS HAzA PLUS NAzALzHAzNUNzU2zU2 PLUS ASHzU2 PLUS BIzUD
r4rIs3rUs TIMES AzASHGABzBARzDARA3zDUNzGAzGALzGAN2 TENUzGARzGUzHAzIGIzIMzISHzKIzLAK-668zLU3zLUMzMIN
zPAzSHEzSIG4zTUzU PLUS GUDzUDzURUDAsDAu TIMES UqSHs TIMES AzKUzKURzTAK4s2sUMXsXqTUKIqZ3
s TIMES KASKALrUpZAr SQUARED TIMES KURsTENUr7rGrMXqE2qIr OVER ZIr3rBs KABA TENUrGrZ2qU
r OVER ZU PLUS SARr5s TIMES AzTHREE DISH TENUrBURrMcP ON BLACK SQUAREeWITH STRAWdCAKEdIDO
cRLING STONEeY BRACKET EXTENSIONgLOGICAL ANDoORiOPdRENCY EXCHANGEjSIGNeY AND RICE
dVED STEM PARAGRAPH SIGN ORNAMENTcSTARDeOMScT OF MEATbYCLONEcLINDRICITYcPRIOT SYLLABLE ArErIrJAsO
rKAsEsIsOsUrLAsEsIsOsUrMAsEsIsOsUrNAsEsIsOsUrOrPAsEsIsOsUrRAsEsIsOsUrSAsEsIsOsUrTAsEsIsOsUrUrWAsEsI
sOrXAsErZAsOeO-MINOAN SIGN CM001w2w4w5w6w7w8w9v10w1w2xBw3w5w7w9v21w3w4w5w6w7w8w9v30w3w4w5w6w7w8w9
v40w1w4w6w7w9v50w1w2w3w4w5w6w8w9v60w1w2w3w4w6w7w8w9v70w1w2w3w4w5xBw6w8w9v80w1w2w3w4w5w6w7w8w9v90w1
w2w4w5w6w7w8w9u100w1w2w3w4w5w7w8w9v10w2w4u301w2cRILLIC CAPITAL LETTER Az WITH BREVEz WITH DIAERESIS
zBKHASIAN CHEzBKHASIAN CHE WITH DESCENDERzBKHASIAN DZEzBKHASIAN HAzLEUT KAyBARRED O
zARRED O WITH DIAERESISzASHKIR KAzEzIG YUSzINOCULAR OzLENDED YUSzROAD OMEGAzYELORUSSIAN-UKRAINIAN I
yCCHEzHEzHE WITH DESCENDERzHE WITH DIAERESISzHE WITH VERTICAL STROKEzLOSED LITTLE YUSzROSSED OyDCHE
zEzJEzJERVzOUBLE MONOCULAR OzOUBLE OzWEzZEzZELOzZHEzZWEzZZEzZZHEyEz WITH DIAERESISzFzL
zL WITH DESCENDERzL WITH HOOKzL WITH MIDDLE HOOKzL WITH TAILzMzM WITH TAILzNzN WITH DESCENDER
zN WITH HOOKzN WITH LEFT HOOKzN WITH MIDDLE HOOKzN WITH TAILzRzR WITH TICKzSzS WITH DESCENDERyFITA
yGHEzHE WITH DESCENDERzHE WITH MIDDLE HOOKzHE WITH STROKEzHE WITH STROKE AND HOOKzHE WITH UPTURNzJE
yHAzA WITH DESCENDERzA WITH HOOKzA WITH STROKEzARD SIGNzWEyIz WITH DIAERESISz WITH GRAVE
z WITH MACRONzEzE WITH BREVEzE WITH GRAVEzOzOTAzOTIFIED AzOTIFIED BIG YUSzOTIFIED CLOSED LITTLE YUS
zOTIFIED EzOTIFIED LITTLE YUSzOTIFIED YATzZHITSAzZHITSA WITH DOUBLE GRAVE ACCENTyJEyKA
zA WITH DESCENDERzA WITH HOOKzA WITH STROKEzA WITH VERTICAL STROKEzHAKASSIAN CHEzJEzOMI DEzOMI DJE
zOMI DZJEzOMI LJEzOMI NJEzOMI SJEzOMI TJEzOMI ZJEzOPPAzSIyLHAzITTLE YUSzJEyMONOCULAR OzONOGRAPH UK
yNEUTRAL YERzJEyOz WITH DIAERESISzMEGAzMEGA WITH TITLOzTyPEzE WITH DESCENDERzE WITH MIDDLE HOOKzSI
yQAyREVERSED DZEzEVERSED TSEzEVERSED YUzEVERSED ZEzHAzOUND OMEGAySCHWAzCHWA WITH DIAERESIS
zEMISOFT SIGNzHAzHCHAzHHAzHHA WITH DESCENDERzHORT IzHORT I WITH TAILzHORT UzHWEzOFT DEzOFT EL
zOFT EMzOFT SIGNzTRAIGHT UzTRAIGHT U WITH STROKEyTCHEzEzE WITH DESCENDERzE WITH MIDDLE HOOKzSEzSHE
zSSEzSWEzWEyUz WITH DIAERESISz WITH DOUBLE ACUTEz WITH MACRONzKzKRAINIAN IEyVEyWEyYAzAEzATzERU
zERU WITH BACK YERzERU WITH DIAERESISzIzNzUyZEzE WITH DESCENDERzE WITH DIAERESISzEMLYAzHE
zHE WITH BREVEzHE WITH DESCENDERzHE WITH DIAERESISzHWEsIGATURE A IEz EN GHEz TE TSEjKAVYKA
jLETTER MULTIOCULAR OqPALOCHKAqSMALL CAPITAL ELjPAYEROKjSMALL LETTER Ax WITH BREVEzITH DIAERESIS
xBKHASIAN CHEzHASIAN CHE WITH DESCENDERzHASIAN DZEzHASIAN HAxLEUT KAwBARRED OzRED O WITH DIAERESIS
ySHKIR KAxExIG YUSyNOCULAR OxLENDED YUSxROAD OMEGAxYELORUSSIAN-UKRAINIAN IwCCHExHEz WITH DESCENDER
z WITH DIAERESISz WITH VERTICAL STROKExLOSED LITTLE YUSxROSSED OwDCHExExJEzRVxOUBLE MONOCULAR O
zBLE OxWExZEzLOyHEyWEyZEzHEwEx WITH DIAERESISxFxLy WITH DESCENDERzWITH HOOKzWITH MIDDLE HOOK
zWITH TAILxMy WITH TAILxNy WITH DESCENDERzWITH HOOKzWITH LEFT HOOKzWITH MIDDLE HOOKzWITH TAILxR
y WITH TICKxSy WITH DESCENDERwFITAwGHEz WITH DESCENDERz WITH MIDDLE HOOKz WITH STROKE
z WITH STROKE AND HOOKz WITH UPTURNxJEwHAy WITH DESCENDERzWITH HOOKzWITH STROKEyRD SIGNxWEwI
x WITH DIAERESISzITH GRAVEzITH MACRONxEy WITH BREVEzWITH GRAVExOyTAzIFIED AzIFIED BIG YUS
zIFIED CLOSED LITTLE YUSzIFIED EzIFIED LITTLE YUSzIFIED YATxZHITSAzITSA WITH DOUBLE GRAVE ACCENTwJE
wKAy WITH DESCENDERzWITH HOOKzWITH STROKEzWITH VERTICAL STROKExHAKASSIAN CHExJExOMI DEzI DJEzI DZJE
zI LJEzI NJEzI SJEzI TJEzI ZJEyPPAxSIwLHAxITTLE YUSxJExONG-LEGGED DEwMONOCULAR OzOGRAPH UKwNARROW O
xEUTRAL YERxJEwOx WITH DIAERESISxMEGAzGA WITH TITLOxTwPALOCHKAxEy WITH DESCENDERzWITH MIDDLE HOOK
xSIwQAwREVERSED DZEzERSED TSEzERSED YUzERSED ZExHAxOUND OMEGAzNDED VEwSCHWAzWA WITH DIAERESIS
xEMISOFT SIGNxHAyCHAyHAzA WITH DESCENDERyORT IzRT I WITH TAILzRT UyWExOFT DEzT ELzT EMzT SIGN
xTRAIGHT UzAIGHT U WITH STROKEwTALL HARD SIGNzL TEzL YATxCHExEy WITH DESCENDERzWITH MIDDLE HOOK
xHREE-LEGGED TExSEyHEySEyWExWEwUx WITH DIAERESISzITH DOUBLE ACUTEzITH MACRONxKyRAINIAN IE
xNBLENDED UKwVEwWExIDE ESwYAyEyTxERUzU WITH BACK YERzU WITH DIAERESISxIxNxUwZEy WITH DESCENDER
zWITH DIAERESISyMLYAxHEz WITH BREVEz WITH DESCENDERz WITH DIAERESISyWEqIGATURE A IEyEN GHEyTE TSE
jTHOUSANDS SIGNaDAGGERg KNIFEhWITH LEFT GUARDmRIGHT GUARDcLET SYMBOLcNCERdGOcRK SHADEgUNGLASSES
cSH SYMBOLfWITH LEFT UPTURNeED LOW LINEhOVERLINEhTRIANGLE-HEADED RIGHTWARDS ARROWcTA LINK ESCAPEbC1
c2c3c4cSbEAF PERSONcCIDUOUS TREEeMAL EXPONENT SYMBOLiSEPARATOR KEY SYMBOLdREASE FONT SIZE SYMBOLcER
cGREE CELSIUShFAHRENHEIThSIGNcLdETEdIVERY TRUCKdTA EQUAL TO
cNTISTRY SYMBOL LIGHT DOWN AND HORIZONTALzWN AND HORIZONTAL WITH CIRCLE
zWN AND HORIZONTAL WITH TRIANGLEzWN AND HORIZONTAL WITH WAVExUP AND HORIZONTAL
z AND HORIZONTAL WITH CIRCLEz AND HORIZONTAL WITH TRIANGLEz AND HORIZONTAL WITH WAVE
xVERTICAL AND BOTTOM LEFTzRTICAL AND BOTTOM RIGHTzRTICAL AND TOP LEFTzRTICAL AND TOP RIGHT
zRTICAL AND WAVEzRTICAL WITH CIRCLEzRTICAL WITH TRIANGLEcPARTMENT STOREcRELICT HOUSE BUILDING
cSCENDING NODEdERET CAPITAL LETTER AYxBEExCHEExDEExEFyLyMyNzGyRySzHyTHyWxGAYxHxJEExKAYxLONG AzNG AH
zNG EzNG IzNG OzNG OOxOIyWxPEExSHORT AzORT AHzORT EzORT IzORT OzORT OOxTEEyHEExVEExWUxYEExZEEyHEE
iSMALL LETTER AYvBEEvCHEEvDEEvEFwLwMwNxGwRwSxHwTHwWvGAYvHvJEEvKAYvLONG Az AHz Ez Iz Oz OOvOIwWvPEE
vSHORT AzT AHzT EzT IzT OzT OOvTEEwHEEvVEEvWUvYEEvZEEwHEEfTg ISLANDdKTOP COMPUTERiWINDOW
cVANAGARI ABBREVIATION SIGNmCUTE ACCENTlCARETlDANDAmIGIT EIGHTrFIVEsOURrNINErONErSEVENsIXrTHREEsWO
rZEROmOUBLE DANDAlGAP FILLERmRAVE ACCENTlHEADSTROKElJAIN OMlLETTER AtAtItUtWtYsBAtBAtHAsCAuNDRA AzE
zOtHAsDAtDAuDAvHAuHAtHAsEsFAsGAtGAtHAuHAtLOTTAL STOPsHAtEAVY YAsItIsJAtHAtJAsKAtHAuHAsLAtLAuLAsMA
uRWARI DDAsNAtGAtNAuNAtYAsOtEtOEsPAtHAsQAsRAtHAtRAsSAtHAuORT AyEyOtSAsTAtHAtTAuHAsUtEtUuEsVA
tOCALIC Lz LLz Rz RRsYAtYAsZAtHAlOMlSIGN ANUSVARArVAGRAHAqCANDRABINDUzDU AVAGRAHAzDU THREEzDU TWO
zDU VIRAMAqDOUBLE CANDRABINDU VIRAMAqHIGH SPACING DOTqINVERTED CANDRABINDUqNUKTAqPUSHPIKAqSIDDHAM
rPACING CANDRABINDUqVIRAMAsSARGAmTRESS SIGN ANUDATTAxUDATTAlVOWEL SIGN AAxIxUxWxYwCANDRA E
zDRA LONG EzDRA OwEwIxIwOxExOEwPRISHTHAMATRA EwSHORT EzRT OwUxExUyEwVOCALIC LzALIC LLzALIC R
zALIC RRdICE CONTROL FOURpONEpSTRINGpTHREEqWObIAERESISdMETER SIGNeOND OPERATOR
iSHAPE WITH A DOT INSIDEiTARGETiWITH BOTTOM HALF BLACKnLEFT HALF BLACKnRIGHT HALF BLACK
nTOP HALF BLACKcE FACE-1j2j3j4j5j6dSEL LOCOMOTIVEcFFERENCE BETWEENcGIT EIGHTl COMMAmFULL STOPgFIVE
k COMMAlFULL STOPhOURk COMMAlFULL STOPgNINEk COMMAlFULL STOPgONEj COMMAkFULL STOPgSEVENl COMMA
mFULL STOPhIXj COMMAkFULL STOPgTHREEl COMMAmFULL STOPhWOj COMMAkFULL STOPgZEROk COMMAlFULL STOP
dRAM FOR EARTHqLY HEAVENuUMANlGREATER YANGuINlHEAVENLY EARTHmUMAN EARTHlLESSER YANGtIN
cMENSION ORIGINcNGBAT CIRCLED SANS-SERIF DIGIT EIGHTzF DIGIT FIVEzF DIGIT FOURzF DIGIT NINE
zF DIGIT ONEzF DIGIT SEVENzF DIGIT SIXzF DIGIT THREEzF DIGIT TWOzF DIGIT ZEROzF NUMBER TEN
iNEGATIVE CIRCLED DIGIT EIGHTzDIGIT FIVEzDIGIT FOURzDIGIT NINEzDIGIT ONEzDIGIT SEVENzDIGIT SIX
zDIGIT THREEzDIGIT TWOzNUMBER TENzSANS-SERIF DIGIT EIGHTzSANS-SERIF DIGIT FIVE
zSANS-SERIF DIGIT FOURzSANS-SERIF DIGIT NINEzSANS-SERIF DIGIT ONEzSANS-SERIF DIGIT SEVEN
zSANS-SERIF DIGIT SIXzSANS-SERIF DIGIT THREEzSANS-SERIF DIGIT TWOzSANS-SERIF DIGIT ZERO
zSANS-SERIF NUMBER TENcRECT CURRENT SYMBOL FORM TWOhHITcSABLED CARePPOINTED BUT RELIEVED FACEnFACE
dCONTINUOUS UNDERLINE SYMBOLdGUISED FACEcTTO MARKcVES AKURU DIGIT EIGHTsFIVEtOURsNINEsONEsSEVENtIX
sTHREEtWOsZEROnOUBLE DANDAmEND OF TEXT MARKmGAP FILLERmINITIAL RAmLETTER AuAtBAuHAtCAuHAtDAuDAvHA
uHAtEtGAuHAtHAtIuItJAtKAuHAtLAuLAtMAtNAuGAuNAuYAtOtPAuHAtRAtSAuHAuSAtTAuHAuTAtUuUtVAtYAuYAtZA
mMEDIAL RAtYAmPREFIXED NASAL SIGNmSIGN ANUSVARArCANDRABINDUrHALANTArNUKTAmVIRAMAnOWEL SIGN AAyIxExI
yIxOxUyUdIDESeNG MASKeSION SIGNkLASHjTIMESdORCE SYMBOLcYA LAMPcZZY FACEgSYMBOLbLEbNA DOUBLE HELIX
bO NOT LITTER SYMBOLcCUMENTi WITH PICTUREoTEXTs AND PICTUREcDOcES NOT CONTAIN AS MEMBER
uNORMAL SUBGROUPzL SUBGROUP OR EQUALjDIVIDEp WITH REVERSED NEGATION SLASHjFORCEjPRECEDEq OR EQUAL
lOVEjSUCCEEDq OR EQUALcGd FACEdRA ABBREVIATION SIGNgLETTER AoAoIoUnBAoHAnCAoHAnDAoDApHAoHAnEnGAoHA
nHAnIoInJAoHAnKAoHAnLAnMAnNAoGAoNAoYAnOnPAoHAnRAoRAnSAoHAoSAnTAoHAoTApHAnUoUnVAnYAgSIGN ANUSVARA
lNUKTAlVIRAMAnSARGAgVOWEL SIGN AAsIsUrErIsIrOrUsUrVOCALIC RzRRcLLAR SIGNdPHIN
cMINO TILE HORIZONTAL BACKw-00-00z-01z-02z-03z-04z-05z-06y1-00z-01z-02z-03z-04z-05z-06y2-00z-01z-02
z-03z-04z-05z-06y3-00z-01z-02z-03z-04z-05z-06y4-00z-01z-02z-03z-04z-05z-06y5-00z-01z-02z-03z-04z-05
z-06y6-00z-01z-02z-03z-04z-05z-06mVERTICAL BACKu-00-00z1z2z3z4z5z6w1-00z1z2z3z4z5z6w2-00z1z2z3z4z5
z6w3-00z1z2z3z4z5z6w4-00z1z2z3z4z5z6w5-00z1z2z3z4z5z6w6-00z1z2z3z4z5z6cNG SIGNcORcT ABOVEeMINUS
eOPERATORePLUSdTED CIRCLEiROSShFENCEhLINE FACEhOBELOShRIGHT-POINTING ANGLEhSOLIDUSiQUARE
hTRANSPOSITION MARKERcUBLE ACUTE ACCENThCIRCLED DIGIT EIGHTvFIVEwOURvNINEvONEvSEVENwIXvTHREEwWO
pNUMBER TENiOLON EQUALiURLY LOOPhDAGGERiOWN TACKhEXCLAMATION MARKhHIGH-REVERSED-9 QUOTATION MARK
iYPHENhINTEGRALlRSECTIONhLEFT ARC GREATER-THAN BRACKETiOGICAL ANDpORjW LINEk-9 QUOTATION MARK
lREVERSED-9 QUOTATION MARKhNESTED GREATER-THANoLESS-THANx WITH UNDERBARhOBLIQUE HYPHENhPLUSiRECEDES
jIMEm QUOTATION MARKhQUESTION MARKhRIGHT ARC LESS-THAN BRACKEThSOLIDUS OPERATORiQUARE INTERSECTION
oUNIONiTACKED COMMAjROKE NOT SIGNiUBSETjCCEEDSjPERSETjSPENSION MARKhUNIONiP TACKhVERTICAL BAR
t DOUBLE LEFT TURNSTILEzE RIGHT TURNSTILEuLEFT TURNSTILEqLINEhWAVY OVERLINEg-ENDED MULTIMAP
hLINE EQUAL TO OR GREATER-THANyLESS-THANmSLANTED EQUAL TO OR GREATER-THANz TO OR LESS-THAN
uGREATER-THAN OR EQUAL TOuLESS-THAN OR EQUAL TOhSTRUCK CAPITAL CwGAMMAwHwNwPxIwQwRwZ
oITALIC CAPITAL DvSMALL DzL EzL IzL JoN-ARY SUMMATIONoSMALL GAMMAuPIgD FEMALE SIGNiMALE SIGNiSYMBOL
dGHNUTcVE OF PEACEcWN ARROWHEADfFISH TAILfRIGHT DIAGONAL ELLIPSISfTACKj WITH CIRCLE BELOW
e-POINTING RED TRIANGLEoSMALL RED TRIANGLEoTRIANGLE WITH LEFT HALF BLACKzTH RIGHT HALF BLACK
eWARD FACING HOOKu WITH DOTqNOTCHED HOOKzOOK WITH DOTiS ANCORAlRROWp AND RIGHT ONE EIGHTH BLOCK
qFROM BARqLEFTWARDS OF UPWARDS ARROWqTO BARqWITH CORNER LEFTWARDSvDOUBLE STROKE
vEQUILATERAL ARROWHEADvHORIZONTAL STROKEvLARGE TRIANGLE ARROWHEADvMEDIUM TRIANGLE ARROWHEAD
vNOTCHED TAILvSMALL EQUILATERAL ARROWHEADzL TRIANGLE ARROWHEADvTIP LEFTWARDSzRIGHTWARDSkBLACK ARROW
qCIRCLED WHITE ARROWkCOMPRESSED ARROWkDASHED ARROWlOUBLE ARROWkFINGER-POST ARROW
kHARPOON WITH BARB LEFT BESIDE DOWNWARDS HARPOON WITH BARB RIGHT
zRB LEFT BESIDE UPWARDS HARPOON WITH BARB RIGHTzRB LEFT FROM BARzRB LEFT TO BARzRB LEFTWARDS
zRB RIGHT FROM BARzRB RIGHT TO BARzRB RIGHTWARDSlEAVY ARROWqCOMPRESSED ARROWkPAIRED ARROWS
kQUADRUPLE ARROWkROCKETkSANS-SERIF ARROWlQUARED ARROWkTRIANGLE ARROWHEADs-HEADED ARROW
z ARROW LEFTWARDS OF UPWARDS TRIANGLE-HEADED ARROWz ARROW TO BARz ARROW WITH BOLD SHAFT
z ARROW WITH DOUBLE HORIZONTAL STROKEz ARROW WITH HEAVY SHAFTz ARROW WITH LONG TIP LEFTWARDS
z ARROW WITH LONG TIP RIGHTWARDSz ARROW WITH MEDIUM SHAFTz ARROW WITH NARROW SHAFT
z ARROW WITH VERY HEAVY SHAFTz DASHED ARROWz PAIRED ARROWSz ZIGZAG ARROWnPLE ARROWlWO HEADED ARROW
n-HEADED ARROW WITH TRIANGLE ARROWHEADSkWHITE ARROWv WITHIN TRIANGLE ARROWHEADkZIGZAG ARROW
bRACHMA SIGNdFTING POINT RIGHTWARDS ARROWdGONg FACEcESScIVE SLOW SIGNcOMEDARY CAMELdOLING FACE
dP OF BLOODeLETcUM WITH DRUMSTICKSbUCKcMPLINGcPLOYAN AFFIX ATTACHED E HOOKyI HOOK
yLEFT-TO-RIGHT SECANTySECANTyTAILzANGENTzANGENT HOOKpHIGH ACUTEuCIRCLEuDOTuGRAVEuLINEvONG GRAVE
uTIGHT ACUTEuVERTICALzCAL SECANTuWAVEpLEFT HORIZONTAL SECANTqOW ACUTEuRROWtCIRCLEtDOTtGRAVEtLINE
uONG GRAVEtTIGHT ACUTEtVERTICALzAL SECANTtWAVEpMID HORIZONTAL SECANTtVERTICAL SECANT
pRIGHT HORIZONTAL SECANTjDOUBLE MARKjLETTER ArOUqBqDr SrHqErErUqFr NqGr R SqHrLqIrEqJr Mt SsNt SsS
t WITH DOTsWITH DOTzTS INSIDE AND ABOVEqKr MsR SrKqLrHrONG IvUqMr Nt SsSsWITH DOTqNr Mt SsS
sWITH DOTrASAL AwIwOwUqOrArOHrUrWqPr NrERNIN AMyNqRr SrHrOMANIAN IzUqSr Jt SsKt RsMsNsPt RsSsTt R
sWITH DOTzT BELOWrHORT IrLOAN ANwDHwEExHxNwJwONxWwUqTr R SsSrHqUr NrHrIqVrOCALIC MqWr RrArEIrHrIrO
sWqXrWqYEjPUNCTUATION CHINOOK FULL STOPjSIGN O WITH CROSSjTHICK LETTER SELECTORbVDaE-MAIL SYMBOL
bAGLEcRd OF MAIZEhRICEeWITH HEARING AIDdTHf GLOBE AMERICASnSIA-AUSTRALIAmEUROPE-AFRICAhROUND
cST SYRIAC CROSSbDITORIAL CORONISbGGcYPTIAN HIEROGLYPH A001x2x3x4x5yAx6yAyBx7x8x9w10x1x2x3x4yAx5x6
x7yAx8x9w20x1x2x3x4x5x6x7x8x9w30x1x2yAx3x4x5x6x7x8x9w40yAx1x2yAx3yAx4x5yAx6x7x8x9w50x1x2x3x4x5x6x7
x8x9w60x1x2x3x4x5x6x7x8x9w70vA001y2y3y4y5y6y7zAzBy8y9x10y1y2y3y4y5y6y7y8y9x20y1y2y3y4y5y6y7y8y9x30
y1y2uB001x2x3x4x5yAx6x7x8x9vEGIN SEGMENTuC001x2yAyByCx3x4x5x6x7x8x9w10yAx1x2x3x4x5x6x7x8x9w20x1x2x3
x4uD001x2x3x4x5x6x7x8yAx9w10x1x2x3x4x5x6x7x8x9w20x1x2x3x4x5x6x7yAx8x9w30x1yAx2x3x4yAx5x6x7x8x9w40x1
x2x3x4x5x6yAx7x8yAx9w50yAyByCyDyEyFyGyHyIx1x2yAx3x4yAx5x6x7x8x9w60x1x2x3x4x5x6x7yAyByCyDyEyFyGyH
uE001x2x3x4x5x6x7x8yAx9yAw10x1x2x3x4x5x6yAx7yAx8x9w20yAx1x2x3x4x5x6x7x8yAx9w30x1x2x3x4yAx6x7x8
vND SEGMENTuF001yAx2x3x4x5x6x7x8x9w10x1x2x3yAx4x5x6x7x8x9w20x1yAx2x3x4x5x6x7x8x9w30x1yAx2x3x4x5x6x7
yAx8yAx9w40x1x2x3x4x5yAx6yAx7yAx8x9w50x1yAyByCx2x3uG001x2x3x4x5x6yAx7yAyBx8x9w10x1yAx2x3x4x5x6x7x8
x9w20yAx1x2x3x4x5x6yAx7x8x9w30x1x2x3x4x5x6yAx7yAx8x9w40x1x2x3yAx4x5yAx6x7x8x9w50x1x2x3x4uH001x2x3x4
x5x6yAx7x8vORIZONTAL JOINERuI001x2x3x4x5yAx6x7x8x9yAw10yAx1yAx2x3x4x5vNSERT AT BOTTOM END
zT AT BOTTOM STARTzT AT TOP ENDzT AT TOP STARTuK001x2x3x4x5x6x7x8uL001x2yAx3x4x5x6yAx7x8uM001yAyBx2
x3yAx4x5x6x7x8x9w10yAx1x2yAyByCyDyEyFyGyHx3x4x5yAx6yAx7yAx8x9w20x1x2yAx3x4yAx5x6x7x8yAx9w30x1yAx2x3
yAyBx4x5x6x7x8x9w40yAx1x2x3x4uN001x2x3x4x5x6x7x8x9w10x1x2x3x4x5x6x7x8yAyBx9w20x1x2x3x4x5yAx6x7x8x9
w30x1x2x3yAx4yAx5yAx6x7yAx8x9w40x1x2vL001y2y3y4y5zAy6y7y8y9x10y1y2y3y4y5y6y7zAy8y9x20vU001y2y3y4y5
y6y7y8y9x10zAy1zAy2y3y4y5y6y7y8zAy9x20y1y2zAuO001yAx2x3x4x5yAx6yAyByCyDyEyFx7x8x9w10yAyByCx1x2x3x4
x5x6x7x8x9yAw20yAx1x2x3x4yAx5yAx6x7x8x9yAw30yAx1x2x3yAx4x5x6yAyByCyDx7x8x9w40x1x2x3x4x5x6x7x8x9w50
yAyBx1vVERLAY MIDDLEuP001yAx2x3yAx4x5x6x7x8x9w10x1uQ001x2x3x4x5x6x7uR001x2yAx3yAyBx4x5x6x7x8x9w10yA
x1x2x3x4x5x6yAx7x8x9w20x1x2x3x4x5x6x7x8x9uS001x2yAx3x4x5x6yAx7x8x9w10x1x2x3x4yAyBx5x6x7yAx8x9w20x1
x2x3x4x5x6yAyBx7x8x9w30x1x2x3x4x5yAx6x7x8x9w40x1x2x3x4x5x6uT001x2x3yAx4x5x6x7yAx8yAx9yAw10x1yAx2x3
x4x5x6yAx7x8x9w20x1x2x3x4x5x6x7x8x9w30x1x2yAx3yAx4x5x6uU001x2x3x4x5x6yAyBx7x8x9w10x1x2x3x4x5x6x7x8
x9w20x1x2x3yAx4x5x6x7x8x9yAw30x1x2yAx3x4x5x6x7x8x9w40x1x2uV001yAyByCyDyEyFyGyHyIx2yAx3x4x5x6x7yAyB
x8x9w10x1yAyByCx2yAyBx3x4x5x6x7x8x9w20yAyByCyDyEyFyGyHyIyJyKyLx1x2x3yAx4x5x6x7x8yAx9yAw30yAx1yAx2x3
yAx4x5x6x7yAx8x9w40yAvERTICAL JOINERuW001x2x3yAx4x5x6x7x8x9yAw10yAx1x2x3x4yAx5x6x7yAx8yAx9w20x1x2x3
x4yAx5uX001x2x3x4yAyBx5x6yAx7x8yAuY001yAx2x3x4x5x6x7x8uZ001x2yAyByCyDx3yAyBx4yAx5yAx6x7x8x9w10x1x2
x3x4x5yAyByCyDyEyFyGyHyIx6yAyByCyDyEyFyGyHbIGHT PETALLED OUTLINED BLACK FLORETTEhOINTED BLACK STAR
oPINWHEEL STARoRECTILINEAR BLACK STARgSPOKED ASTERISKgTEARDROP-SPOKED PROPELLER ASTERISKfH NOTE
bJECT SYMBOLbLBASAN LETTER ApBEpCEqHEpDEqHEpEqIpFEpGEqHAMMArEqJEpHEpIpJEpKEqHEpLEqLEpMEpNAqDEqEqJE
pOpPEpQEpREqREpSEqHEpTEqHEpUpVEpXEpYpZEqHEcECTRIC ARROWjLIGHT BULBjPLUGjTORCHiAL INTERSECTION
dMENT OFk OPENING DOWNWARDStUPWARDSlWITH DOT ABOVEqLONG HORIZONTAL STROKEqOVERBAR
qTWO HORIZONTAL STROKESqUNDERBARqVERTICAL BAR AT END OF HORIZONTAL STROKEdPHANTdVATORcF
cYMAIC LETTER ALEPHqYINpBETHpDALETHpGIMELpHErTHpKAPHpLAMEDHpMEMpNUNpPEpQOPHpRESHpSADHErMEKHqHINpTAW
qETHpWAWpYODHpZAYINjIGATURE ZAYIN-YODHbM DASHdQUADdSPACEcOJI COMPONENT BALDqCURLY HAIRqRED HAIR
qWHITE HAIRgMODIFIER FITZPATRICK TYPE-1-2zK TYPE-3zK TYPE-4zK TYPE-5zK TYPE-6cPHASIS SYMBOL
dTY DOCUMENTgNESThOTEk PADnGEgPAGEkSgSETj WITH LEFT ARROW ABOVEpOVERBARpRIGHT ARROW ABOVE
pSMALL CIRCLE ABOVEbN DASHdQUADdSPACEcD OF GUARDED AREAhLINEhMEDIUMhPROOFkTECTED AREAhSELECTED AREA
hTEXTiRANSMISSIONt BLOCKeWITH LEFTWARDS ARROW ABOVEcQdUIRYcTER SYMBOLcVELOPE
i WITH DOWNWARDS ARROW ABOVEoLIGHTNINGbOLcMcTbPAbQUAL AND PARALLEL TOgTO BY DEFINITION
jOR GREATER-THANmLESS-THANmPRECEDESmSUCCEEDSfS COLONhSIGNl ABOVE LEFTWARDS ARROWsPLUS SIGN
sRIGHTWARDS ARROWsTILDE OPERATORnND SLANTED PARALLELzARALLEL WITH TILDE ABOVEmWITH BUMPY ABOVE
rDOT BELOWrINFINITY BELOWrTWO DOTS ABOVE AND TWO DOTS BELOWhWITH ASTERISKdIANGULAR TOeVALENT TO
lWITH FOUR DOTS ABOVEbRASE TO THE LEFTnRIGHTcIS FORM ONEkTWOcROR-BARRED BLACK CIRCLEtDIAMONDtSQUARE
nWHITE CIRCLEtDIAMONDtSQUAREbSAcCdAPEcTIMATED SYMBOLiSbTBcHIOPIC COLON
lMBINING GEMINATION AND VOWEL LENGTH MARKzTION MARKtVOWEL LENGTH MARKmMAjDIGIT EIGHTpFIVEqOURpNINE
pONEpSEVENqIXpTHREEqWOjFULL STOPjNUMBER EIGHTYqFIFTYrORTYqHUNDREDqNINETYqSEVENTYrIXTYqTENt THOUSAND
rHIRTYrWENTYjPARAGRAPH SEPARATORkREFACE COLONjQUESTION MARKjSECTION MARKlMICOLONkYLLABLE BAuAtBAvA
uEvEuIuOuUtEuEtItOuAtUtWAuEvEuIsCAuAtCAvAuEvEuHAwAvEwEvHAxAwExEwIwOwUvIvOvUuIuOuUtEuEtHAvAuEvEuIuO
vAuUuWAtItOuAtUtWAsDAuAtDAvAuEvEuHAAvEwEvIvOvUuIuOvAuUuWAtEuEtItOuAtUtWAtZAAuEvEuIuOuUsFAuAtEuEtItO
tUtWAuEvEuItYAsGAuAtEuEtGAvAuEvEuIuOuUuWAwAvEwEvItItLOTTAL Az AAz Ez EEz Iz Oz OAz Uz WAtOuAtU
uRAGE BWEEzBWIzFWEEzFWIzGWEzGWEEzGWIzHHWAzKWEzKWEEzKWIzMWEEzMWIzPWEEzPWIzQWEzQWEEzQWItWAvAuEvEuItYA
vAuEvEuIuOuUsHAuAtEuEtHAvAuEvEuIuOuUuWAvEwEvIuYAwAvEwEvIvOvUtItOuAtUsJAuAtEuEtItOuAtUtWAsKAuAtEuEtI
tOuAtUtWAvAuEvEuItXAvAuEvEuIuOuUuWAwAvEwEvItYAvAuEvEuIuOuUsLAuAtEuEtItOuAtUtWAsMAuAtEuEtItOuAtUtWA
uEvEuItYAsNAuAtEuEtItOuAtUtWAtYAvAuEvEuIuOvAuUuWAsPAuAtEuEtHAvAvRYNGEAL AzEAL AAzEAL EzEAL EEzEAL I
zEAL OzEAL UuEvEuIuOvAuUuWAtItOuAtUtWAuEvEuIsQAuAtEuEtHAvAuEvEuIuOuUuWAwAvEwEvItItOuAtUtWAvAuEvEuI
tYAvAuEvEuIuOuUsRAuAtEuEtItOuAtUtWAtYAsSAuAtEuBATBEIT BWAzIT FWAzIT MWAzIT PWAuEtHAvAuEvEuIuOvAuU
uWAtItOuAtSAvAuEvEuIuOuUtUtWAtZAvAuEvEuIuOuUuWAsTAuAtEuEtHAvAuEvEuIuOvAuUuWAtItOuAtSAvAuEvEuIuOuU
uWAtTHAAvEwEvIvOvUtUtWAtZAvAuEvEuIuOvAuUsVAuAtEuEtItOtUtWAsWAuAtEuEtItOuAtUsXAuAtEuEtItOuAtUtWAvAuE
vEuItYAvAuEvEuIuOuUsYAuAtEuEtItOuAtUsZAuAtEuEtHAvAuEvEuIuOuUuWAtItOuAtUtWAtZAvAuEvEuIuOuU
jTONAL MARK CHIRETuDERETz-HIDETvIFATuHIDETuKENATvURTuRIKRIKuSHORT RIKRIKuYIZETjWORDSPACEcX
bULER CONSTANTcRO SIGNe-CURRENCY SIGNePEAN CASTLEjPOST OFFICEbVERGREEN TREEbXCESSdLAMATION MARK
mQUESTION MARKcPRESSIONLESS FACEcTENDED ARABIC-INDIC DIGIT EIGHTzIT FIVEzIT FOURzIT NINEzIT ONE
zIT SEVENzIT SIXzIT THREEzIT TWOzIT ZEROdRATERRESTRIAL ALIENeEMELY HEAVY FIVE SPOKED ASTERISK
qGREEK CROSSqSALTIRErIX SPOKED ASTERISKqWHITE CIRCLEwSQUAREbYEdGLASSESdSaFACE HOLDING BACK TEARS
fMASSAGEfPALMfSAVOURING DELICIOUS FOODgCREAMING IN FEARfTHROWING A KISSfWITH COLD SWEATmWBOY HAT
kDIAGONAL MOUTHkFINGER COVERING CLOSED LIPSkHEAD-BANDAGEkLOOK OF TRIUMPHkMEDICAL MASKlONOCLE
kNO GOOD GESTUREkOK GESTURElNE EYEBROW RAISEDlPEN EYES AND HAND OVER MOUTHpMOUTHu AND COLD SWEAT
vVOMITINGkPARTY HORN AND PARTY HATlEEKING EYElLEADING EYESkROLLING EYESkSTUCK-OUT TONGUE
zE AND TIGHTLY-CLOSED EYESzE AND WINKING EYEkTEARS OF JOYlHERMOMETERkUNEVEN EYES AND WAVY MOUTH
jOUT MOUTHdSIMILE SIGNdTORYcIRYcLAFELdLEN LEAFeING DIAGONAL CROSSING NORTH EAST ARROW
z RISING DIAGONALrIN WHITE CIRCLE IN BLACK SQUAREcMILYcRSI SYMBOLcTHER CHRISTMAScX ICONeMACHINE
bEARFUL FACEdTHERcMALE SIGNdININE ORDINAL INDICATORcNCERcRRIS WHEELeYbFbIELD HOCKEY STICK AND BALL
cGURE DASHhSPACEcLE CABINETfFOLDERfSEPARATORdM FRAMESfPROJECTORcNITE PART INTEGRALcREe ENGINE
gXTINGUISHEReCRACKEReWORK SPARKLERiSdST PLACE MEDALgQUARTER MOONs SYMBOLtWITH FACEgSTRONG ISOLATE
cSHe CAKE WITH SWIRL DESIGNeEYEeING POLE AND FISHdTED HAND SIGNcVE DOT MARKjPUNCTUATIONbLAG IN HOLE
dMINGOdT SHOEeBREADeNESScEUR-DE-LISdXED BICEPScOPPY DISKdRAL HEARTdWERg PLAYING CARDS
iUNCTUATION MARKcUSHED FACEcYdING DISChENVELOPEhSAUCERbOGdGYcLDERcNDUEcOTePRINTScR ALLdCES
dK AND KNIFEo WITH PLATEeED PARAGRAPHOSeINGdM FEEDdTUNE COOKIEcUNTAINdR BALLOON-SPOKED ASTERISK
fCLUB-SPOKED ASTERISKgORNER ARROWS CIRCLING ANTICLOCKWISEfDOT MARKjPUNCTUATIONfLEAF CLOVER
fPOINTED BLACK STARfTEARDROP-SPOKED ASTERISKe-PER-EM SPACEeTH ROOTcX FACEbRACTION NUMERATOR ONE
jSLASHdME WITH AN XlPICTURElTILEScEEZING FACEdNCH FRANC SIGNjIEScIED SHRIMPcOG FACE
dNT-FACING BABY CHICKgTILTED SHADOWED WHITE RIGHTWARDS ARROWdWNfING FACE WITH OPEN MOUTHbScI
bUEL PUMPcLL BLOCKfMOON SYMBOLkWITH FACEfOUTER JOINfSTOPeWIDTH AMPERSANDlPOSTROPHElSTERISK
kBROKEN BARkCENT SIGNlIRCUMFLEX ACCENTlOLONmMMAoERCIAL ATkDIGIT EIGHTqFIVErOURqNINEqONEqSEVENrIX
qTHREErWOqZEROlOLLAR SIGNkEQUALS SIGNlXCLAMATION MARKkFULL STOPkGRAVE ACCENTmEATER-THAN SIGN
kHYPHEN-MINUSkLATIN CAPITAL LETTER AzETTER BzETTER CzETTER DzETTER EzETTER FzETTER GzETTER H
zETTER IzETTER JzETTER KzETTER LzETTER MzETTER NzETTER OzETTER PzETTER QzETTER RzETTER SzETTER T
zETTER UzETTER VzETTER WzETTER XzETTER YzETTER ZqSMALL LETTER AzTER BzTER CzTER DzTER EzTER FzTER G
zTER HzTER IzTER JzTER KzTER LzTER MzTER NzTER OzTER PzTER QzTER RzTER SzTER TzTER UzTER VzTER W
zTER XzTER YzTER ZlEFT CURLY BRACKETpPARENTHESISpSQUARE BRACKETpWHITE PARENTHESISmSS-THAN SIGN
lOW LINEkMACRONkNOT SIGNlUMBER SIGNkPERCENT SIGNlLUS SIGNlOUND SIGNkQUESTION MARKmOTATION MARK
kREVERSE SOLIDUSlIGHT CURLY BRACKETqPARENTHESISqSQUARE BRACKETqWHITE PARENTHESISkSEMICOLONlOLIDUS
kTILDEkVERTICAL LINEkWON SIGNkYEN SIGNcNCTION APPLICATIONdERAL URNcSEbVS1d2d3d4aGAME DIEcRLICbEAR
e WITH HANDLESjOUT HUBcM STONEdINIcNIEcOMETRIC PROPORTIONjALLY EQUAL TOrIVALENT TO
dRGIAN CAPITAL LETTER AENzNyBANyCANzHARzHINzILyDONyENyGANzHANyHAEzARzEzIEzOEyINyJHANzILyKANzHARyLAS
yMANyNARyONyPARzHARyQARyRAEySANzHINyTANzARyUNyVINyWEyXANyYNyZENzHARjLETTER AENrINrNqBANqCANrHARsIN
rILqDONqELIFIrNqFIqGANrHANqHAEsRtD SIGNrErIErOEqINqJHANrILqKANrHARqLABIAL SIGNsSqMANqNARqONqPARrHAR
qQARqRAEqSANrHINqTANsRrURNED GANqUNqVINqWEqXANqYNqZENrHARjMTAVRULI CAPITAL LETTER AENz LETTER AIN
z LETTER ANz LETTER BANz LETTER CANz LETTER CHARz LETTER CHINz LETTER CILz LETTER DONz LETTER ELIFI
z LETTER ENz LETTER FIz LETTER GANz LETTER GHANz LETTER HAEz LETTER HARz LETTER HARD SIGN
z LETTER HEz LETTER HIEz LETTER HOEz LETTER INz LETTER JHANz LETTER JILz LETTER KANz LETTER KHAR
z LETTER LABIAL SIGNz LETTER LASz LETTER MANz LETTER NARz LETTER ONz LETTER PARz LETTER PHAR
z LETTER QARz LETTER RAEz LETTER SANz LETTER SHINz LETTER TANz LETTER TARz LETTER TURNED GAN
z LETTER UNz LETTER VINz LETTER WEz LETTER XANz LETTER YNz LETTER ZENz LETTER ZHAR
jPARAGRAPH SEPARATORjSMALL LETTER AENxNwBANwCANxHARyINxILwDONwENwGANxHANwHAEyRxExIExOEwINwJHANxIL
wKANxHARwLASwMANwNARwONwPARxHARwQARwRAEwSANxHINwTANyRwUNwVINwWEwXANwYNwZENxHARcRMAN PENNY SIGN
cTA MARKbHOSTbIMEL SYMBOLcRAFFE FACEdLeS SYMBOLbLAGOLITIC CAPITAL LETTER AZUz BIG YUSz BUKY
z CAUDATE CHRIVIz CHRIVIz DJERVIz DOBROz DZELOz FITAz FRITUz GLAGOLIz HERUz Iz INITIAL IZHE
z IOTATED BIG YUSz IOTATED SMALL YUSz IZHEz IZHITSAz KAKOz LATINATE MYSLITEz LJUDIJEz MYSLITE
z NASHIz ONUz OTUz PEz POKOJIz RITSIz SHAz SHTAz SHTAPICz SLOVOz SMALL YUSz SMALL YUS WITH TAIL
z SPIDERY HAz TROKUTASTI Az TSIz TVRIDOz UKUz VEDEz YATIz YERIz YERUz YESTUz YOz YUz ZEMLJA
z ZHIVETElSMALL LETTER AZUyBIG YUSzUKYyCAUDATE CHRIVIzHRIVIyDJERVIzOBROzZELOyFITAzRITUyGLAGOLIyHERU
yIzNITIAL IZHEzOTATED BIG YUSzOTATED SMALL YUSzZHEzZHITSAyKAKOyLATINATE MYSLITEzJUDIJEyMYSLITE
yNASHIyONUzTUyPEzOKOJIyRITSIySHAzHTAzHTAPICzLOVOzMALL YUSzMALL YUS WITH TAILzPIDERY HAyTROKUTASTI A
zSIzVRIDOyUKUyVEDEyYATIzERIzERUzESTUzOzUyZEMLJAzHIVETEdSS OF MILKcEICH STARKcOBE WITH MERIDIANSdVES
dWING STARbOAL NETdTcGGLEScLFERcRILLAcTHIC LETTER AHSApIHVUSoBAIRKANoDAGSoEISoFAIHUoGIBAoHAGLpWAIR
oIGGWSpUJAoJERoKUSMAoLAGUSoMANNAoNAUTHSpINE HUNDREDsTYoOTHALoPAIRTHRAoQAIRTHRAoRAIDAoSAUILoTEIWS
pHIUTHoURUSoWINJAbRADUATION CAPdNTHA AU LENGTH MARKiLETTER AqAqIqUpBAqHApCAqHApDAqDArHAqHApEEpGAqHA
pHApIqIpJAqHApKAqHApLAqLApMApNAqGAqNAqYApOOpPAqHApRApSAqHAqSApTAqHAqTArHApUqUpVAqEDIC ANUSVARA
vDOUBLE ANUSVARAqOCALIC LyLxRyRpYAiOMiSIGN ANUSVARAoVAGRAHAnCANDRABINDUoOMBINING ANUSVARA ABOVE
nNUKTAnPLUTAnVIRAMApSARGAiVOWEL SIGN AAuIuUtEEtIuItOOtUuUtVOCALIC LzC LLzC RzC RRdPESdVE ACCENT
cEATER-THAN ABOVE DOUBLE-LINE EQUAL ABOVE LESS-THANtLESS-THAN ABOVE DOUBLE-LINE EQUAL
tRIGHTWARDS ARROWtSIMILAR ABOVE LESS-THANzR OR EQUAL
uLANTED EQUAL ABOVE LESS-THAN ABOVE SLANTED EQUALoND NOT APPROXIMATErSINGLE-LINE NOT EQUAL TO
nBESIDE LESS-THANoUT NOT EQUAL TOyIVALENT TOnCLOSED BY CURVEzRVE ABOVE SLANTED EQUAL
nEQUAL TO OR LESS-THANnOR APPROXIMATEqEQUAL TOtIVALENT TOqLESS-THANqSLANTED EQUAL TO
zQUAL TO WITH DOT ABOVEzQUAL TO WITH DOT ABOVE LEFTzQUAL TO WITH DOT INSIDEoVER EQUAL TO
rLAPPING LESS-THANnSIGNnWITH CIRCLE INSIDEsDOTsQUESTION MARK ABOVEdEK ACROPHONIC ATTIC FIFTY
zFTY STATERSzFTY TALENTSzFTY THOUSANDzFTY THOUSAND STATERSzVEzVE HUNDREDzVE HUNDRED STATERS
zVE HUNDRED TALENTSzVE STATERSzVE TALENTSzVE THOUSANDzVE THOUSAND TALENTSxONE DRACHMAzE HALF
zE HUNDRED STATERSzE HUNDRED TALENTSzE QUARTERzE THOUSAND STATERSzE THOUSAND TALENTSxTEN MNAS
zN STATERSzN TALENTSzN THOUSAND STATERSrCARYSTIAN FIVE HUNDREDsYRENAIC TWO DRACHMAS
rDELPHIC FIVE MNASrEPIDAUREAN FIVE HUNDREDzAN TWOzAN TWO DRACHMASrHERAEUM ONE PLETHRON
uMIONIAN FIFTYzAN ONEzAN TENrMESSENIAN TENrNAXIAN FIVE HUNDREDrSTRATIAN FIFTY MNASrTHESPIAN FIFTY
z FIVE HUNDREDz FIVE THOUSANDz ONEz ONE HUNDREDz ONE THOUSANDz TENz THIRTYz THREE HUNDREDz TWO
sROEZENIAN FIFTYzAN FIFTY ALTERNATE FORMzAN FIVEzAN FIVE HUNDREDzAN TENzAN TEN ALTERNATE FORM
hNO TELEIAhROURA SIGNiTABE SIGNgBETA SYMBOLgCAPITAL DOTTED LUNATE SIGMA SYMBOLoKAI SYMBOL
oLETTER ALPHAzA WITH DASIAzA WITH DASIA AND OXIAzA WITH DASIA AND OXIA AND PROSGEGRAMMENI
zA WITH DASIA AND PERISPOMENIzA WITH DASIA AND PERISPOMENI AND PROSGEGRAMMENI
zA WITH DASIA AND PROSGEGRAMMENIzA WITH DASIA AND VARIAzA WITH DASIA AND VARIA AND PROSGEGRAMMENI
zA WITH MACRONzA WITH OXIAzA WITH PROSGEGRAMMENIzA WITH PSILIzA WITH PSILI AND OXIA
zA WITH PSILI AND OXIA AND PROSGEGRAMMENIzA WITH PSILI AND PERISPOMENI
zA WITH PSILI AND PERISPOMENI AND PROSGEGRAMMENIzA WITH PSILI AND PROSGEGRAMMENI
zA WITH PSILI AND VARIAzA WITH PSILI AND VARIA AND PROSGEGRAMMENIzA WITH TONOSzA WITH VARIA
zA WITH VRACHYwRCHAIC SAMPIvBETAvCHIvDELTAvEPSILONzLON WITH DASIAzLON WITH DASIA AND OXIA
zLON WITH DASIA AND VARIAzLON WITH OXIAzLON WITH PSILIzLON WITH PSILI AND OXIA
zLON WITH PSILI AND VARIAzLON WITH TONOSzLON WITH VARIAwTAy WITH DASIAzWITH DASIA AND OXIA
zWITH DASIA AND OXIA AND PROSGEGRAMMENIzWITH DASIA AND PERISPOMENI
zWITH DASIA AND PERISPOMENI AND PROSGEGRAMMENIzWITH DASIA AND PROSGEGRAMMENIzWITH DASIA AND VARIA
zWITH DASIA AND VARIA AND PROSGEGRAMMENIzWITH OXIAzWITH PROSGEGRAMMENIzWITH PSILI
zWITH PSILI AND OXIAzWITH PSILI AND OXIA AND PROSGEGRAMMENIzWITH PSILI AND PERISPOMENI
zWITH PSILI AND PERISPOMENI AND PROSGEGRAMMENIzWITH PSILI AND PROSGEGRAMMENIzWITH PSILI AND VARIA
zWITH PSILI AND VARIA AND PROSGEGRAMMENIzWITH TONOSzWITH VARIAvGAMMAvHETAvIOTAz WITH DASIA
z WITH DASIA AND OXIAz WITH DASIA AND PERISPOMENIz WITH DASIA AND VARIAz WITH DIALYTIKA
z WITH MACRONz WITH OXIAz WITH PSILIz WITH PSILI AND OXIAz WITH PSILI AND PERISPOMENI
z WITH PSILI AND VARIAz WITH TONOSz WITH VARIAz WITH VRACHYvKAPPAvLAMDAvMUvNUvOMEGAzA WITH DASIA
zA WITH DASIA AND OXIAzA WITH DASIA AND OXIA AND PROSGEGRAMMENIzA WITH DASIA AND PERISPOMENI
zA WITH DASIA AND PERISPOMENI AND PROSGEGRAMMENIzA WITH DASIA AND PROSGEGRAMMENI
zA WITH DASIA AND VARIAzA WITH DASIA AND VARIA AND PROSGEGRAMMENIzA WITH OXIAzA WITH PROSGEGRAMMENI
zA WITH PSILIzA WITH PSILI AND OXIAzA WITH PSILI AND OXIA AND PROSGEGRAMMENI
zA WITH PSILI AND PERISPOMENIzA WITH PSILI AND PERISPOMENI AND PROSGEGRAMMENI
zA WITH PSILI AND PROSGEGRAMMENIzA WITH PSILI AND VARIAzA WITH PSILI AND VARIA AND PROSGEGRAMMENI
zA WITH TONOSzA WITH VARIAxICRONzRON WITH DASIAzRON WITH DASIA AND OXIAzRON WITH DASIA AND VARIA
zRON WITH OXIAzRON WITH PSILIzRON WITH PSILI AND OXIAzRON WITH PSILI AND VARIAzRON WITH TONOS
zRON WITH VARIAvPAMPHYLIAN DIGAMMAwHIwIwSIvRHOy WITH DASIAvSANwHOwIGMAvTAUwHETAvUPSILON
zLON WITH DASIAzLON WITH DASIA AND OXIAzLON WITH DASIA AND PERISPOMENIzLON WITH DASIA AND VARIA
zLON WITH DIALYTIKAzLON WITH MACRONzLON WITH OXIAzLON WITH TONOSzLON WITH VARIAzLON WITH VRACHYvXI
vYOTvZETApUNATE SIGMA SYMBOLoREVERSED DOTTED LUNATE SIGMA SYMBOLxLUNATE SIGMA SYMBOLoTHETA SYMBOL
gDASIAl AND OXIAqPERISPOMENIqVARIAhIALYTIKA AND OXIAuPERISPOMENIuVARIAqTONOShRACHMA SIGN
gFIVE OBOLS SIGNhOUR OBOLS SIGNgGRAMMA SIGNgINDICTION SIGNiSTRUMENTAL NOTATION SYMBOL-1
zON SYMBOL-11zON SYMBOL-12zON SYMBOL-13zON SYMBOL-14zON SYMBOL-17zON SYMBOL-18zON SYMBOL-19
zON SYMBOL-2zON SYMBOL-23zON SYMBOL-24zON SYMBOL-25zON SYMBOL-26zON SYMBOL-27zON SYMBOL-29
zON SYMBOL-30zON SYMBOL-32zON SYMBOL-36zON SYMBOL-37zON SYMBOL-38zON SYMBOL-39zON SYMBOL-4
zON SYMBOL-40zON SYMBOL-42zON SYMBOL-43zON SYMBOL-45zON SYMBOL-47zON SYMBOL-48zON SYMBOL-49
zON SYMBOL-5zON SYMBOL-50zON SYMBOL-51zON SYMBOL-52zON SYMBOL-53zON SYMBOL-54zON SYMBOL-7
zON SYMBOL-8gKAI SYMBOLiPPA SYMBOLhORONIShYATHOS BASE SIGNgLETTER ARCHAIC KOPPAnDIGAMMAnKOPPAnSAMPI
oMALL CAPITAL GAMMAzL LAMDAzL OMEGAzL PIzL PSIzL RHOoTIGMAnYOThITRA SIGNhOWER NUMERAL SIGN
hUNATE EPSILON SYMBOLnSIGMA SYMBOLgMETRETES SIGNhUSICAL LEIMMAgNUMERAL SIGNgOBOL SIGNhNE HALF SIGN
t ALTERNATE FORMkQUARTER SIGNhUNKIA SIGNhXIAgPERISPOMENIhHI SYMBOLhI SYMBOLhROSGEGRAMMENIhSILI
l AND OXIAqPERISPOMENIqVARIAgQUESTION MARKgREVERSED LUNATE EPSILON SYMBOLhHO SYMBOL
kWITH STROKE SYMBOLgSINUSOID SIGNhMALL DOTTED LUNATE SIGMA SYMBOLmLETTER ALPHAy WITH DASIA
zWITH DASIA AND OXIAzWITH DASIA AND OXIA AND YPOGEGRAMMENIzWITH DASIA AND PERISPOMENI
zWITH DASIA AND PERISPOMENI AND YPOGEGRAMMENIzWITH DASIA AND VARIA
zWITH DASIA AND VARIA AND YPOGEGRAMMENIzWITH DASIA AND YPOGEGRAMMENIzWITH MACRONzWITH OXIA
zWITH OXIA AND YPOGEGRAMMENIzWITH PERISPOMENIzWITH PERISPOMENI AND YPOGEGRAMMENIzWITH PSILI
zWITH PSILI AND OXIAzWITH PSILI AND OXIA AND YPOGEGRAMMENIzWITH PSILI AND PERISPOMENI
zWITH PSILI AND PERISPOMENI AND YPOGEGRAMMENIzWITH PSILI AND VARIA
zWITH PSILI AND VARIA AND YPOGEGRAMMENIzWITH PSILI AND YPOGEGRAMMENIzWITH TONOSzWITH VARIA
zWITH VARIA AND YPOGEGRAMMENIzWITH VRACHYzWITH YPOGEGRAMMENIuRCHAIC KOPPAzC SAMPItBETAtCHItDELTA
uIGAMMAtEPSILONzN WITH DASIAzN WITH DASIA AND OXIAzN WITH DASIA AND VARIAzN WITH OXIAzN WITH PSILI
zN WITH PSILI AND OXIAzN WITH PSILI AND VARIAzN WITH TONOSzN WITH VARIAuTAw WITH DASIA
zTH DASIA AND OXIAzTH DASIA AND OXIA AND YPOGEGRAMMENIzTH DASIA AND PERISPOMENI
zTH DASIA AND PERISPOMENI AND YPOGEGRAMMENIzTH DASIA AND VARIAzTH DASIA AND VARIA AND YPOGEGRAMMENI
zTH DASIA AND YPOGEGRAMMENIzTH OXIAzTH OXIA AND YPOGEGRAMMENIzTH PERISPOMENI
zTH PERISPOMENI AND YPOGEGRAMMENIzTH PSILIzTH PSILI AND OXIAzTH PSILI AND OXIA AND YPOGEGRAMMENI
zTH PSILI AND PERISPOMENIzTH PSILI AND PERISPOMENI AND YPOGEGRAMMENIzTH PSILI AND VARIA
zTH PSILI AND VARIA AND YPOGEGRAMMENIzTH PSILI AND YPOGEGRAMMENIzTH TONOSzTH VARIA
zTH VARIA AND YPOGEGRAMMENIzTH YPOGEGRAMMENItFINAL SIGMAtGAMMAtHETAtIOTAx WITH DASIA
zITH DASIA AND OXIAzITH DASIA AND PERISPOMENIzITH DASIA AND VARIAzITH DIALYTIKA
zITH DIALYTIKA AND OXIAzITH DIALYTIKA AND PERISPOMENIzITH DIALYTIKA AND TONOS
zITH DIALYTIKA AND VARIAzITH MACRONzITH OXIAzITH PERISPOMENIzITH PSILIzITH PSILI AND OXIA
zITH PSILI AND PERISPOMENIzITH PSILI AND VARIAzITH TONOSzITH VARIAzITH VRACHYtKAPPAuOPPAtLAMDAtMU
tNUtOMEGAy WITH DASIAzWITH DASIA AND OXIAzWITH DASIA AND OXIA AND YPOGEGRAMMENI
zWITH DASIA AND PERISPOMENIzWITH DASIA AND PERISPOMENI AND YPOGEGRAMMENIzWITH DASIA AND VARIA
zWITH DASIA AND VARIA AND YPOGEGRAMMENIzWITH DASIA AND YPOGEGRAMMENIzWITH OXIA
zWITH OXIA AND YPOGEGRAMMENIzWITH PERISPOMENIzWITH PERISPOMENI AND YPOGEGRAMMENIzWITH PSILI
zWITH PSILI AND OXIAzWITH PSILI AND OXIA AND YPOGEGRAMMENIzWITH PSILI AND PERISPOMENI
zWITH PSILI AND PERISPOMENI AND YPOGEGRAMMENIzWITH PSILI AND VARIA
zWITH PSILI AND VARIA AND YPOGEGRAMMENIzWITH PSILI AND YPOGEGRAMMENIzWITH TONOSzWITH VARIA
zWITH VARIA AND YPOGEGRAMMENIzWITH YPOGEGRAMMENIvICRONzN WITH DASIAzN WITH DASIA AND OXIA
zN WITH DASIA AND VARIAzN WITH OXIAzN WITH PSILIzN WITH PSILI AND OXIAzN WITH PSILI AND VARIA
zN WITH TONOSzN WITH VARIAtPAMPHYLIAN DIGAMMAuHIuIuSItRHOw WITH DASIAzTH PSILItSAMPIvNuHOuIGMA
uTIGMAtTAUuHETAtUPSILONzN WITH DASIAzN WITH DASIA AND OXIAzN WITH DASIA AND PERISPOMENI
zN WITH DASIA AND VARIAzN WITH DIALYTIKAzN WITH DIALYTIKA AND OXIAzN WITH DIALYTIKA AND PERISPOMENI
zN WITH DIALYTIKA AND TONOSzN WITH DIALYTIKA AND VARIAzN WITH MACRONzN WITH OXIAzN WITH PERISPOMENI
zN WITH PSILIzN WITH PSILI AND OXIAzN WITH PSILI AND PERISPOMENIzN WITH PSILI AND VARIA
zN WITH TONOSzN WITH VARIAzN WITH VRACHYtXItZETAmREVERSED DOTTED LUNATE SIGMA SYMBOL
vLUNATE SIGMA SYMBOLhUBSCRIPT SMALL LETTER BETAzTER CHIzTER GAMMAzTER PHIzTER RHOhYMBOL TAU RHO
gTALENT SIGNhHETA SYMBOLiREE OBOLS SIGNmQUARTERS SIGNhONOShRYBLION BASE SIGNhWO OBOLS SIGN
kTHIRDS SIGNgUPSILON WITH ACUTE AND HOOK SYMBOLtDIAERESIS AND HOOK SYMBOLtHOOK SYMBOLgVARIA
hOCAL NOTATION SYMBOL-1zOL-10zOL-11zOL-12zOL-13zOL-14zOL-15zOL-16zOL-17zOL-18zOL-19zOL-2zOL-20
zOL-21zOL-22zOL-23zOL-24zOL-3zOL-4zOL-5zOL-50zOL-51zOL-52zOL-53zOL-54zOL-6zOL-7zOL-8zOL-9
gXESTES SIGNgYEAR SIGNhPOGEGRAMMENIgZERO SIGNeN APPLEgBOOKgHEARTgSALADcIMACING FACE
dNNING CAT FACE WITH SMILING EYESjFACEn WITH ONE LARGE AND ONE SMALL EYEtSMILING EYESuTAR EYES
cOUP MARKgSEPARATORdWING HEARTbSbUARANI SIGNeDSMANcIDE DOGdTARcJARATI ABBREVIATION SIGNjDIGIT EIGHT
pFIVEqOURpNINEpONEpSEVENqIXpTHREEqWOpZEROjLETTER ArArIrUqBArHAqCArHAqDArDAsHArHAqEqGArHAqHAqIrIqJA
rHAqKArHAqLArLAqMAqNArGArNArYAqOqPArHAqRAqSArHArSAqTArHArTAsHAqUrUqVArOCALIC LzLyRzRqYAqZHAjOM
jRUPEE SIGNjSIGN ANUSVARApVAGRAHAoCANDRABINDUpIRCLE NUKTA ABOVEoMADDAHoNUKTAoSHADDApUKUN
oTHREE-DOT NUKTA ABOVEpWO-CIRCLE NUKTA ABOVEoVIRAMAqSARGAjVOWEL CANDRA EwOpSIGN AAvIvUuCANDRA EzA O
uEuIvIuOuUvUuVOCALIC LzIC LLzIC RzIC RRcNJALA GONDI DIGIT EIGHTuFIVEvOURuNINEuONEuSEVENvIXuTHREEvWO
uZEROoLETTER AwAwIwUvBAwHAvCAwHAvDAwDAxHAwHAvEEvGAwHAvHAvIwIvJAwHAvKAwHAvLAwLAvMAvNAwGAvOOvPAwHAvRA
vSAvTAwHAwTAxHAvUwUvVAvYAoOMoSIGN ANUSVARAtVISARGAoVIRAMApOWEL SIGN AAzAIzAUzEEzIzIIzOOzUzUU
cRMUKHI ABBREVIATION SIGNkDDAKjDIGIT EIGHTpFIVEqOURpNINEpONEpSEVENqIXpTHREEqWOpZEROjEK ONKARjIRI
jLETTER ArArIrUqBArHAqCArHAqDArDAsHArHAqEEqFAqGArHAsHAqHAqIrIqJArHAqKArHAsHAqLArLAqMAqNArGArNArYA
qOOqPArHAqRArRAqSArHAqTArHArTAsHAqUrUqVAqYAqZAjSIGN ADAK BINDIoBINDIoNUKTAoUDAAToVIRAMAqSARGA
oYAKASHjTIPPIjURAjVOWEL SIGN AAvIvUuEEuIvIuOOuUvUaHADEScIR SPACEeCUTcLFWIDTH BLACK SQUARE
kDOWNWARDS ARROWkFORMS LIGHT VERTICALkHANGUL FILLERrLETTER AzEyCHIEUCHzIEUCyEzOzUyHIEUHyIzEUNG
yKHIEUKHzIYEOKzIYEOK-SIOSyMIEUMyNIEUNzIEUN-CIEUCzIEUN-HIEUHyOzEyPHIEUPHzIEUPzIEUP-SIOSyRIEUL
zIEUL-HIEUHzIEUL-KIYEOKzIEUL-MIEUMzIEUL-PHIEUPHzIEUL-PIEUPzIEUL-SIOSzIEUL-THIEUTHySIOSzSANGCIEUC
zSANGKIYEOKzSANGPIEUPzSANGSIOSzSANGTIKEUTyTHIEUTHzIKEUTyUyWAzAEzEzEOzIyYAzAEzEzEOzIzOzU
kIDEOGRAPHIC COMMAwFULL STOPkKATAKANA LETTER Az Ez HAz HEz HIz HOz HUz Iz KAz KEz KIz KOz KUz MA
z MEz MIz MOz MUz Nz NAz NEz NIz NOz NUz Oz RAz REz RIz ROz RUz SAz SEz SIz SMALL Az SMALL E
z SMALL Iz SMALL Oz SMALL TUz SMALL Uz SMALL YAz SMALL YOz SMALL YUz SOz SUz TAz TEz TIz TOz TUz U
z WAz WOz YAz YOz YUtMIDDLE DOTtSEMI-VOICED SOUND MARKtVOICED SOUND MARK
s-HIRAGANA PROLONGED SOUND MARKkLEFT CORNER BRACKEToWARDS ARROWkRIGHT CORNER BRACKETpWARDS ARROW
kUPWARDS ARROWkWHITE CIRCLEcMBURGERdMERg AND PICKlSICKLElWRENCHdSAeTER FACE
cND WITH INDEX AND MIDDLE FINGERS CROSSEDqFINGER AND THUMB CROSSEDeBAGgLLeSHAKE
dGUL CHOSEONG CEONGCHIEUMCHIEUCHzUMCIEUCzUMSIOSzUMSSANGCIEUCzUMSSANGSIOSrHIEUCHx-HIEUHyKHIEUKH
tTUEUMCHIEUCHzIEUCySIOSzSANGCIEUCzSANGSIOSrIEUCv-IEUNGqFILLERqHIEUHv-SIOSqIEUNGv-CHIEUCHxIEUCwHIEUH
wKIYEOKwMIEUMwPANSIOSxHIEUPHxIEUPwRIEULwSIOSwTHIEUTHxIKEUTqKAPYEOUNMIEUMyPHIEUPHzIEUPyRIEUL
ySSANGPIEUPrHIEUKHrIYEOKw-TIKEUTqMIEUMv-KIYEOKwPIEUPwSIOSwTIKEUTqNIEUNv-CIEUCwHIEUHwKIYEOKwPIEUP
wSIOSwTIKEUTqPANSIOSrHIEUPHx-HIEUHyPIEUPrIEUPv-CHIEUCHxIEUCwHIEUHwKHIEUKHxIYEOKwNIEUNwPHIEUPHwSIOS
zS-CIEUCzS-KIYEOKzS-PIEUPzS-THIEUTHzS-TIKEUTxSANGSIOSwTHIEUTHxIKEUTqRIEULv-CIEUCwHIEUH
wKAPYEOUNPIEUPxHIEUKHxIYEOKwMIEUMwNIEUNwPIEUPwSIOSxSANGKIYEOKzNGPIEUPzNGTIKEUTwTIKEUTqSIOSu-CHIEUCH
wIEUCvHIEUHvIEUNGvKHIEUKHwIYEOKvMIEUMvNIEUNvPHIEUPHwIEUPzP-KIYEOKvRIEULvSSANGSIOSvTHIEUTHwIKEUT
rSANGCIEUCzC-HIEUHvHIEUHvIEUNGvKIYEOKvNIEUNvPIEUPvRIEULvSIOSz-PIEUPvTHIEUTHwIKEUTvYEORINHIEUH
qTHIEUTHrIKEUTw-CIEUCxKIYEOKxMIEUMxPIEUPxRIEULxSIOSqYEORINHIEUHsSIEUNGhDOUBLE DOT TONE MARKhFILLER
hJONGSEONG CHIEUCHsIEUCw-PIEUPxSSANGPIEUPrHIEUHw-MIEUMxNIEUNxPIEUPxRIEULrIEUNGw-KHIEUKHyIYEOK
xSSANGKIYEOKrKAPYEOUNMIEUMzPHIEUPHzPIEUPzRIEULsHIEUKHsIYEOKx-CHIEUCHyHIEUHyKHIEUKHyNIEUNyPIEUP
yRIEULySIOSzIOS-KIYEOKrMIEUMw-CHIEUCHyIEUCxHIEUHxKIYEOKxNIEUNxPANSIOSyIEUPzEUP-SIOSxRIEULxSIOS
ySANGNIEUNzANGSIOSrNIEUNw-CHIEUCHyIEUCxHIEUHxKIYEOKxPANSIOSxRIEULxSIOSxTHIEUTHyIKEUTrPANSIOS
y-KAPYEOUNPIEUPzPIEUPsHIEUPHy-PIEUPzSIOSzTHIEUTHsIEUPw-CHIEUCHyIEUCxHIEUHxMIEUMxPHIEUPHxRIEUL
zEUL-PHIEUPHxSIOSzOS-TIKEUTxTIKEUTrRIEULw-HIEUHxKAPYEOUNPIEUPyHIEUKHyIYEOKzYEOK-HIEUHzYEOK-SIOS
xMIEUMzEUM-HIEUHzEUM-KIYEOKzEUM-SIOSxNIEUNxPANSIOSyHIEUPHyIEUPzEUP-HIEUHzEUP-PHIEUPHzEUP-SIOS
zEUP-TIKEUTxSIOSySANGKIYEOKzANGSIOSxTHIEUTHyIKEUTzKEUT-HIEUHxYEORINHIEUHzORINHIEUH-HIEUHzSIEUNG
rSIOSv-CHIEUCHxIEUCwHIEUHwKAPYEOUNPIEUPxIYEOKwMIEUMwPANSIOSxIEUPwRIEULwTHIEUTHxIKEUTsSANGCIEUC
wIEUNGwKIYEOKwMIEUMwNIEUNwPIEUPwRIEULzUL-KHIEUKHwSIOSzS-KIYEOKzS-TIKEUTwTIKEUTzEUT-PIEUPwYESIEUNG
rTHIEUTHsIKEUTx-CHIEUCHzIEUCyKIYEOKyPIEUPyRIEULySIOSzIOS-KIYEOKyTHIEUTHrYEORINHIEUHtSIEUNGz-HIEUH
z-KHIEUKHz-KIYEOKz-MIEUMz-PANSIOSz-SIOSz-SSANGKIYEOKiUNGSEONG As-EUtOtUsEsRAEAw-AxEyOxIxUrEsOt-EUuO
uUsUt-AuEvOvUuOuUrFILLERrIs-AuRAEAtEUtItOu-ItUtYAv-OvEuEvOuOuUrOs-EuOtOu-ItUtYAvEuEvOsErSSANGARAEA
rUs-AuEtEO-EUtI-ItUtYEvOrWAtEsEtOsIrYAt-OuUuYOtEsEtOu-OvUvYAsIt-UsOt-AvEuEOuIuOuYAwEvEOsUt-AvEuEvO
uIuOuUuYEwOhLETTER ApEpRAEAtEoCHIEUCHpIEUCoEpOpUoHIEUHoIpEUNGoKAPYEOUNMIEUMwPHIEUPHxIEUPwSSANGPIEUP
pHIEUKHpIYEOKu-SIOSoMIEUMt-PANSIOSvIEUPuSIOSoNIEUNt-CIEUCuHIEUHuPANSIOSuSIOSuTIKEUToOpEoPANSIOS
pHIEUPHpIEUPt-CIEUCuKIYEOKuSIOSy-KIYEOKzTIKEUTuTHIEUTHvIKEUToRIEULt-HIEUHuKIYEOKzK-SIOSuMIEUM
uPANSIOSvHIEUPHvIEUPz-SIOSuSIOSuTHIEUTHvIKEUTuYEORINHIEUHoSIOSs-CIEUCtKIYEOKtNIEUNtPIEUPtTIKEUT
pSANGCIEUCtHIEUHtIEUNGtKIYEOKtNIEUNtPIEUPtSIOStTIKEUToTHIEUTHpIKEUToUoWAqEpEqOpIoYAqEpEqOrRINHIEUH
qSIEUNGw-PANSIOSxSIOSpIpOq-IrYAtEpUq-IrYEtOhSINGLE DOT TONE MARKeZHOU NUMERAL EIGHTrFIVEsOURrNINE
rONErSEVENsIXrTENsHIRTYtREEsWENTYtOdIFI ROHINGYA DIGIT EIGHTwFIVExOURwNINEwONEwSEVENxIXwTHREExWO
wZEROqLETTER AxBAxCAxDAyDAxFAxGAxHAxJAxKAyHAyINNA WAzNNA YAxLAxMAxNAyGAyYAxPAxRAyRAxSAyHAxTAyTAxVA
xWAxYAxZAqMARK NA KHONNAvSAKINqSIGN HARBAHAYvTAHALAxNAxSSIqVOWEL AwEwIwOwUdUNOO LETTER ApBApDApGA
pHApIpKApLApMApNAqGApPApRApSApTApUpWApYAiSIGN PAMUDPODiVOWEL SIGN ItUcPPY PERSON RAISING ONE HAND
cRD DISKcTCHING CHICKdRAN LETTER ALEPHpYNoBETHoDALETH-RESHoGIMELoHEqTHoKAPHoLAMEDHoMEMoNUNoPEoQOPH
oSADHEqMEKHpHINoTAWpETHoWAWoYODHoZAYNhNUMBER FIVEoONEr HUNDREDoTENpWENTYbEADPHONEeSTONE
j GRAVEYARD SYMBOLdR-NO-EVIL MONKEYeT DECORATIONgHANDSgWITH ARROWlRIBBONlTIP ON THE LEFT
dVY AMPERSAND ORNAMENThRROW SHAFT WIDTH ONEzNE HALFzNE THIRDyTWO THIRDShSTERISKgBALLOT X
hLACK CURVED DOWNWARDS AND RIGHTWARDS ARROWtUPWARDS AND RIGHTWARDS ARROWmHEART
l-FEATHERED NORTH EAST ARROWwRIGHTWARDS ARROWwSOUTH EAST ARROWgCHECK MARKjVRON SNOWFLAKEhIRCLE
m WITH CIRCLE INSIDEsSTROKE AND TWO DOTS ABOVEmD SALTIREhONCAVE-POINTED BLACK RIGHTWARDS ARROW
gDASHED TRIANGLE-HEADED RIGHTWARDS ARROWhIVISION SIGNhOLLAR SIGNiUBLE COMMA QUOTATION MARK ORNAMENT
nTURNED COMMA QUOTATION MARK ORNAMENTiWNWARDS ARROW WITH EQUILATERAL ARROWHEAD
zH LARGE EQUILATERAL ARROWHEADgEIGHT POINTED BLACK STARuPINWHEEL STARuRECTILINEAR BLACK STAR
mSPOKED ASTERISKmTEARDROP-SPOKED PROPELLER ASTERISKhQUALS SIGNhXCLAMATION MARK ORNAMENTxSYMBOL
gFIVE POINTED BLACK STARlSPOKED ASTERISKhOUR BALLOON-SPOKED ASTERISKgGREEK CROSS
gHEART EXCLAMATION MARK ORNAMENThORIZONTAL FILLgINTERROBANG ORNAMENTgLARGE CIRCLEiTIN CROSS
hEFT-POINTING ANGLE BRACKET ORNAMENTz QUOTATION MARK ORNAMENT
kWARDS ARROW WITH EQUILATERAL ARROWHEADzH LARGE EQUILATERAL ARROWHEADhIGATURE OPEN ET ORNAMENT
hOW DOUBLE COMMA QUOTATION MARK ORNAMENTkSINGLE COMMA QUOTATION MARK ORNAMENT
jER RIGHT-SHADOWED WHITE RIGHTWARDS ARROWgMINUS SIGNhULTIPLICATION XgNORTH EAST ARROWrPOINTING BUD
z VINE LEAFmWEST POINTING BUDz VINE LEAFgOPEN CENTRE CROSShUTLINED BLACK STARhVAL WITH OVAL INSIDE
gPLUS SIGNgRIGHT-POINTING ANGLE BRACKET ORNAMENTzE QUOTATION MARK ORNAMENTlWARDS ARROW
w WITH EQUILATERAL ARROWHEADzTH LARGE EQUILATERAL ARROWHEADhOUND-TIPPED RIGHTWARDS ARROWgSALTIRE
iNS-SERIF INTERROBANG ORNAMENThCRIPT LIGATURE ET ORNAMENThINGLE COMMA QUOTATION MARK ORNAMENT
nTURNED COMMA QUOTATION MARK ORNAMENTiX POINTED BLACK STARkSPOKED ASTERISKhOUTH EAST ARROW
rPOINTING BUDz VINE LEAFmWEST POINTING BUDz VINE LEAFhPARKLEgTEARDROP-SHANKED RIGHTWARDS ARROW
qPOKED ASTERISKwPINWHEEL ASTERISKhRIANGLE-HEADED RIGHTWARDS ARROWhWELVE POINTED BLACK STAR
vPINWHEEL STARgUPPER RIGHT-SHADOWED WHITE RIGHTWARDS ARROWiWARDS ARROW WITH EQUILATERAL ARROWHEAD
zLARGE EQUILATERAL ARROWHEADgVERTICAL BARgWEDGE-TAILED RIGHTWARDS ARROWhHITE CIRCLE
mDOWN-POINTING TRIANGLEmSQUAREhIDE-HEADED RIGHTWARDS ARROWcBREW ACCENT ATNAH HAFUKHoDARGApEHI
oETNAHTAoGERESHu MUQDAMrSHAYIMoILUYoMAHAPAKHpERKHAu KEFULApUNAHoOLEoPASHTAqZERoQADMAqRNEY PARA
oREVIAoSEGOLpHALSHELEToTELISHA GEDOLAwQETANAqVIRpIPEHAoYERAH BEN YOMOqTIVoZAQEF GADOLuQATANqRQA
pINORhLETTER ALEFs WITH MAPIQyPATAHyQAMATSqTERNATIVE AYINz PLUS SIGNpYINoBETr WITH DAGESHxRAFE
oDALETt WITH DAGESHoFINAL KAFx WITH DAGESHuMEMuNUNuPEw WITH DAGESHuTSADIoGIMELt WITH DAGESHoHE
q WITH MAPIQqToKAFr WITH DAGESHxRAFEoLAMEDt WITH DAGESHoMEMr WITH DAGESHoNUNr WITH DAGESHoPE
q WITH DAGESHwRAFEoQOFr WITH DAGESHoRESHs WITH DAGESHoSAMEKHu WITH DAGESHpHINs WITH DAGESH
zAGESH AND SHIN DOTzAGESH AND SIN DOTySHIN DOTzIN DOToTAVr WITH DAGESHpETr WITH DAGESHpSADI
t WITH DAGESHoVAVr WITH DAGESHxHOLAMoWIDE ALEFtDALETtFINAL MEMtHEtKAFtLAMEDtRESHtTAVoYOD
r WITH DAGESHxHIRIQoZAYINt WITH DAGESHiIGATURE ALEF LAMEDqYIDDISH DOUBLE VAVzOUBLE YODyVAV YOD
yYOD YOD PATAHhMARK LOWER DOTmMASORA CIRCLEmUPPER DOThPOINT DAGESH OR MAPIQnHATAF PATAHtQAMATS
tSEGOLoIRIQoOLAMs HASER FOR VAVnJUDEO-SPANISH VARIKAnMETEGnPATAHnQAMATSt QATANoUBUTSnRAFEnSEGOL
oHEVApIN DOToIN DOTnTSEREiUNCTUATION GERESHwSHAYIMtMAQAFtNUN HAFUKHAtPASEQtSOF PASUQhYOD TRIANGLE
cDGEHOGcLICOPTERdLSCHREIBER PAUSE SYMBOLdM SYMBOLeET WITH WHITE CROSScNTAIGANA LETTER A-1u2u3uWO
sE-1u2u3u4u5u6sHA-1w0w1v2v3v4v5v6v7v8v9tE-1v2v3v4v5v6v7tI-1v2v3v4v5v6v7tO-1v2v3v4v5v6v7v8tU-1v2v3
sI-1u2u3u4sKA-1w0w1v2v3v4v5v6v7v8v9vKEtE-1v2v3v4v5v6tI-1v2v3v4v5v6v7v8tO-1v2v3vKItU-1v2v3v4v5v6v7
sMA-1v2v3v4v5v6v7tE-1v2vMAtI-1v2v3v4v5v6v7tO-1v2v3v4v5v6tU-1v2v3v4sN-MU-MO-1z-2tA-1v2v3v4v5v6v7v8v9
tE-1v2v3v4v5v6vKOtI-1v2v3v4v5v6v7vTEtO-1v2v3v4v5tU-1v2v3sO-1u2u3sRA-1v2v3v4tE-1v2v3v4tI-1v2v3v4v5v6
v7tO-1v2v3v4v5v6tU-1v2v3v4v5v6sSA-1v2v3v4v5v6v7v8tE-1v2v3v4v5tI-1v2v3v4v5v6tO-1v2v3v4v5v6v7tU-1v2v3
v4v5v6v7v8sTA-1v2v3v4tE-1v2v3v4v5v6v7v8v9tI-1v2v3v4v5v6v7tO-1v2v3v4v5v6vRAtU-1v2v3v4vTOsU-1u2u3u4u5
sWA-1v2v3v4v5tE-1v2v3v4tI-1v2v3v4v5tO-1v2v3v4v5v6v7sYA-1v2v3v4v5vYOtO-1v2v3v4v5v6tU-1v2v3v4cRB
dMITIAN CONJUGATE MATRIXcXAGRAM FOR ABUNDANCEoFTER COMPLETIONoPPROACHnBEFORE COMPLETION
oITING THROUGHoREAKTHROUGHnCOMING TO MEETpNFLICTqTEMPLATIONnDARKENING OF THE LIGHToECREASE
pLIVERANCEpVELOPMENToIFFICULTY AT THE BEGINNINGpSPERSIONoURATIONnENTHUSIASMnFELLOWSHIPoOLLOWING
nGATHERING TOGETHERoRACEpEAT POSSESSIONvWERuREPONDERANCEtTAMINGnHOLDING TOGETHERnINCREASEpFLUENCE
pNER TRUTHqOCENCEnLIMITATIONnMODESTYpUTH CORNERSnOBSTRUCTIONoPPOSITIONqRESSIONnPEACEoROGRESS
oUSHING UPWARDnRETREATqURNpVOLUTIONnSMALL PREPONDERANCEtTAMINGoPLITTING APARToTANDSTILL
nTHE ABYSMAL WATERsRMYtOUSING THUNDERrCAULDRONsLINGING FIREsREATIVE HEAVENrFAMILYrGENTLE WIND
rJOYOUS LAKErKEEPING STILL MOUNTAINrMARRYING MAIDENrRECEPTIVE EARTHrWANDERERsELLoREADINGnWAITING
oORK ON THE DECAYEDnYOUTHFUL FOLLYbIBISCUScGH BRIGHTNESS SYMBOLfOCTET PRESETfVOLTAGE SIGN
e-HEELED SHOEfSPEED TRAINq WITH BULLET NOSEcKING BOOTcNDU TEMPLEcPPOPOTAMUScRAGANA DIGRAPH YORI
jITERATION MARKjLETTER ArRCHAIC WUyYEqBArErIrOrUqDArErIrOrUqEqGArErIrOrUqHArErIrOrUqIqKArErIrOrUqMA
rErIrOrUqNrArErIrOrUqOqPArErIrOrUqRArErIrOrUqSArErIrMALL AwEwIwKAxEwOwTUwUwWAxExIxOwYAxOxUrOrUqTArE
rIrOrUqUqVUqWArErIrOqYArOrUqZArErIrOrUjVOICED ITERATION MARKcSTORIC SITEbOCHOcLE
dLOW QUILT SQUARE ORNAMENTzENT IN BLACK SQUAREcMOTHETICcNEY POTfBEEcOKcPcRIZONTAL BARmLACK HEXAGON
rOCTAGONlELLIPSISlLINE EXTENSIONlMALE WITH STROKE SIGNlONE EIGHTH BLOCK-1358zCK-2zCK-3zCK-4zCK-5
zCK-6zCK-7lSCAN LINE-1v3v7v9lTAB KEYoULATIONv SETwWITH JUSTIFICATIONmRAFFIC LIGHTdSEf FACEgRACING
cSPITALcT BEVERAGEeDOGePEPPEReSPRINGSdELcURGLASSj WITH FLOWING SANDdSEf BUILDINGoSgWITH GARDEN
bRYVNIA SIGNbTcJcSbUGGING FACEcNDRED POINTS SYMBOLcSHED FACEcTbYGIEAcPHENg BULLEThWITH DIAERESIS
g-MINUSgATION POINTdODIASTOLEcSTERESIS SYMBOLaI LOVE YOU HAND SIGNbCE CREAMfUBE
eHOCKEY STICK AND PUCKeSKATEbDENTICAL TOm AND SLANTED PARALLELkWITH DOT ABOVEgFICATION CARD
dOGRAPHIC ANNOTATION BOTTOM MARKxEARTH MARKxFIRST MARKyOUR MARKzURTH MARKxHEAVEN MARKxLINKING MARK
xMAN MARKyIDDLE MARKxONE MARKxREVERSE MARKxSECOND MARKxTHIRD MARKzREE MARKyOP MARKyWO MARK
mCLOSING MARKnOMMAmDEPARTING TONE MARKoSCRIPTION CHARACTER ABOVE TO BELOW
zHARACTER ABOVE TO MIDDLE AND BELOWzHARACTER FULL SURROUNDzHARACTER LEFT TO MIDDLE AND RIGHT
zHARACTER LEFT TO RIGHTzHARACTER OVERLAIDzHARACTER SURROUND FROM ABOVEzHARACTER SURROUND FROM BELOW
zHARACTER SURROUND FROM LEFTzHARACTER SURROUND FROM LOWER LEFTzHARACTER SURROUND FROM UPPER LEFT
zHARACTER SURROUND FROM UPPER RIGHTmENTERING TONE MARKmFULL STOPmHALF FILL SPACEmITERATION MARK
mLEVEL TONE MARKmNUMBER ZEROmRISING TONE MARKmSPACEmTALLY MARK FIVEyOURxONExTHREEyWO
nELEGRAPH LINE FEED SEPARATOR SYMBOLwSYMBOL FOR APRILzBOL FOR AUGUSTzBOL FOR DAY EIGHT
zBOL FOR DAY EIGHTEENzBOL FOR DAY ELEVENzBOL FOR DAY FIFTEENzBOL FOR DAY FIVEzBOL FOR DAY FOUR
zBOL FOR DAY FOURTEENzBOL FOR DAY NINEzBOL FOR DAY NINETEENzBOL FOR DAY ONEzBOL FOR DAY SEVEN
zBOL FOR DAY SEVENTEENzBOL FOR DAY SIXzBOL FOR DAY SIXTEENzBOL FOR DAY TENzBOL FOR DAY THIRTEEN
zBOL FOR DAY THIRTYzBOL FOR DAY THIRTY-ONEzBOL FOR DAY THREEzBOL FOR DAY TWELVEzBOL FOR DAY TWENTY
zBOL FOR DAY TWENTY-EIGHTzBOL FOR DAY TWENTY-FIVEzBOL FOR DAY TWENTY-FOURzBOL FOR DAY TWENTY-NINE
zBOL FOR DAY TWENTY-ONEzBOL FOR DAY TWENTY-SEVENzBOL FOR DAY TWENTY-SIXzBOL FOR DAY TWENTY-THREE
zBOL FOR DAY TWENTY-TWOzBOL FOR DAY TWOzBOL FOR DECEMBERzBOL FOR FEBRUARYzBOL FOR HOUR EIGHT
zBOL FOR HOUR EIGHTEENzBOL FOR HOUR ELEVENzBOL FOR HOUR FIFTEENzBOL FOR HOUR FIVEzBOL FOR HOUR FOUR
zBOL FOR HOUR FOURTEENzBOL FOR HOUR NINEzBOL FOR HOUR NINETEENzBOL FOR HOUR ONEzBOL FOR HOUR SEVEN
zBOL FOR HOUR SEVENTEENzBOL FOR HOUR SIXzBOL FOR HOUR SIXTEENzBOL FOR HOUR TEN
zBOL FOR HOUR THIRTEENzBOL FOR HOUR THREEzBOL FOR HOUR TWELVEzBOL FOR HOUR TWENTY
zBOL FOR HOUR TWENTY-FOURzBOL FOR HOUR TWENTY-ONEzBOL FOR HOUR TWENTY-THREEzBOL FOR HOUR TWENTY-TWO
zBOL FOR HOUR TWOzBOL FOR HOUR ZEROzBOL FOR JANUARYzBOL FOR JULYzBOL FOR JUNEzBOL FOR MARCH
zBOL FOR MAYzBOL FOR NOVEMBERzBOL FOR OCTOBERzBOL FOR SEPTEMBERmVARIATION INDICATORbMAGE OF
i OR APPROXIMATELY EQUAL TOcPdERIAL ARAMAIC LETTER ALEPHzYINyBETHyDALETHyGIMELyHEzETHyKAPHyLAMEDH
yMEMyNUNyPEyQOPHyRESHySADHEzAMEKHzHINyTAWzETHyWAWyYODHyZAYINrNUMBER ONEzNE HUNDREDzNE THOUSANDyTEN
zEN THOUSANDzHREEzWENTYzWOrSECTION SIGNbNBOX TRAYcCOMING ENVELOPEfPLETE INFINITY
dREASE FONT SIZE SYMBOLiS ASfMENTcDdEXf POINTING AT THE VIEWERdIAN RUPEE SIGN
eC SIYAQ ALTERNATE LAKH MARKmFRACTION ONE HALFzQUARTERvTHREE QUARTERSmLAKH MARK
mNUMBER ALTERNATE ONEzATE TEN THOUSANDzATE TWOtEIGHTy HUNDREDzTHOUSANDyYz THOUSANDtFIFTYy THOUSAND
vVEx HUNDREDyTHOUSANDuORTYy THOUSANDvURx HUNDREDyTHOUSANDtKARORyANtLAKHxANtNINEx HUNDREDyTHOUSAND
xTYz THOUSANDtONEw HUNDREDxTHOUSANDtPREFIXED EIGHTzED FIVEzED FOURzED NINEzED ONEzED SEVENzED SIX
zED THREEzED TWOtSEVENy HUNDREDzTHOUSANDyTYzY THOUSANDuIXw HUNDREDxTHOUSANDwTYy THOUSANDtTEN
w THOUSANDuHIRTYz THOUSANDvREEy HUNDREDzTHOUSANDuWENTYz THOUSANDvOw HUNDREDxTHOUSANDmPLACEHOLDER
mRUPEE MARKcFINITYi NEGATED WITH VERTICAL BARdORMATION DESK PERSONmSEPARATOR FOURwONEwTHREExWO
nOURCEcHIBIT ARABIC FORM SHAPINGiSYMMETRIC SWAPPINGcPUT SYMBOL FOR LATIN CAPITAL LETTERSxLETTERS
xSMALL LETTERSrNUMBERSrSYMBOLScSCRIPTIONAL PAHLAVI LETTER ALEPHzTER BETHzTER DALETHzTER GIMEL
zTER HEzTER HETHzTER KAPHzTER LAMEDHzTER MEM-QOPHzTER NUNzTER PEzTER SADHEzTER SAMEKHzTER SHIN
zTER TAWzTER TETHzTER WAW-AYIN-RESHzTER YODHzTER ZAYINwNUMBER FOURzBER ONEzBER ONE HUNDRED
zBER ONE THOUSANDzBER TENzBER THREEzBER TWENTYzBER TWOqRTHIAN LETTER ALEPHzTTER AYINzTTER BETH
zTTER DALETHzTTER GIMELzTTER HEzTTER HETHzTTER KAPHzTTER LAMEDHzTTER MEMzTTER NUNzTTER PEzTTER QOPH
zTTER RESHzTTER SADHEzTTER SAMEKHzTTER SHINzTTER TAWzTTER TETHzTTER WAWzTTER YODHzTTER ZAYIN
xNUMBER FOURzMBER ONEzMBER ONE HUNDREDzMBER ONE THOUSANDzMBER TENzMBER THREEzMBER TWENTYzMBER TWO
dERTION SYMBOLcTEGRALi AROUND A POINT OPERATORkVERAGE WITH SLASHjEXTENSIONjWITH DOUBLE STROKE
oINTERSECTIONoLEFTWARDS ARROW WITH HOOKoOVERBARoTIMES SIGNoUNDERBARqIONeRCALATEfIOR PRODUCT
fLINEAR ANNOTATION ANCHORxSEPARATORxTERMINATORgOCKED FEMALE AND MALE SIGNfROBANGfSECTION
m ABOVE BAR ABOVE UNIONtUNIONnBESIDE AND JOINED WITH INTERSECTIONnWITH DOTsLOGICAL ANDsOVERBAR
cVERSE BULLETiCHECK MARKnER BOARD FILLiDOWNWARDS ARROW WITH TIP LEFTWARDSiMEDIUM SHADEiWHITE CIRCLE
fTED EXCLAMATION MARKjINTERROBANGjLAZY SkOW KAVYKAt WITH KAVYKA ABOVEjOHM SIGNjPENTAGRAM
jQUESTION MARKjUNDERTIEdISIBLE PLUSkSEPARATORkTIMESbZAKAYA LANTERNaJACK-O-LANTERN
cPANESE BANK SYMBOLjCASTLEjDOLLSjGOBLINjINDUSTRIAL STANDARD SYMBOLjOGREjPOST OFFICE
jSYMBOL FOR BEGINNERcRcVANESE CONSONANT SIGN CAKRAyKERETyPENGKALjDIGIT EIGHTpFIVEqOURpNINEpONE
pSEVENqIXpTHREEqWOpZEROjLEFT RERENGGANlTTER ArIqBAs MURDAqCAs MURDAqDAs MAHAPRANArDAt MAHAPRANAqE
qGAs MURDAqHAqIr KAWIrIqJAs MAHAPRANAqKAs MURDAtSASAKqLAqMAqNAs MURDArGAt LELETz RASWADIrYAt MURDA
qOqPAs CEREKtMURDAqRAs AGUNGqSAs MAHAPRANAuURDAqTAs MURDArTAt MAHAPRANAqUqWAqYAjPADA ADEGs ADEG
pNDAPoISEN-ISENoLINGSApUHURqNGSIoMADYAoPANGKATpISELEHoTIRTA TUMETESoWINDUlNGKONnRANGKEP
jRIGHT RERENGGANjSIGN CECAKt TELUoLAYARoPANYANGGAoWIGNYANjTURNED PADA PISELEHjVOWEL SIGN DIRGA MURE
uPEPETuSUKUy MENDUTuTALINGwRUNGvOLONGuWULUy MELIKbEANSbIGSAW PUZZLE PIECEbOINcYSTICKbUGGLINGcNO
cPITERaKAABAcITHI ABBREVIATION SIGNhDANDAiOUBLE DANDAoSECTION MARKhENUMERATION SIGNhLETTER ApApIpU
oBApHAoCApHAoDApDAqDHAqHApHAoEoGApHAoHAoIpIoJApHAoKApHAoLAoMAoNApGApNApYAoOoPApHAoRApHAoSApHApSAoTA
pHApTAqHAoUpUoVAoYAhNUMBER SIGNs ABOVEhSECTION MARKiIGN ANUSVARAmCANDRABINDUmNUKTAmVIRAMAoSARGA
hVOWEL SIGN AAtItUsEsItIsOsUtUsVOCALIC RcNGAROOeXI RADICAL AGAINqNDqRRIVEsOWqXEpBADGERrMBOOqEANqIG
rRDrTTERqLACKrOODrUEqOATrDYrLT OF CLOTHrNErWqRANCHrISTLErUSHpCARTrULDRONrVEqHILDqITYqLANsWrIFF
rOTHESqOLORrMPARErRPSErVERrWpDEATHrERqIPPERrSHsTINGUISHrVINATIONqO NOTrGrORrTsTED CLIFFwTENTrUBLE X
rWN BOXqRAGONrUMrYpEARsTHrTqIGHTqMBROIDERYqNCLOSURErTERqVENtINGqYEpFACErNGrTHERqEATHERqIELDrGHTrRE
rSHqLUTErYqOOTqRAGRANTrOGqURpGATEqHOSTqOr SLOWLYrLDqRAINsSSpHAIRrLBERDsF TREE TRUNKrNDqEADsRTrMP
qIDING ENCLOSUREqOOKrRNsSEpICEqNCHrSECTpJADErRpKNIFEpLACKrMEqEAFsTHERrEKrGSqIDrFErNEqONGt STRIDE
pMANqEATrLONqILLETrNISTERqOONrRNINGsTARrUNDtTAINsTHpNETqOSErTpOLDqNEsSELFqPEN BOXrPOSEpPIGqLOWqOWER
qRIVATErOFOUNDpRAINrPrTqEDqICErGHT OPEN BOXrVERqOOFqUNpSACRIFICIAL WINErLTrYqCHOLARrRIPTqEALrCONDrE
rLFqHEEPsLLrOOTsRT TAILED BIRDwHREADqICKNESSrLKqKINqLASHsVErICEqMALLqNOUTqOUNDqPEARsECHrIRITrOON
rROUTqQUAREqTANDrEAMsPrONEsPtPINGqUNqWEETpTABLErLLrNNED LEATHERqENqIGERrLEqONGUErOTHqRACKrEErIPOD
qURBANsTLEqWOs HANDSpUSEpVALLEYqILLAGEpWALKt ENCLOSURErTERqEAPONrSTqHEATrITEqINDsEqOMANrRKqRAPrONG
pYELLOWdNADA AI LENGTH MARKiDIGIT EIGHToFIVEpOURoNINEoONEoSEVENpIXoTHREEpWOoZEROiLENGTH MARKkTTER A
qAqIqUpBAqHApCAqHApDAqDArHAqHApEqEpFApGAqHApHApIqIpJAqHApKAqHApLAqLArLApMApNArKAARA POLLUqGAqNAqYA
pOqOpPAqHApRAqRApSAqHAqSApTAqHAqTArHApUqUpVAqOCALIC LyLxRyRpYAiSIGN ANUSVARAoVAGRAHAnCANDRABINDU
nJIHVAMULIYAnNUKTAnSIDDHAMoPACING CANDRABINDUnUPADHMANIYAnVIRAMApSARGAiVOWEL SIGN AAuIuUtEuEtIuItO
uOtUuUtVOCALIC LzC LLzC RzC RRcTAKANA DIGRAPH KOTOjITERATION MARKjLETTER ArRCHAIC EyWUyYEzIqBArErI
rOrUqDArErIrOrUqEqGArErIrOrUqHArErIrOrUqIqKArErIrOrUqMArErIsNNAN NASALIZED TONE-1zSALIZED TONE-2
zSALIZED TONE-3zSALIZED TONE-4zSALIZED TONE-5zSALIZED TONE-7zSALIZED TONE-8xTONE-2zNE-3zNE-4zNE-5
zNE-7zNE-8rOrUqNrArErIrOrUqOqPArErIrOrUqRArErIrOrUqSArErIrMALL AwEwHAxExIxOxUwIwKAxExUwMUwNxUwOwRA
xExIxOxUwSIxUwTOxUwUwWAxExIxOwYAxOxUrOrUqTArErIrOrUqUqVArErIrOrUqWArErIrOqYArOrUqZArErIrOrU
jMIDDLE DOTjVOICED ITERATION MARKi-HIRAGANA DOUBLE HYPHENsPROLONGED SOUND MARK
sSEMI-VOICED SOUND MARKsVOICED SOUND MARKcYAH LI DIGIT EIGHTpFIVEqOURpNINEpONEpSEVENqIXpTHREEqWO
pZEROjLETTER AqBAqCAqDAqGAqHArTAqIqKArHAqLAqMAqNArGArYAqOErOqPArHAqRAqSArHAqTArHAqVAqWAqYAqZA
jSIGN CWIoSHYAjTONE CALYAt PLOPHUoPLOPHUjVOWEL EqEpOpUqEbELVIN SIGNcYdBOARDi AND MOUSEdCAP TEN
bHAROSHTHI DIGIT FOURrONErTHREEsWOlFRACTION ONE HALFlLETTER AsBAtHAsCAtHAsDAtDAuHAtHAsGAtHAsHAsJA
sKAtHAtKAsLAsMAsNAtNAtYAsPAtHAsRAsSAtHAtSAsTAtHAtTAuHAuTAvHAsVAtHAsYAsZAlNUMBER ONE HUNDRED
wTHOUSANDsTENtWENTYlPUNCTUATION CIRCLEyRESCENT BARxDANDAyOTzUBLE DANDAxLINESyOTUSxMANGALAM
xSMALL CIRCLElSIGN ANUSVARAqBAR ABOVEqCAUDAqDOT BELOWsUBLE RING BELOWqVISARGAlVIRAMA
mOWEL LENGTH MARKrSIGN EwIwOwUwVOCALIC RcITAN SMALL SCRIPT FILLERcMER CURRENCY SYMBOL RIEL
gDIGIT EIGHTmFIVEnOURmNINEmONEmSEVENnIXmTHREEnWOmZEROgINDEPENDENT VOWEL LYzYYyQAAzAIzAQzAUzEzIzII
zOO TYPE ONEzOO TYPE TWOzUzUKzUUzUUVyRYzYYgLETTER BAnCAoHApOoOnDAoOnHAnKAoHApOoOnLAoOnMOnNGOoNOoO
oYOnPHApOoOnQAnROnSAoHAoSOnTAoHApOoOoTHAqOnVOnYOgSIGN AHSDAmTTHACANmVAKRAHASANYAlBANTOCnRIYOOSAN
nTHAMASATmEYYALlCAMNUC PII KUUHmOENGlKAKABATmHANmOOMUUTlLEK TOOlMUUSIKATOANlNIKAHITlPHNAEK MUAN
lREAHMUKmOBATlSAMYOK SANNYAlTOANDAKHIATmRIISAPlVIRIAMlYUUKALEAPINTUhYMBOL BEI KOETrROCoUON KOETsROC
nDAP KOETrROCq-BEI KOETvROCsUON KOETwROCrMUOY KOETwROCrPII KOETvROCsRAM KOETwROCnLEK ATTAK BEIyUON
xMUOYxPIIyRAMzAM-BEIzAM-BUONzAM-MUOYzAM-PIIxSONnMUOY KOETsROCnPATHAMASAToII KOETrROCoRAM KOETsROC
r-BEI KOETwROCtUON KOETxROCsMUOY KOETxROCsPII KOETwROCnTUTEYASATgVOWEL INHERENT AAwQmSIGN AAsEsIsU
rErIsEsIrOEsOrUsAsUrYsAsYcOJKI ABBREVIATION SIGNhDANDAiOUBLE DANDAoSECTION MARKhLETTER ApApIpUoBA
pBApHAoCApHAoDApDAqDAqHApHAoEoGApGApHAoHAoIoJApJAoKApHAoLApLAoMAoNApGApNApYAoOoPApHAoRAoSAoTApHApTA
qHAoUoVAoYAhSECTION MARKiIGN ANUSVARAmNUKTAmSHADDAnUKUNmVIRAMAhVOWEL SIGN AAtItUsEsItIsOsU
hWORD SEPARATORcUDAWADI DIGIT EIGHTqFIVErOURqNINEqONEqSEVENrIXqTHREErWOqZEROkLETTER AsAsIsUrBAsBA
sHArCAsHArDAsDAtDAtHAsHArErGAsGAsHArHArIsIrJAsHAsJArKAsHArLArMArNAsGAsNAsYArOrPAsHArRAsRArSAsHArTA
sHAsTAtHArUsUrVArYAkSIGN ANUSVARApNUKTApVIRAMAkVOWEL SIGN AAwIwUvEvIwIvOvUwUbIMONOcP SIGNcSSe MARK
eING CAT FACE WITH CLOSED EYESiFACEm WITH CLOSED EYESsSMILING EYEScTEcWIFRUITbNEELING PERSONcOT
bOALAcREAN STANDARD SYMBOLbRONOSaL B BAR SYMBOLbAB COATdELcCROSSE STICK AND BALLcDDERdY BEETLE
cNGUAGE TAGcO CANCELLATION MARKeDIGIT EIGHTkFIVElOURkNINEkONEkSEVENlIXkTHREElWOkZEROeELLIPSISeHO MO
hNOeKO LAeLETTER BOlCOlDOlFO FAYpONoSUNGoTAMlHO SUNGoTAMlKHMU GOqNYOnO SUNGpTAMmOlLOn LINGpOOTlMO
lNGOmOmYOlOlPALI BHAqCHAqDDAsHArHAqGHAqJHAqLLAqNNArYAqTTAsHAmHO SUNGpTAMmOlROlSANSKRIT SHAvSA
mO SUNGoTAMlTHO SUNGpTAMmOlWOlYOeNIGGAHITAeSEMIVOWEL SIGN LOtNYOfIGN PALI VIRAMAeTONE MAI CATAWAnEK
nTHOoIeVOWEL SIGN AqAqIqMqYpEqIpIqIpMAI KANuONpOpUqUpYqYcRGE BLUE CIRCLElDIAMONDlSQUAREhROWN CIRCLE
mSQUAREgCIRCLEgDOWN TACKgGREEN CIRCLEmSQUAREgLEFT TRIANGLE OPERATOR
gONE DOT OVER TWO DOTS PUNCTUATIONkRING OVER TWO RINGS PUNCTUATIONhRANGE CIRCLEnDIAMONDnSQUARE
gPURPLE CIRCLEnSQUAREgRED CIRCLEkSQUAREgTRIPLE VERTICAL BAR OPERATOR
hWO DOTS OVER ONE DOT PUNCTUATIONkRINGS OVER ONE RING PUNCTUATIONgUP TACKgYELLOW CIRCLEnSQUARE
fR THANl OR EQUAL TOdI SIGNcST QUARTER MOONr SYMBOLsWITH FACEcTIN CAPITAL LETTER Aw WITH ACUTE
zTH BREVEzTH BREVE AND ACUTEzTH BREVE AND DOT BELOWzTH BREVE AND GRAVEzTH BREVE AND HOOK ABOVE
zTH BREVE AND TILDEzTH CARONzTH CIRCUMFLEXzTH CIRCUMFLEX AND ACUTEzTH CIRCUMFLEX AND DOT BELOW
zTH CIRCUMFLEX AND GRAVEzTH CIRCUMFLEX AND HOOK ABOVEzTH CIRCUMFLEX AND TILDEzTH DIAERESIS
zTH DIAERESIS AND MACRONzTH DOT ABOVEzTH DOT ABOVE AND MACRONzTH DOT BELOWzTH DOUBLE GRAVEzTH GRAVE
zTH HOOK ABOVEzTH INVERTED BREVEzTH MACRONzTH OGONEKzTH RING ABOVEzTH RING ABOVE AND ACUTE
zTH RING BELOWzTH STROKEzTH TILDEwAwEx WITH ACUTEzITH MACRONwFRICAN DwLPHAwNGLICANA WwOwUwV
x WITH HORIZONTAL BARwYvBw WITH DOT ABOVEzTH DOT BELOWzTH FLOURISHzTH HOOKzTH LINE BELOWzTH STROKE
zTH TOPBARwETAwROKEN LvCw WITH ACUTEzTH BARzTH CARONzTH CEDILLAzTH CEDILLA AND ACUTEzTH CIRCUMFLEX
zTH DOT ABOVEzTH HOOKzTH PALATAL HOOKzTH STROKEwHIwLOSED INSULAR GwONwUATRILLOzRILLO WITH COMMAvD
w WITH CARONzTH CEDILLAzTH CIRCUMFLEX BELOWzTH DOT ABOVEzTH DOT BELOWzTH HOOKzTH LINE BELOW
zTH SHORT STROKE OVERLAYzTH SMALL LETTER ZzTH SMALL LETTER Z WITH CARONzTH STROKEzTH TOPBARwZ
x WITH CARONvEw WITH ACUTEzTH BREVEzTH CARONzTH CEDILLAzTH CEDILLA AND BREVEzTH CIRCUMFLEX
zTH CIRCUMFLEX AND ACUTEzTH CIRCUMFLEX AND DOT BELOWzTH CIRCUMFLEX AND GRAVE
zTH CIRCUMFLEX AND HOOK ABOVEzTH CIRCUMFLEX AND TILDEzTH CIRCUMFLEX BELOWzTH DIAERESISzTH DOT ABOVE
zTH DOT BELOWzTH DOUBLE GRAVEzTH GRAVEzTH HOOK ABOVEzTH INVERTED BREVEzTH MACRON
zTH MACRON AND ACUTEzTH MACRON AND GRAVEzTH OGONEKzTH STROKEzTH TILDEzTH TILDE BELOW
wGYPTOLOGICAL AINzTOLOGICAL ALEFwNGwSHwTxHwZHy REVERSEDzWITH CARONvFw WITH DOT ABOVEzTH HOOK
zTH STROKEvGw WITH ACUTEzTH BREVEzTH CARONzTH CEDILLAzTH CIRCUMFLEXzTH DOT ABOVEzTH HOOKzTH MACRON
zTH OBLIQUE STROKEzTH STROKEwAMMAwHAwLOTTAL AzTAL IzTAL STOPzTAL UvHw WITH BREVE BELOWzTH CARON
zTH CEDILLAzTH CIRCUMFLEXzTH DESCENDERzTH DIAERESISzTH DOT ABOVEzTH DOT BELOWzTH HOOKzTH STROKE
wALF HwENGwWAIRvIw WITH ACUTEzTH BREVEzTH CARONzTH CIRCUMFLEXzTH DIAERESISzTH DIAERESIS AND ACUTE
zTH DOT ABOVEzTH DOT BELOWzTH DOUBLE GRAVEzTH GRAVEzTH HOOK ABOVEzTH INVERTED BREVEzTH MACRON
zTH OGONEKzTH STROKEzTH TILDEzTH TILDE BELOWwNSULAR DzLAR FzLAR GzLAR RzLAR SzLAR TwOTAwSvJ
w WITH CIRCUMFLEXzTH CROSSED-TAILzTH STROKEvKw WITH ACUTEzTH CARONzTH CEDILLAzTH DESCENDER
zTH DIAGONAL STROKEzTH DOT BELOWzTH HOOKzTH LINE BELOWzTH OBLIQUE STROKEzTH STROKE
zTH STROKE AND DIAGONAL STROKEvLw WITH ACUTEzTH BARzTH BELTzTH CARONzTH CEDILLAzTH CIRCUMFLEX BELOW
zTH DOT BELOWzTH DOT BELOW AND MACRONzTH DOUBLE BARzTH HIGH STROKEzTH LINE BELOWzTH MIDDLE DOT
zTH MIDDLE TILDEzTH SMALL LETTER JzTH STROKEwJvMw WITH ACUTEzTH DOT ABOVEzTH DOT BELOWzTH HOOK
wIDDLE SCOTS SzLE-WELSH LLzLE-WELSH VvNw WITH ACUTEzTH CARONzTH CEDILLAzTH CIRCUMFLEX BELOW
zTH DESCENDERzTH DOT ABOVEzTH DOT BELOWzTH GRAVEzTH LEFT HOOKzTH LINE BELOWzTH LONG RIGHT LEG
zTH OBLIQUE STROKEzTH SMALL LETTER JzTH TILDEwJvOw WITH ACUTEzTH BREVEzTH CARONzTH CIRCUMFLEX
zTH CIRCUMFLEX AND ACUTEzTH CIRCUMFLEX AND DOT BELOWzTH CIRCUMFLEX AND GRAVE
zTH CIRCUMFLEX AND HOOK ABOVEzTH CIRCUMFLEX AND TILDEzTH DIAERESISzTH DIAERESIS AND MACRON
zTH DOT ABOVEzTH DOT ABOVE AND MACRONzTH DOT BELOWzTH DOUBLE ACUTEzTH DOUBLE GRAVEzTH GRAVE
zTH HOOK ABOVEzTH HORNzTH HORN AND ACUTEzTH HORN AND DOT BELOWzTH HORN AND GRAVE
zTH HORN AND HOOK ABOVEzTH HORN AND TILDEzTH INVERTED BREVEzTH LONG STROKE OVERLAYzTH LOOP
zTH MACRONzTH MACRON AND ACUTEzTH MACRON AND GRAVEzTH MIDDLE TILDEzTH OGONEKzTH OGONEK AND MACRON
zTH STROKEzTH STROKE AND ACUTEzTH TILDEzTH TILDE AND ACUTEzTH TILDE AND DIAERESIS
zTH TILDE AND MACRONwIwLD POLISH OwMEGAwOwPEN Ez OwUvPw WITH ACUTEzTH DOT ABOVEzTH FLOURISHzTH HOOK
zTH SQUIRREL TAILzTH STROKEzTH STROKE THROUGH DESCENDERvQw WITH DIAGONAL STROKE
zTH STROKE THROUGH DESCENDERvRw ROTUNDAxWITH ACUTEzTH CARONzTH CEDILLAzTH DOT ABOVEzTH DOT BELOW
zTH DOT BELOW AND MACRONzTH DOUBLE GRAVEzTH INVERTED BREVEzTH LINE BELOWzTH OBLIQUE STROKE
zTH STROKEzTH TAILwEVERSED C WITH DOTzRSED EzRSED HALF HzRSED OPEN EwUM ROTUNDAvSw WITH ACUTE
zTH ACUTE AND DOT ABOVEzTH CARONzTH CARON AND DOT ABOVEzTH CEDILLAzTH CIRCUMFLEXzTH COMMA BELOW
zTH DOT ABOVEzTH DOT BELOWzTH DOT BELOW AND DOT ABOVEzTH HOOKzTH OBLIQUE STROKE
zTH SHORT STROKE OVERLAYzTH SWASH TAILwALTILLOwCHWAxRIPT GwHARP SwIGMOID SwMALL CAPITAL I
zL Q WITH HOOK TAILvTw WITH CARONzTH CEDILLAzTH CIRCUMFLEX BELOWzTH COMMA BELOWzTH DIAGONAL STROKE
zTH DOT ABOVEzTH DOT BELOWzTH HOOKzTH LINE BELOWzTH RETROFLEX HOOKzTH STROKEwHORNzN WITH STROKE
zN WITH STROKE THROUGH DESCENDERwONE FIVEz SIXz TWOwRESILLOwURNED AzED ALPHAzED HzED INSULAR GzED K
zED LzED MzED TzED VwZvUw BARxWITH ACUTEzTH BREVEzTH CARONzTH CIRCUMFLEXzTH CIRCUMFLEX BELOW
zTH DIAERESISzTH DIAERESIS AND ACUTEzTH DIAERESIS AND CARONzTH DIAERESIS AND GRAVE
zTH DIAERESIS AND MACRONzTH DIAERESIS BELOWzTH DOT BELOWzTH DOUBLE ACUTEzTH DOUBLE GRAVEzTH GRAVE
zTH HOOK ABOVEzTH HORNzTH HORN AND ACUTEzTH HORN AND DOT BELOWzTH HORN AND GRAVE
zTH HORN AND HOOK ABOVEzTH HORN AND TILDEzTH INVERTED BREVEzTH MACRONzTH MACRON AND DIAERESIS
zTH OGONEKzTH RING ABOVEzTH STROKEzTH TILDEzTH TILDE AND ACUTEzTH TILDE BELOWwPSILONvV
w WITH DIAGONAL STROKEzTH DOT BELOWzTH HOOKzTH TILDEwENDwISIGOTHIC ZwOLAPUK AEzPUK OEzPUK UEwYvW
w WITH ACUTEzTH CIRCUMFLEXzTH DIAERESISzTH DOT ABOVEzTH DOT BELOWzTH GRAVEzTH HOOKwYNNvX
w WITH DIAERESISzTH DOT ABOVEvYw WITH ACUTEzTH CIRCUMFLEXzTH DIAERESISzTH DOT ABOVEzTH DOT BELOW
zTH GRAVEzTH HOOKzTH HOOK ABOVEzTH LOOPzTH MACRONzTH STROKEzTH TILDEwOGHvZw WITH ACUTEzTH CARON
zTH CIRCUMFLEXzTH DESCENDERzTH DOT ABOVEzTH DOT BELOWzTH HOOKzTH LINE BELOWzTH PALATAL HOOK
zTH STROKEzTH SWASH TAILpIGATURE IJxOEhROSSgEPIGRAPHIC LETTER ARCHAIC MyI LONGAzNVERTED M
yREVERSED FzEVERSED PySIDEWAYS IgLETTER AINoLVEOLAR CLICKnBIDENTAL PERCUSSIVEpLABIAL CLICK
wPERCUSSIVEnDENTAL CLICKnGLOTTAL STOPz WITH STROKEnINVERTED GLOTTAL STOPzTTAL STOP WITH CURL
zTTAL STOP WITH STROKEnLATERAL CLICKnPHARYNGEAL VOICED FRICATIVEnRETROFLEX CLICK
zICK WITH RETROFLEX HOOKpVERSED ESH LOOPwGLOTTAL STOP WITH STROKEnSINOLOGICAL DOToMALL CAPITAL A
zL AEzL BzL BARRED BzL CzL DzL EzL ETHzL EZHzL FzL GzL G WITH HOOKzL HzL IzL INVERTED RzL JzL KzL L
zL L WITH BELTzL L WITH STROKEzL MzL NzL OzL OEzL OPEN OzL OUzL PzL QzL RzL R WITH RIGHT LEG
zL REVERSED NzL REVERSED RzL RUMzL SzL TzL TURNED EzL TURNED GzL TURNED KzL TURNED MzL TURNED RzL U
zL VzL WzL YzL ZoTRETCHED Cy WITH CURLnTWO WITH STROKEnVOICED LARYNGEAL SPIRANTnWYNNnYR
gSMALL CAPITAL LETTER I WITH STROKEzR U WITH STROKEmLETTER Au REVERSED-SCHWAvWITH ACUTEz BREVE
z BREVE AND ACUTEz BREVE AND DOT BELOWz BREVE AND GRAVEz BREVE AND HOOK ABOVEz BREVE AND TILDE
z CARONz CIRCUMFLEXz CIRCUMFLEX AND ACUTEz CIRCUMFLEX AND DOT BELOWz CIRCUMFLEX AND GRAVE
z CIRCUMFLEX AND HOOK ABOVEz CIRCUMFLEX AND TILDEz DIAERESISz DIAERESIS AND MACRONz DOT ABOVE
z DOT ABOVE AND MACRONz DOT BELOWz DOUBLE GRAVEz GRAVEz HOOK ABOVEz INVERTED BREVEz MACRONz OGONEK
z RETROFLEX HOOKz RIGHT HALF RINGz RING ABOVEz RING ABOVE AND ACUTEz RING BELOWz STROKEz TILDEuAuE
v WITH ACUTEzH MACRONuLPHAy WITH RETROFLEX HOOKuNGLICANA WuOuUuVv WITH HORIZONTAL BARuYtB
u WITH DOT ABOVEz DOT BELOWz FLOURISHz HOOKz LINE BELOWz MIDDLE TILDEz PALATAL HOOKz STROKEz TOPBAR
uARRED ALPHAz Ez OvSELINE ESHuETAuLACKLETTER EzETTER OzETTER O WITH STROKEuOTTOM HALF OuROKEN LtC
u WITH ACUTEz BARz CARONz CEDILLAz CEDILLA AND ACUTEz CIRCUMFLEXz CURLz DOT ABOVEz HOOK
z PALATAL HOOKz RETROFLEX HOOKz STROKEuHIw WITH LOW LEFT SERIFzTH LOW RIGHT RINGuLOSED INSULAR G
z OMEGAz OPEN Ez REVERSED OPEN EuONuUATRILLOzLLO WITH COMMAtDu WITH CARONz CEDILLA
z CIRCUMFLEX BELOWz CURLz DOT ABOVEz DOT BELOWz HOOKz HOOK AND TAILz LINE BELOWz MIDDLE TILDE
z PALATAL HOOKz SHORT STROKE OVERLAYz STROKEz TAILz TOPBARuB DIGRAPHuELTAvZH DIGRAPH
zIGRAPH WITH PALATAL HOOKzIGRAPH WITH RETROFLEX HOOKuOTLESS IzS JzS J WITH STROKE
zS J WITH STROKE AND HOOKvUBLE Rz R WITH CROSSED-TAILz THORNz WYNNuUMuZv DIGRAPHzRAPH WITH CURL
zRAPH WITH RETROFLEX HOOKwWITH CARONtEu WITH ACUTEz BREVEz CARONz CEDILLAz CEDILLA AND BREVE
z CIRCUMFLEXz CIRCUMFLEX AND ACUTEz CIRCUMFLEX AND DOT BELOWz CIRCUMFLEX AND GRAVE
z CIRCUMFLEX AND HOOK ABOVEz CIRCUMFLEX AND TILDEz CIRCUMFLEX BELOWz DIAERESISz DOT ABOVE
z DOT BELOWz DOUBLE GRAVEz FLOURISHz GRAVEz HOOK ABOVEz INVERTED BREVEz MACRONz MACRON AND ACUTE
z MACRON AND GRAVEz NOTCHz OGONEKz RETROFLEX HOOKz STROKEz TILDEz TILDE BELOWuGYPTOLOGICAL AIN
zLOGICAL ALEFuNGw WITH CROSSED-TAILzTH PALATAL HOOKuSHw WITH CURLzTH DOUBLE BAR
zTH DOUBLE BAR AND CURLzTH PALATAL HOOKzTH RETROFLEX HOOKuTvHuZHw REVERSEDxWITH CARONzTH CURL
zTH PALATAL HOOKzTH RETROFLEX HOOKzTH TAILtFu WITH DOT ABOVEz HOOKz MIDDLE TILDEz PALATAL HOOK
z STROKEuENG DIGRAPHzIGRAPH WITH TRILLtGu WITH ACUTEz BREVEz CARONz CEDILLAz CIRCUMFLEXz DOT ABOVE
z HOOKz MACRONz OBLIQUE STROKEz PALATAL HOOKz STROKEuAMMAuHAuLOTTAL AzL IzL STOPzL UtH
u WITH BREVE BELOWz CARONz CEDILLAz CIRCUMFLEXz DESCENDERz DIAERESISz DOT ABOVEz DOT BELOWz HOOK
z LINE BELOWz PALATAL HOOKz STROKEuALF HuENGx WITH HOOKuVtIu WITH ACUTEz BREVEz CARONz CIRCUMFLEX
z DIAERESISz DIAERESIS AND ACUTEz DOT BELOWz DOUBLE GRAVEz GRAVEz HOOK ABOVEz INVERTED BREVE
z MACRONz OGONEKz RETROFLEX HOOKz STROKEz STROKE AND RETROFLEX HOOKz TILDEz TILDE BELOWuNSULAR D
zR FzR GzR RzR SzR TvVERTED ALPHAzED OEuOTAx WITH STROKEwIFIED EuStJu WITH CARONz CIRCUMFLEX
z CROSSED-TAILz STROKEtKu WITH ACUTEz CARONz CEDILLAz DESCENDERz DIAGONAL STROKEz DOT BELOWz HOOK
z LINE BELOWz OBLIQUE STROKEz PALATAL HOOKz STROKEz STROKE AND DIAGONAL STROKEuRAtLu WITH ACUTE
z BARz BELTz BELT AND PALATAL HOOKz CARONz CEDILLAz CIRCUMFLEX BELOWz CURLz DOT BELOW
z DOT BELOW AND MACRONz DOUBLE BARz DOUBLE MIDDLE TILDEz FISHHOOKz HIGH STROKEz INVERTED LAZY S
z LINE BELOWz MIDDLE DOTz MIDDLE RINGz MIDDLE TILDEz PALATAL HOOKz RETROFLEX HOOK
z RETROFLEX HOOK AND BELTz STROKEuAMBDA WITH STROKEuENIS FvZHx WITH RETROFLEX HOOKuJuONG S
z WITH DIAGONAL STROKEz WITH DOT ABOVEz WITH HIGH STROKEuS DIGRAPHuUMuZ DIGRAPHtMu WITH ACUTE
z CROSSED-TAILz DOT ABOVEz DOT BELOWz HOOKz MIDDLE TILDEz PALATAL HOOKuIDDLE SCOTS Sz-WELSH LL
z-WELSH VuUMtNu PRECEDED BY APOSTROPHEvWITH ACUTEz CARONz CEDILLAz CIRCUMFLEX BELOWz CROSSED-TAIL
z CURLz DESCENDERz DOT ABOVEz DOT BELOWz GRAVEz LEFT HOOKz LINE BELOWz LONG RIGHT LEGz MIDDLE TILDE
z OBLIQUE STROKEz PALATAL HOOKz RETROFLEX HOOKz TILDEuJuUMtOu WITH ACUTEz BREVEz CARONz CIRCUMFLEX
z CIRCUMFLEX AND ACUTEz CIRCUMFLEX AND DOT BELOWz CIRCUMFLEX AND GRAVEz CIRCUMFLEX AND HOOK ABOVE
z CIRCUMFLEX AND TILDEz DIAERESISz DIAERESIS AND MACRONz DOT ABOVEz DOT ABOVE AND MACRONz DOT BELOW
z DOUBLE ACUTEz DOUBLE GRAVEz GRAVEz HOOK ABOVEz HORNz HORN AND ACUTEz HORN AND DOT BELOW
z HORN AND GRAVEz HORN AND HOOK ABOVEz HORN AND TILDEz INVERTED BREVEz LONG STROKE OVERLAYz LOOP
z LOW RING INSIDEz MACRONz MACRON AND ACUTEz MACRON AND GRAVEz OGONEKz OGONEK AND MACRON
z RETROFLEX HOOKz STROKEz STROKE AND ACUTEz TILDEz TILDE AND ACUTEz TILDE AND DIAERESIS
z TILDE AND MACRONuIuLD POLISH OuMEGAuOuPEN Ez WITH RETROFLEX HOOKyOz WITH RETROFLEX HOOK
z WITH STROKEzEuUtPu WITH ACUTEz DOT ABOVEz FLOURISHz HOOKz MIDDLE TILDEz PALATAL HOOK
z SQUIRREL TAILz STROKEz STROKE THROUGH DESCENDERuHItQu WITH DIAGONAL STROKEz HOOKz HOOK TAIL
z STROKE THROUGH DESCENDERuP DIGRAPHtRu ROTUNDAvWITH ACUTEz CARONz CEDILLAz CROSSED-TAILz DOT ABOVE
z DOT BELOWz DOT BELOW AND MACRONz DOUBLE GRAVEz FISHHOOKz FISHHOOK AND MIDDLE TILDE
z FISHHOOK AND PALATAL HOOKz INVERTED BREVEz LINE BELOWz LONG LEGz MIDDLE TILDEz OBLIQUE STROKE
z PALATAL HOOKz STROKEz TAILzOUT HANDLEuAMS HORNuEVERSED CzED C WITH DOTzED EzED ENGzED HALF HzED K
zED OPEN EzED OPEN E WITH HOOKzED OPEN E WITH RETROFLEX HOOKzED R WITH FISHHOOKzED SCRIPT GuUM
w ROTUNDAtSu WITH ACUTEz ACUTE AND DOT ABOVEz CARONz CARON AND DOT ABOVEz CEDILLAz CIRCUMFLEX
z COMMA BELOWz CURLz DOT ABOVEz DOT BELOWz DOT BELOW AND DOT ABOVEz HOOKz MIDDLE TILDE
z OBLIQUE STROKEz PALATAL HOOKz SHORT STROKE OVERLAYz SWASH TAILuAKHA YATvLTILLOuCHWAy WITH HOOK
zWITH RETROFLEX HOOKvRIPT Gz G WITH CROSSED-TAILz Rz R WITH RINGuHARP SuIDEWAYS DIAERESIZED UzYS O
zYS O WITH STROKEzYS OPEN OzYS TURNED MzYS UvGMOID SuQUAT REVERSED ESHuTIRRUP RtTu WITH CARON
z CEDILLAz CIRCUMFLEX BELOWz COMMA BELOWz CURLz DIAERESISz DIAGONAL STROKEz DOT ABOVEz DOT BELOW
z HOOKz HOOK AND RETROFLEX HOOKz LINE BELOWz MIDDLE TILDEz PALATAL HOOKz RETROFLEX HOOKz STROKE
uAILLESS PHIuC DIGRAPH WITH CURLuESH DIGRAPHzIGRAPH WITH PALATAL HOOKzIGRAPH WITH RETROFLEX HOOK
uH WITH STRIKETHROUGHvORNy WITH STROKEzWITH STROKE THROUGH DESCENDERuONE FIVEySIXyTWOvP HALF O
uRESILLOuS DIGRAPHzRAPH WITH RETROFLEX HOOKuUMvRNED Az AEz ALPHAz DELTAz Ez Gz Hz H WITH FISHHOOK
z H WITH FISHHOOK AND TAILz Iz INSULAR Gz Kz Lz Mz M WITH LONG LEGz O OPEN-Oz O OPEN-O WITH STROKE
z OEz OE WITH HORIZONTAL STROKEz OE WITH STROKEz OPEN Ez Rz R WITH HOOKz R WITH LONG LEG
z R WITH LONG LEG AND RETROFLEX HOOKz R WITH MIDDLE TILDEz R WITH PALATAL HOOKz R WITH TAILz T
z T WITH CURLz UIz Vz Wz Yz Y WITH BELTuZtUu BARy WITH SHORT RIGHT LEGvWITH ACUTEz BREVEz CARON
z CIRCUMFLEXz CIRCUMFLEX BELOWz DIAERESISz DIAERESIS AND ACUTEz DIAERESIS AND CARON
z DIAERESIS AND GRAVEz DIAERESIS AND MACRONz DIAERESIS BELOWz DOT BELOWz DOUBLE ACUTEz DOUBLE GRAVE
z GRAVEz HOOK ABOVEz HORNz HORN AND ACUTEz HORN AND DOT BELOWz HORN AND GRAVEz HORN AND HOOK ABOVE
z HORN AND TILDEz INVERTED BREVEz LEFT HOOKz MACRONz MACRON AND DIAERESISz OGONEKz RETROFLEX HOOK
z RING ABOVEz SHORT RIGHT LEGz STROKEz TILDEz TILDE AND ACUTEz TILDE BELOWuEuIuMuOuPSILON
zN WITH STROKEtVu WITH CURLz DIAGONAL STROKEz DOT BELOWz HOOKz PALATAL HOOKz RIGHT HOOKz TILDEuEND
uISIGOTHIC ZuOLAPUK AEzK OEzK UEuYtWu WITH ACUTEz CIRCUMFLEXz DIAERESISz DOT ABOVEz DOT BELOW
z GRAVEz HOOKz RING ABOVEtXu WITH DIAERESISz DOT ABOVEz LONG LEFT LEG
z LONG LEFT LEG AND LOW RIGHT RINGz LONG LEFT LEG WITH SERIFz LOW RIGHT RINGz PALATAL HOOKtY
u WITH ACUTEz CIRCUMFLEXz DIAERESISz DOT ABOVEz DOT BELOWz GRAVEz HOOKz HOOK ABOVEz LOOPz MACRON
z RING ABOVEz SHORT RIGHT LEGz STROKEz TILDEuOGHtZu WITH ACUTEz CARONz CIRCUMFLEXz CURLz DESCENDER
z DOT ABOVEz DOT BELOWz HOOKz LINE BELOWz MIDDLE TILDEz PALATAL HOOKz RETROFLEX HOOKz STROKE
z SWASH TAILnIGATURE FFxIxLwIwLvIJvLONG S TvOEvSThUBSCRIPT SMALL LETTER AzTER EzTER HzTER IzTER J
zTER KzTER LzTER MzTER NzTER OzTER PzTER RzTER SzTER SCHWAzTER TzTER UzTER VzTER X
bEAF FLUTTERING IN WINDeY GREENcDGERcFT AND LOWER AND RIGHT TRIANGULAR THREE QUARTERS BLOCK
pONE EIGHTH BLOCKjRIGHT DOUBLE TURNSTILEpTACKqRIANGULAR HALF BLOCK
jUPPER AND RIGHT TRIANGULAR THREE QUARTERS BLOCKpONE EIGHTH BLOCKhGER BUBBLEiLE BRACKETs WITH DOT
gRC LESS-THAN BRACKEThROW WITH CIRCLED PLUSqSMALL CIRCLEfBARB DOWN RIGHT BARB DOWN HARPOON
z UP HARPOONkUP RIGHT BARB DOWN HARPOONyUP HARPOONgLACK LENTICULAR BRACKETlTORTOISE SHELL BRACKET
fCEILINGgLOSED ENTRYgORNER BRACKETgURLY BRACKETs LOWER HOOKtMIDDLE PIECEtUPPER HOOK
fDOTTED SUBSTITUTION BRACKEThUBLE ANGLE BRACKETmPARENTHESISmQUOTATION MARKmWIGGLY FENCEfFISH TAIL
hVE EIGHTHS BLOCKgLOORfHALF BLACK CIRCLEqSTARmOCKkCIRCLEq WITH DOTwFOUR DOTSwTHREE DOTSxWO DOTS
kFOLDERkINVERSE MEDIUM SHADE AND RIGHT HALF BLOCKkMEDIUM SHADEkRUNNING MANhND TELEPHONE RECEIVER
fLOW PARAPHRASE BRACKETgUGGAGEfMULTIMAPfNORMAL FACTOR SEMIDIRECT PRODUCTfONE EIGHTH BLOCK
jQUARTER BLOCKgUTER JOINfPARENTHESISq EXTENSIONrLOWER HOOKrUPPER HOOKfRAISED OMISSION BRACKET
gIGHT ARROWq THROUGH SMALL CIRCLErWITH DOUBLE VERTICAL STROKEwSTROKEwVERTICAL STROKElBLACK ARROW
lDOUBLE ARROWx WITH STROKEzITH VERTICAL STROKElOPEN-HEADED ARROWlSANS-SERIF ARROW
lTRIANGLE-HEADED ARROWlWAVE ARROWmHITE ARROWfS-SHAPED BAG DELIMITERgEMIDIRECT PRODUCT
hVEN EIGHTHS BLOCKgIDEWAYS U BRACKEThNGLE QUOTATION MARKgPEECH BUBBLEgQUARE BRACKETt EXTENSION
uLOWER CORNERuUPPER CORNERuWITH DOUBLE STROKEzQUILLzSTROKEzTICK IN BOTTOM CORNERzTICK IN TOP CORNER
zUNDERBARgUBSTITUTION BRACKETfTACKgHIRD WHITE RIGHT POINTING INDEXhOUGHT BUBBLEhREE EIGHTHS BLOCK
lQUARTERS BLOCKgORTOISE SHELL BRACKETgRANSPOSITION BRACKEThIANGLE BESIDE VERTICAL BAR
lULAR ONE QUARTER BLOCKfVERTICAL BAR WITH QUILLpOX LINEfWHITE CORNER BRACKETmURLY BRACKET
lLENTICULAR BRACKETlPARENTHESISlSQUARE BRACKETlTORTOISE SHELL BRACKETgIGGLY FENCEgRITING HAND
e-FACING ARMENIAN ETERNITY SIGNmFISTmSVASTI SIGNx WITH DOTSfHANDED INTERLACED PENTAGRAM
fPOINTING ANGLE BRACKEToCURVED ANGLE BRACKEToDOUBLE ANGLE QUOTATION MARKoMAGNIFYING GLASS
fSHADED WHITE RIGHTWARDS ARROWgIDE ARC ANTICLOCKWISE ARROWfTO-RIGHT EMBEDDINGoISOLATEoMARKoOVERRIDE
eWARDS ARROWp ABOVE ALMOST EQUAL TOwREVERSE ALMOST EQUAL TOzERSE TILDE OPERATOR
wSHORT RIGHTWARDS ARROWwTILDE OPERATORrND UPPER AND LOWER ONE EIGHTH BLOCKqFROM BAR
y TO BLACK DIAMONDqOVER RIGHTWARDS ARROWqTHROUGH LESS-THANySUBSETyXrO BAR
w OVER RIGHTWARDS ARROW TO BARuLACK DIAMONDqWITH DOTTED STEMxUBLE VERTICAL STROKE
vEQUILATERAL ARROWHEADvHOOKvLARGE TRIANGLE ARROWHEADwOOPvMEDIUM TRIANGLE ARROWHEADvNOTCHED TAIL
vPLUS BELOWvSMALL EQUILATERAL ARROWHEADzL TRIANGLE ARROWHEADwTROKEvTAIL
z WITH DOUBLE VERTICAL STROKEz WITH VERTICAL STROKEwIP DOWNWARDSzUPWARDSvVERTICAL STROKEp-TAIL
kBACK-TILTED SHADOWED WHITE ARROWlLACK ARROWqCIRCLED WHITE ARROWlOTTOM-SHADED WHITE ARROW
kCOMPRESSED ARROWkDASHED ARROWlOUBLE ARROWw FROM BARxWITH STROKEzTH VERTICAL STROKEw-TAIL
rDASH ARROWkFINGER-POST ARROWlRONT-TILTED SHADOWED WHITE ARROWkHANDmRPOON OVER RIGHTWARDS HARPOON
sWITH BARB DOWN ABOVE RIGHTWARDS HARPOON WITH BARB DOWNzRB DOWN BELOW LONG DASHzRB DOWN FROM BAR
zRB DOWN TO BARzRB DOWNWARDSzRB UP ABOVE LEFTWARDS HARPOON WITH BARB DOWNzRB UP ABOVE LONG DASH
zRB UP ABOVE RIGHTWARDS HARPOON WITH BARB UPzRB UP FROM BARzRB UP TO BARzRB UPWARDSlEAVY ARROW
qCOMPRESSED ARROWkLEFT-SHADED WHITE ARROWkOPEN-HEADED ARROWkPAIRED ARROWSkQUADRUPLE ARROW
kRIGHT-SHADED WHITE ARROWlOCKETkSANS-SERIF ARROWlQUARED ARROWnIGGLE ARROWkTOP SHADED WHITE ARROW
lRIANGLE ARROWHEADs-HEADED ARROWz ARROW OVER RIGHTWARDS TRIANGLE-HEADED ARROWz ARROW TO BAR
z ARROW WITH BOLD SHAFTz ARROW WITH DOUBLE HORIZONTAL STROKEz ARROW WITH DOUBLE VERTICAL STROKE
z ARROW WITH HEAVY SHAFTz ARROW WITH LONG TIP DOWNWARDSz ARROW WITH LONG TIP UPWARDS
z ARROW WITH MEDIUM SHAFTz ARROW WITH NARROW SHAFTz ARROW WITH VERY HEAVY SHAFTz DASHED ARROW
z PAIRED ARROWSnPLE ARROWrDASH ARROWlWO HEADED ARROWn-HEADED ARROW FROM BAR
zW WITH DOUBLE VERTICAL STROKEzW WITH TAILzW WITH TAIL WITH DOUBLE VERTICAL STROKE
zW WITH TAIL WITH VERTICAL STROKEzW WITH TRIANGLE ARROWHEADSzW WITH VERTICAL STROKE
vTRIPLE DASH ARROWkWAVE ARROWlHITE ARROWv WITHIN TRIANGLE ARROWHEADcGcMONcOdPARD
cPCHA CONSONANT SIGN KxANGwLwMwNxYIN-DOwPwRwThDIGIT EIGHTnFIVEoOURnNINEnONEnSEVENoIXnTHREEoWOnZERO
hLETTER AoBApLAoCApHAoDApDApZAoFApLAoGApLAoHApLAoJAoKApHApLAoLAoMApLAoNApGApYAoPApHApLAoRAoSApHAoTA
pHApSAqHApTAqHAoVAoWAoYAhPUNCTUATION CER-WAtNYET THYOOM TA-ROLtTA-ROLuSHOOKz CER-WAhSIGN NUKTAmRAN
iUBJOINED LETTER RAyYAhVOWEL SIGN AAsEsIsOtOsUtUcSS-THAN ABOVE DOUBLE-LINE EQUAL ABOVE GREATER-THAN
qGREATER-THAN ABOVE DOUBLE-LINE EQUALqLEFTWARDS ARROWqSIMILAR ABOVE GREATER-THANyOR EQUAL
rLANTED EQUAL ABOVE GREATER-THAN ABOVE SLANTED EQUALlND NOT APPROXIMATEoSINGLE-LINE NOT EQUAL TO
kBUT NOT EQUAL TOvIVALENT TOkCLOSED BY CURVEz ABOVE SLANTED EQUALkEQUAL TO OR GREATER-THAN
kOR APPROXIMATEnEQUAL TOqIVALENT TOnGREATER-THANnSLANTED EQUAL TOzL TO WITH DOT ABOVE
zL TO WITH DOT ABOVE RIGHTzL TO WITH DOT INSIDElVER EQUAL TOkSIGNkWITH CIRCLE INSIDEpDOT
pQUESTION MARK ABOVEcVEL SLIDERbFbIBRAcGATURE OPEN ET ORNAMENTdHT CHECK MARKgEIGHT SPOKED ASTERISK
gFIVE POINTED BLACK STARlSPOKED ASTERISKhOUR POINTED BLACK CUSPzSTARgGREEK CROSS
gLEFT TORTOISE SHELL BRACKET ORNAMENTgRAILhIGHT TORTOISE SHELL BRACKET ORNAMENTgSALTIREhHADE
hIX SPOKED ASTERISKgTHREE POINTED BLACK STARhWELVE POINTED BLACK STARgVERTICAL BARgWHITE SQUARE
fNINGj MOODo BUBBLEcMBU DIGIT EIGHTmFIVEnOURmNINEmONEmSEVENnIXmTHREEnWOmZEROgEXCLAMATION MARK
gLETTER BAoHAnCAoHAnDAoHAnGAoHAoYANnHAnJAoHAnKAoHAnLAnMAnNAoGAnPAoHAnRAnSAoHAoSAnTAoHAoRAnWAnYApN
gQUESTION MARKgSIGN KEMPHRENGlLOOlMUKPHRENGlSA-IhMALL LETTER ANUSVARAtKAtLAtMAtNAuGAtPAtRAtTA
hUBJOINED LETTER RAxWAxYAgVOWEL SIGN AsIsUrEsErIrOsOrUl-CARRIER LETTERdITED LIABILITY SIGNcNE FEED
fINTEGRATION NOT INCLUDING THE POLErWITH RECTANGULAR PATH AROUND POLEwSEMICIRCULAR PATH AROUND POLE
fSEPARATORfTABULATIONp SETeAR A SIGN A028Bp100-102q20Bq31Cp301r2r3r4r5r6r7r8r9AsBsCq10r1r2r3AsBsCr4
r5r6r7r8r9q20r1r2r3r4r5r6r7r8r9q30r1r2r3r4r5r6r7r8r9q40r1r2r3r4r5r6r7r8r9q50r1r2r3r4r5r6r7r8r9q60r1
r2r3r4r5r6r7r8r9q70r1p400-VASr1-VASr2-VASr3-VASr4-VASr5-VASr6-VASr7-VASr8-VASr9-VASq10-VASr1-VAS
r2-VASr3-VASr4-VASr5-VASr6-VASr7-VASr8-VASp501r2r3r4r5r6r8r9q10r1r2r3r5r6q20r1r3r4r5r6r7r8r9q30r1r2
r4r5r6r7r8r9q40r1r2r5r7r8r9q50r1r2r3r4r5r6r7r9q63r4r5r6r8r9q70r1r2r3r4r5r6r7r8r9q80r1r2r3r4r5r6r7r8
r9q91r2r4r5r6r8p600r1r2r3r4r6r8r9q10r1r2r3r4r5r6r7r8r9q20r1r2r3r4r6r7r8r9q34r7r8q40r2r3r4r5r6r8r9
q51r2r3r4r5r6r7r8r9q60r1r2r3r4p701 Ar2 Br3 Dr4 Er5 Fr6 Hr7 Jr8 Kr9 Ls-2 L2t3 L3t4 L4t6 L6q10 Wr1 X
r2 Yr3 OMEGAr4 ABBr5 BBr7 DDq26 EYYYq32 JEp800r1r2r3r4r5r6r7pB001s2s3s4s5s6s7s8s9r10s1s3s6s7r20s1tF
tMs2tFtMs3tMs4s6s7s8s9r30s1s4s7s8s9r40s1s4s5s6s7s8s9r50s1s3s4s5s6s7s8s9r60s1s5s6s7s9r70s3s4s6s7s8s9
r80s1s2s5s6s7q118r20s2s3r31AtBr64r71r80s8r91hB IDEOGRAM B100 MANv2 WOMANv4 DEERv5 EQUIDwF MARE
wM STALLIONv6F EWEwM RAMv7F SHE-GOATwM HE-GOATv8F SOWwM BOARv9F COWwM BULLu20 WHEATv1 BARLEY
v2 OLIVEv3 SPICEv5 CYPERUSu30 OILv1 WINEv2u40 BRONZEv1 GOLDv2v5 WOOLv6u50v1 HORNv2v3v4v7v8v9 CLOTH
u60v1v2 GARMENTv3 ARMOURv4v5v6v7v8v9u70v1v2v3 MONTHv4v6 TREEv7v8v9u80v1v2v3v4v5v9u90v1 HELMET
t220 FOOTSTOOLv5 BATHTUBu30 SPEARv1 ARROWv2v3 SWORDv4v6u40 WHEELED CHARIOTv1 CHARIOT
v2 CHARIOT FRAMEv3 WHEELv5v6v8v9u51v2v3v4 DARTv5v6v7v8v9sVESSEL B155zB200zB201zB202zB203zB204zB205
zB206zB207zB208zB209zB210zB211zB212zB213zB214zB215zB216zB217zB218zB219zB221zB222zB226zB227zB228
zB229zB250zB305jMONOGRAM B127 KAPOv8 KANAKOu33 AREPAv5 MERIu56 TURO2t247 DIPTEjSYLLABLE B001 DA
v2 ROv3 PAv4 TEv5 TOv6 NAv7 DIv8 Av9 SEu10 Uv1 POv2 SOv3 MEv4 DOv5 MOv6 QAv7 ZAu20 ZOv1 QIv3 MU
v4 NEv5 A2v6 RUv7 REv8 Iv9 PU2u30 NIv1 SAv2 QOv3 RA3v6 JOv7 TIv8 Ev9 PIu40 WIv1 SIv2 WOv3 A3v4 KE
v5 DEv6 JEv8 NWAu50 PUv1 DUv2 NOv3 RIv4 WAv5 NUv7 JAv8 SUv9 TAu60 RAv1 Ov2 PTEv5 JUv6 TA2v7 KI
v8 RO2v9 TUu70 KOv1 DWEv2 PEv3 MIv4 ZEv5 WEv6 RA2v7 KAv8 QEu80 MAv1 KUv5 AUv7 TWEu90 DWOv1 TWO
lMBOL B018t9s22s34s47t9s56s63t4s79s82t3t6t9dK SYMBOLeED PAPERCLIPScON FACEcPSeTICKcRA SIGN
cSU LETTER AnEmBAmCAnHAmDAnZAmEnUmFAmGAnHAmHAnHAmImJAmKAnHAmLAmMAmNAnGAmOnEmPAnHAmSAnHAmTAnHA
nONE MYA BOvCYAvJEUvNAvTIrNA POnSAoHAmUnEnHmWAmXAmYAnHAmZAnHAfPUNCTUATION COMMArFULL STOP
cVRE TOURNOIS SIGNcZARDbLAMAbOBSTERcCKe WITH INK PENeING-SHIFT ONEoZEROcGICAL ANDl WITH DOT ABOVE
tUBLE OVERBARyUNDERBARrHORIZONTAL DASHrMIDDLE STEMrUNDERBARiORk OVERLAPPING LOGICAL AND
lWITH DOT ABOVEsUBLE OVERBARxUNDERBARqHORIZONTAL DASHqMIDDLE STEMcLLIPOP
cNG DASH FROM LEFT MEMBER OF DOUBLE VERTICALgIVISIONgRUMfLEFT RIGHT ARROWqDOUBLE ARROWkTACK
jWARDS ARROWu FROM BARpDOUBLE ARROWzOW FROM BARpSQUIGGLE ARROWfRIGHT TACKkWARDS ARROWv FROM BAR
qDOUBLE ARROWzROW FROM BARqSQUIGGLE ARROWcTION BOTTLEdUScUDLY CRYING FACEcVE HOTELfLETTER
cW ASTERISKeBATTERYfRIGHTNESS SYMBOLeDOUBLE PRIME QUOTATION MARKeKAVYKAk WITH DOTeLINE
dER BLADE SCISSORSgFIVE EIGHTHS BLOCKgHALF BLOCKlCIRCLElINVERSE WHITE CIRCLElMEDIUM SHADE
gLEFT BALLPOINT PENmLOCK DIAGONAL LOWER MIDDLE LEFT TO LOWER CENTRE
z LOWER MIDDLE LEFT TO LOWER RIGHTz UPPER CENTRE TO LOWER MIDDLE RIGHTz UPPER CENTRE TO LOWER RIGHT
z UPPER CENTRE TO UPPER MIDDLE RIGHTz UPPER LEFT TO LOWER CENTREz UPPER LEFT TO LOWER MIDDLE RIGHT
z UPPER LEFT TO UPPER MIDDLE RIGHTz UPPER MIDDLE LEFT TO LOWER CENTRE
z UPPER MIDDLE LEFT TO LOWER MIDDLE RIGHTz UPPER MIDDLE LEFT TO LOWER RIGHTlCRAYONlFOUNTAIN PEN
lPAINTBRUSHmENCILlQUADRANT CIRCULAR ARClSEMICIRCULAR ANTICLOCKWISE ARROWlTRIANGLErULAR MEDIUM SHADE
gONE EIGHTH BLOCKkQUARTER BLOCKgRIGHT BLOCK DIAGONAL LOWER CENTRE TO LOWER MIDDLE RIGHT
zL LOWER CENTRE TO UPPER MIDDLE RIGHTzL LOWER CENTRE TO UPPER RIGHT
zL LOWER LEFT TO LOWER MIDDLE RIGHTzL LOWER LEFT TO UPPER CENTREzL LOWER LEFT TO UPPER MIDDLE RIGHT
zL LOWER MIDDLE LEFT TO UPPER CENTREzL LOWER MIDDLE LEFT TO UPPER MIDDLE RIGHT
zL LOWER MIDDLE LEFT TO UPPER RIGHTzL UPPER MIDDLE LEFT TO UPPER CENTRE
zL UPPER MIDDLE LEFT TO UPPER RIGHTmCORNER WITH DOTmDROP-SHADOWED WHITE SQUAREmPENCIL
mQUADRANT CIRCULAR ARCmSEMICIRCULAR CLOCKWISE ARROWnHADOWED WHITE CIRCLEzE SQUAREmTRIANGLE
sULAR MEDIUM SHADEgSEVEN EIGHTHS BLOCKgTHREE EIGHTHS BLOCKmQUARTERS BLOCK
hRIANGULAR ONE QUARTER BLOCKcZENGEh DIVIDED BY HORIZONTAL RULEbREcIcMcObUGGAGEcNGSbYCIAN LETTER ApN
oBpHoDoEpNoGoHoIoJoKpKoLoMpMoNpNoPoQoRoSoTpHpToUoWoXoZcDIAN LETTER ApNoBoCoDoEpNoFoGoIoKoLpYoMoNpN
oOoQoRoSpSoTpToUoVoYhTRIANGULAR MARKcING FACEaMACRONcGEdIC WANDdNETcHAJANI ABBREVIATION SIGN
jLETTER AqBArHAqCArHAqDArDAsHArHAqEqGArHAqHAqIqJArHAqKArHAqLAqMAqNArNArYAqOqPArHAqRArRAqSAqTArHArTA
sHAqUqVAkIGATURE SHRIjSECTION MARKkIGN NUKTAdJONG TILE AUTUMNnBACKpMBOOnCHRYSANTHEMUMnEAST WIND
oIGHT OF BAMBOOSwCHARACTERSxIRCLESnFIVE OF BAMBOOSvCHARACTERSwIRCLESoOUR OF BAMBOOSvCHARACTERS
wIRCLESnGREEN DRAGONnJOKERnNINE OF BAMBOOSvCHARACTERSwIRCLESoORTH WINDnONE OF BAMBOOSuCHARACTERS
vIRCLESoRCHIDnPLUMnRED DRAGONnSEVEN OF BAMBOOSwCHARACTERSxIRCLESoIX OF BAMBOOSuCHARACTERSvIRCLES
oOUTH WINDoPRINGoUMMERnTHREE OF BAMBOOSwCHARACTERSxIRCLESoWO OF BAMBOOSuCHARACTERSvIRCLESnWEST WIND
oHITE DRAGONoINTERcKASAR ANGKAiEND OF SECTIONiLETTER ApBApCApDApGApJApKApLApMApNAqGAqYApPApRApSApTA
pVApYAiPASSIMBANGiVOWEL SIGN EtItOtUcLAYALAM AU LENGTH MARKkDATE MARKlIGIT EIGHTqFIVErOURqNINEqONE
qSEVENrIXqTHREErWOqZEROkFRACTION ONE EIGHTHxFIFTHyORTIETHxHALFxONE-HUNDRED-AND-SIXTIETHxQUARTER
xSIXTEENTHxTENTHyWENTIETHtTHREE EIGHTIETHSzQUARTERSzSIXTEENTHSzTWENTIETHSkLETTER AsAsIsRCHAIC IIsU
rBAsHArCAsHAtILLU KyLzLzLLyMyNzNyRRyYrDAsDAtHAsHAsOT REPHrEsErGAsHArHArIsIrJAsHArKAsHArLAsLAtLArMA
rNAsGAsNAtNAsYArOsOrPAsHArRAsRArSAsHAsSArTAsHAsTAtHAtTArUsUrVAsEDIC ANUSVARAsOCALIC LzLLzRzRRrYA
kNUMBER ONE HUNDREDvTHOUSANDrTENkSIGN ANUSVARAqVAGRAHApCANDRABINDUqIRCULAR VIRAMA
qOMBINING ANUSVARA ABOVEpPARApVERTICAL BAR VIRAMAqIRAMArSARGAkVOWEL SIGN AAwIwUvEwEvIwIvOwOvUwU
vVOCALIC LzLIC LLzLIC RzLIC RRdE AND FEMALE SIGNfSIGNfWITH STROKE AND MALE AND FEMALE SIGNrSIGN
dTESE CROSScMMOTHcNd AND WOMAN HOLDING HANDSeDANCINGeIN BUSINESS SUIT LEVITATINGhTUXEDO
eWITH GUA PI MAOjTURBANdAT SIGNdDAIC AFFRICATION MARKiGEMINATION MARKiLETTER ABqDqGqHqINqKrSAqLqMqN
qPqQqRqSrHrZqTrTqZpDUSHENNApHALQApINqTpKADpUSHENNAiPUNCTUATIONiVOCALIZATION MARKdGO
dICHAEAN ABBREVIATION MARK ABOVEzARK BELOWlLETTER AAYINtLEPHtYINsBETHtHETHsDALETHtHAMEDHsFEsGHIMEL
tIMELsHEuTHsJAYINtHAYINsKAPHtHAPHsLAMEDHsMEMsNUNsPEsQHOPHtOPHsRESHsSADHEuMEKHtHINtSHINsTAWtETH
tHAMEDHsWAWsXAPHtOPHsYODHsZAYINtHAYINlNUMBER FIVEsONEv HUNDREDsTENtWENTYlPUNCTUATION DOT
zT WITHIN DOTzUBLE DOT WITHIN DOTxFLEURONxLINE FILLERxSTARxTWO DOTSlSIGN UDdS SHOEdTELPIECE CLOCK
dUAL WHEELCHAIRcP SYMBOL FOR LIGHTHOUSEdLE LEAFcRCHEN HEAD MARKiLETTER -ApApBApCAqHApDAqZApGApHApJA
pKAqHApLApMApNAqGAqYApPAqHApRApSAqHApTAqHAqSArHApWApYApZAqHAiMARK SHADiSIGN ANUSVARAnCANDRABINDU
jUBJOINED LETTER AzBAzCAzCHAzDAzDZAzGAzHAzJAzKAzKHAzLAzMAzNAzNGAzNYAzPAzPHAzRAzSAzSHAzTAzTHAzTSA
zTSHAzWAzYAzZAzZHAiVOWEL SIGN AAtEtItOtUdRIAGE SYMBOLdTIAL ARTS UNIFORMcSARAM GONDI DIGIT EIGHT
uFIVEvOURuNINEuONEuSEVENvIXuTHREEvWOuZEROoLETTER AwAwIwUvBAwHAvCAwHAvDAwDAxHAwHAvEvGAwHAvHAvIwIvJA
wHAwNYAvKAwHAwSSAvLAwLAvMAvNAwGAwNAwYAvOvPAwHAvRAvSAwHAwSAvTAwHAwRAwTAxHAvUwUvVAvYAoRA-KARApEPHA
oSIGN ANUSVARAtCANDRAtHALANTAtNUKTAtVISARGAoVIRAMApOWEL SIGN AAzAIzAUzEzIzIIzOzUzUUzVOCALIC R
dCULINE ORDINAL INDICATORdK WORK SYMBOLdU MARKcTE DRINKdHEMATICAL BOLD CAPITAL Az ALPHAz Bz BETAz C
z CHIz Dz DELTAz DIGAMMAz Ez EPSILONz ETAz Fz Gz GAMMAz Hz Iz IOTAz Jz Kz KAPPAz Lz LAMDAz Mz MUz N
z NUz Oz OMEGAz OMICRONz Pz PHIz PIz PSIz Qz Rz RHOz Sz SIGMAz Tz TAUz THETAz THETA SYMBOLz U
z UPSILONz Vz Wz Xz XIz Yz Zz ZETAsDIGIT EIGHTyFIVEzOURyNINEyONEySEVENzIXyTHREEzWOyZERO
sEPSILON SYMBOLsFRAKTUR CAPITAL Az CAPITAL Bz CAPITAL Cz CAPITAL Dz CAPITAL Ez CAPITAL Fz CAPITAL G
z CAPITAL Hz CAPITAL Iz CAPITAL Jz CAPITAL Kz CAPITAL Lz CAPITAL Mz CAPITAL Nz CAPITAL Oz CAPITAL P
z CAPITAL Qz CAPITAL Rz CAPITAL Sz CAPITAL Tz CAPITAL Uz CAPITAL Vz CAPITAL Wz CAPITAL Xz CAPITAL Y
z CAPITAL Zz SMALL Az SMALL Bz SMALL Cz SMALL Dz SMALL Ez SMALL Fz SMALL Gz SMALL Hz SMALL I
z SMALL Jz SMALL Kz SMALL Lz SMALL Mz SMALL Nz SMALL Oz SMALL Pz SMALL Qz SMALL Rz SMALL Sz SMALL T
z SMALL Uz SMALL Vz SMALL Wz SMALL Xz SMALL Yz SMALL ZsITALIC CAPITAL AzCAPITAL ALPHAzCAPITAL B
zCAPITAL BETAzCAPITAL CzCAPITAL CHIzCAPITAL DzCAPITAL DELTAzCAPITAL EzCAPITAL EPSILONzCAPITAL ETA
zCAPITAL FzCAPITAL GzCAPITAL GAMMAzCAPITAL HzCAPITAL IzCAPITAL IOTAzCAPITAL JzCAPITAL K
zCAPITAL KAPPAzCAPITAL LzCAPITAL LAMDAzCAPITAL MzCAPITAL MUzCAPITAL NzCAPITAL NUzCAPITAL O
zCAPITAL OMEGAzCAPITAL OMICRONzCAPITAL PzCAPITAL PHIzCAPITAL PIzCAPITAL PSIzCAPITAL QzCAPITAL R
zCAPITAL RHOzCAPITAL SzCAPITAL SIGMAzCAPITAL TzCAPITAL TAUzCAPITAL THETAzCAPITAL THETA SYMBOL
zCAPITAL UzCAPITAL UPSILONzCAPITAL VzCAPITAL WzCAPITAL XzCAPITAL XIzCAPITAL YzCAPITAL Z
zCAPITAL ZETAzEPSILON SYMBOLzKAPPA SYMBOLzNABLAzPARTIAL DIFFERENTIALzPHI SYMBOLzPI SYMBOL
zRHO SYMBOLzSMALL AzSMALL ALPHAzSMALL BzSMALL BETAzSMALL CzSMALL CHIzSMALL DzSMALL DELTAzSMALL E
zSMALL EPSILONzSMALL ETAzSMALL FzSMALL FINAL SIGMAzSMALL GzSMALL GAMMAzSMALL HzSMALL IzSMALL IOTA
zSMALL JzSMALL KzSMALL KAPPAzSMALL LzSMALL LAMDAzSMALL MzSMALL MUzSMALL NzSMALL NUzSMALL O
zSMALL OMEGAzSMALL OMICRONzSMALL PzSMALL PHIzSMALL PIzSMALL PSIzSMALL QzSMALL RzSMALL RHOzSMALL S
zSMALL SIGMAzSMALL TzSMALL TAUzSMALL THETAzSMALL UzSMALL UPSILONzSMALL VzSMALL WzSMALL XzSMALL XI
zSMALL YzSMALL ZzSMALL ZETAzTHETA SYMBOLsKAPPA SYMBOLsNABLAsPARTIAL DIFFERENTIALtHI SYMBOLtI SYMBOL
sRHO SYMBOLsSCRIPT CAPITAL AzCAPITAL BzCAPITAL CzCAPITAL DzCAPITAL EzCAPITAL FzCAPITAL GzCAPITAL H
zCAPITAL IzCAPITAL JzCAPITAL KzCAPITAL LzCAPITAL MzCAPITAL NzCAPITAL OzCAPITAL PzCAPITAL Q
zCAPITAL RzCAPITAL SzCAPITAL TzCAPITAL UzCAPITAL VzCAPITAL WzCAPITAL XzCAPITAL YzCAPITAL ZzSMALL A
zSMALL BzSMALL CzSMALL DzSMALL EzSMALL FzSMALL GzSMALL HzSMALL IzSMALL JzSMALL KzSMALL LzSMALL M
zSMALL NzSMALL OzSMALL PzSMALL QzSMALL RzSMALL SzSMALL TzSMALL UzSMALL VzSMALL WzSMALL XzSMALL Y
zSMALL ZtMALL AzLPHAyBzETAyCzHIyDzELTAzIGAMMAyEzPSILONzTAyFzINAL SIGMAyGzAMMAyHyIzOTAyJyKzAPPAyL
zAMDAyMzUyNzUyOzMEGAzMICRONyPzHIzIzSIyQyRzHOySzIGMAyTzAUzHETAyUzPSILONyVyWyXzIyYyZzETAsTHETA SYMBOL
nDOUBLE-STRUCK CAPITAL AzK CAPITAL BzK CAPITAL DzK CAPITAL EzK CAPITAL FzK CAPITAL GzK CAPITAL I
zK CAPITAL JzK CAPITAL KzK CAPITAL LzK CAPITAL MzK CAPITAL OzK CAPITAL SzK CAPITAL TzK CAPITAL U
zK CAPITAL VzK CAPITAL WzK CAPITAL XzK CAPITAL YzK DIGIT EIGHTzK DIGIT FIVEzK DIGIT FOUR
zK DIGIT NINEzK DIGIT ONEzK DIGIT SEVENzK DIGIT SIXzK DIGIT THREEzK DIGIT TWOzK DIGIT ZERO
zK SMALL AzK SMALL BzK SMALL CzK SMALL DzK SMALL EzK SMALL FzK SMALL GzK SMALL HzK SMALL I
zK SMALL JzK SMALL KzK SMALL LzK SMALL MzK SMALL NzK SMALL OzK SMALL PzK SMALL QzK SMALL R
zK SMALL SzK SMALL TzK SMALL UzK SMALL VzK SMALL WzK SMALL XzK SMALL YzK SMALL ZnFALLING DIAGONAL
oRAKTUR CAPITAL AzTAL BzTAL DzTAL EzTAL FzTAL GzTAL JzTAL KzTAL LzTAL MzTAL NzTAL OzTAL PzTAL Q
zTAL SzTAL TzTAL UzTAL VzTAL WzTAL XzTAL YvSMALL AzL BzL CzL DzL EzL FzL GzL HzL IzL JzL KzL LzL M
zL NzL OzL PzL QzL RzL SzL TzL UzL VzL WzL XzL YzL ZnITALIC CAPITAL AzAL ALPHAzAL BzAL BETAzAL C
zAL CHIzAL DzAL DELTAzAL EzAL EPSILONzAL ETAzAL FzAL GzAL GAMMAzAL HzAL IzAL IOTAzAL JzAL K
zAL KAPPAzAL LzAL LAMDAzAL MzAL MUzAL NzAL NUzAL OzAL OMEGAzAL OMICRONzAL PzAL PHIzAL PIzAL PSI
zAL QzAL RzAL RHOzAL SzAL SIGMAzAL TzAL TAUzAL THETAzAL THETA SYMBOLzAL UzAL UPSILONzAL VzAL WzAL X
zAL XIzAL YzAL ZzAL ZETAuEPSILON SYMBOLuKAPPA SYMBOLuNABLAuPARTIAL DIFFERENTIALvHI SYMBOLvI SYMBOL
uRHO SYMBOLuSMALL Az ALPHAz Bz BETAz Cz CHIz Dz DELTAz DOTLESS Iz DOTLESS Jz Ez EPSILONz ETAz F
z FINAL SIGMAz Gz GAMMAz Iz IOTAz Jz Kz KAPPAz Lz LAMDAz Mz MUz Nz NUz Oz OMEGAz OMICRONz Pz PHI
z PIz PSIz Qz Rz RHOz Sz SIGMAz Tz TAUz THETAz Uz UPSILONz Vz Wz Xz XIz Yz Zz ZETAuTHETA SYMBOL
nLEFT ANGLE BRACKETsDOUBLE ANGLE BRACKETsFLATTENED PARENTHESISsWHITE SQUARE BRACKET
yTORTOISE SHELL BRACKETnMONOSPACE CAPITAL AzPITAL BzPITAL CzPITAL DzPITAL EzPITAL FzPITAL GzPITAL H
zPITAL IzPITAL JzPITAL KzPITAL LzPITAL MzPITAL NzPITAL OzPITAL PzPITAL QzPITAL RzPITAL SzPITAL T
zPITAL UzPITAL VzPITAL WzPITAL XzPITAL YzPITAL ZxDIGIT EIGHTzGIT FIVEzGIT FOURzGIT NINEzGIT ONE
zGIT SEVENzGIT SIXzGIT THREEzGIT TWOzGIT ZEROxSMALL AzALL BzALL CzALL DzALL EzALL FzALL GzALL H
zALL IzALL JzALL KzALL LzALL MzALL NzALL OzALL PzALL QzALL RzALL SzALL TzALL UzALL VzALL WzALL X
zALL YzALL ZnRIGHT ANGLE BRACKETtDOUBLE ANGLE BRACKETtFLATTENED PARENTHESIStWHITE SQUARE BRACKET
zTORTOISE SHELL BRACKETpSING DIAGONALnSANS-SERIF BOLD CAPITAL AzOLD CAPITAL ALPHAzOLD CAPITAL B
zOLD CAPITAL BETAzOLD CAPITAL CzOLD CAPITAL CHIzOLD CAPITAL DzOLD CAPITAL DELTAzOLD CAPITAL E
zOLD CAPITAL EPSILONzOLD CAPITAL ETAzOLD CAPITAL FzOLD CAPITAL GzOLD CAPITAL GAMMAzOLD CAPITAL H
zOLD CAPITAL IzOLD CAPITAL IOTAzOLD CAPITAL JzOLD CAPITAL KzOLD CAPITAL KAPPAzOLD CAPITAL L
zOLD CAPITAL LAMDAzOLD CAPITAL MzOLD CAPITAL MUzOLD CAPITAL NzOLD CAPITAL NUzOLD CAPITAL O
zOLD CAPITAL OMEGAzOLD CAPITAL OMICRONzOLD CAPITAL PzOLD CAPITAL PHIzOLD CAPITAL PIzOLD CAPITAL PSI
zOLD CAPITAL QzOLD CAPITAL RzOLD CAPITAL RHOzOLD CAPITAL SzOLD CAPITAL SIGMAzOLD CAPITAL T
zOLD CAPITAL TAUzOLD CAPITAL THETAzOLD CAPITAL THETA SYMBOLzOLD CAPITAL UzOLD CAPITAL UPSILON
zOLD CAPITAL VzOLD CAPITAL WzOLD CAPITAL XzOLD CAPITAL XIzOLD CAPITAL YzOLD CAPITAL Z
zOLD CAPITAL ZETAzOLD DIGIT EIGHTzOLD DIGIT FIVEzOLD DIGIT FOURzOLD DIGIT NINEzOLD DIGIT ONE
zOLD DIGIT SEVENzOLD DIGIT SIXzOLD DIGIT THREEzOLD DIGIT TWOzOLD DIGIT ZEROzOLD EPSILON SYMBOL
zOLD ITALIC CAPITAL AzOLD ITALIC CAPITAL ALPHAzOLD ITALIC CAPITAL BzOLD ITALIC CAPITAL BETA
zOLD ITALIC CAPITAL CzOLD ITALIC CAPITAL CHIzOLD ITALIC CAPITAL DzOLD ITALIC CAPITAL DELTA
zOLD ITALIC CAPITAL EzOLD ITALIC CAPITAL EPSILONzOLD ITALIC CAPITAL ETAzOLD ITALIC CAPITAL F
zOLD ITALIC CAPITAL GzOLD ITALIC CAPITAL GAMMAzOLD ITALIC CAPITAL HzOLD ITALIC CAPITAL I
zOLD ITALIC CAPITAL IOTAzOLD ITALIC CAPITAL JzOLD ITALIC CAPITAL KzOLD ITALIC CAPITAL KAPPA
zOLD ITALIC CAPITAL LzOLD ITALIC CAPITAL LAMDAzOLD ITALIC CAPITAL MzOLD ITALIC CAPITAL MU
zOLD ITALIC CAPITAL NzOLD ITALIC CAPITAL NUzOLD ITALIC CAPITAL OzOLD ITALIC CAPITAL OMEGA
zOLD ITALIC CAPITAL OMICRONzOLD ITALIC CAPITAL PzOLD ITALIC CAPITAL PHIzOLD ITALIC CAPITAL PI
zOLD ITALIC CAPITAL PSIzOLD ITALIC CAPITAL QzOLD ITALIC CAPITAL RzOLD ITALIC CAPITAL RHO
zOLD ITALIC CAPITAL SzOLD ITALIC CAPITAL SIGMAzOLD ITALIC CAPITAL TzOLD ITALIC CAPITAL TAU
zOLD ITALIC CAPITAL THETAzOLD ITALIC CAPITAL THETA SYMBOLzOLD ITALIC CAPITAL U
zOLD ITALIC CAPITAL UPSILONzOLD ITALIC CAPITAL VzOLD ITALIC CAPITAL WzOLD ITALIC CAPITAL X
zOLD ITALIC CAPITAL XIzOLD ITALIC CAPITAL YzOLD ITALIC CAPITAL ZzOLD ITALIC CAPITAL ZETA
zOLD ITALIC EPSILON SYMBOLzOLD ITALIC KAPPA SYMBOLzOLD ITALIC NABLAzOLD ITALIC PARTIAL DIFFERENTIAL
zOLD ITALIC PHI SYMBOLzOLD ITALIC PI SYMBOLzOLD ITALIC RHO SYMBOLzOLD ITALIC SMALL A
zOLD ITALIC SMALL ALPHAzOLD ITALIC SMALL BzOLD ITALIC SMALL BETAzOLD ITALIC SMALL C
zOLD ITALIC SMALL CHIzOLD ITALIC SMALL DzOLD ITALIC SMALL DELTAzOLD ITALIC SMALL E
zOLD ITALIC SMALL EPSILONzOLD ITALIC SMALL ETAzOLD ITALIC SMALL FzOLD ITALIC SMALL FINAL SIGMA
zOLD ITALIC SMALL GzOLD ITALIC SMALL GAMMAzOLD ITALIC SMALL HzOLD ITALIC SMALL I
zOLD ITALIC SMALL IOTAzOLD ITALIC SMALL JzOLD ITALIC SMALL KzOLD ITALIC SMALL KAPPA
zOLD ITALIC SMALL LzOLD ITALIC SMALL LAMDAzOLD ITALIC SMALL MzOLD ITALIC SMALL MU
zOLD ITALIC SMALL NzOLD ITALIC SMALL NUzOLD ITALIC SMALL OzOLD ITALIC SMALL OMEGA
zOLD ITALIC SMALL OMICRONzOLD ITALIC SMALL PzOLD ITALIC SMALL PHIzOLD ITALIC SMALL PI
zOLD ITALIC SMALL PSIzOLD ITALIC SMALL QzOLD ITALIC SMALL RzOLD ITALIC SMALL RHOzOLD ITALIC SMALL S
zOLD ITALIC SMALL SIGMAzOLD ITALIC SMALL TzOLD ITALIC SMALL TAUzOLD ITALIC SMALL THETA
zOLD ITALIC SMALL UzOLD ITALIC SMALL UPSILONzOLD ITALIC SMALL VzOLD ITALIC SMALL W
zOLD ITALIC SMALL XzOLD ITALIC SMALL XIzOLD ITALIC SMALL YzOLD ITALIC SMALL ZzOLD ITALIC SMALL ZETA
zOLD ITALIC THETA SYMBOLzOLD KAPPA SYMBOLzOLD NABLAzOLD PARTIAL DIFFERENTIALzOLD PHI SYMBOL
zOLD PI SYMBOLzOLD RHO SYMBOLzOLD SMALL AzOLD SMALL ALPHAzOLD SMALL BzOLD SMALL BETAzOLD SMALL C
zOLD SMALL CHIzOLD SMALL DzOLD SMALL DELTAzOLD SMALL EzOLD SMALL EPSILONzOLD SMALL ETAzOLD SMALL F
zOLD SMALL FINAL SIGMAzOLD SMALL GzOLD SMALL GAMMAzOLD SMALL HzOLD SMALL IzOLD SMALL IOTA
zOLD SMALL JzOLD SMALL KzOLD SMALL KAPPAzOLD SMALL LzOLD SMALL LAMDAzOLD SMALL MzOLD SMALL MU
zOLD SMALL NzOLD SMALL NUzOLD SMALL OzOLD SMALL OMEGAzOLD SMALL OMICRONzOLD SMALL PzOLD SMALL PHI
zOLD SMALL PIzOLD SMALL PSIzOLD SMALL QzOLD SMALL RzOLD SMALL RHOzOLD SMALL SzOLD SMALL SIGMA
zOLD SMALL TzOLD SMALL TAUzOLD SMALL THETAzOLD SMALL UzOLD SMALL UPSILONzOLD SMALL VzOLD SMALL W
zOLD SMALL XzOLD SMALL XIzOLD SMALL YzOLD SMALL ZzOLD SMALL ZETAzOLD THETA SYMBOLyCAPITAL A
zAPITAL BzAPITAL CzAPITAL DzAPITAL EzAPITAL FzAPITAL GzAPITAL HzAPITAL IzAPITAL JzAPITAL KzAPITAL L
zAPITAL MzAPITAL NzAPITAL OzAPITAL PzAPITAL QzAPITAL RzAPITAL SzAPITAL TzAPITAL UzAPITAL VzAPITAL W
zAPITAL XzAPITAL YzAPITAL ZyDIGIT EIGHTzIGIT FIVEzIGIT FOURzIGIT NINEzIGIT ONEzIGIT SEVENzIGIT SIX
zIGIT THREEzIGIT TWOzIGIT ZEROyITALIC CAPITAL AzTALIC CAPITAL BzTALIC CAPITAL CzTALIC CAPITAL D
zTALIC CAPITAL EzTALIC CAPITAL FzTALIC CAPITAL GzTALIC CAPITAL HzTALIC CAPITAL IzTALIC CAPITAL J
zTALIC CAPITAL KzTALIC CAPITAL LzTALIC CAPITAL MzTALIC CAPITAL NzTALIC CAPITAL OzTALIC CAPITAL P
zTALIC CAPITAL QzTALIC CAPITAL RzTALIC CAPITAL SzTALIC CAPITAL TzTALIC CAPITAL UzTALIC CAPITAL V
zTALIC CAPITAL WzTALIC CAPITAL XzTALIC CAPITAL YzTALIC CAPITAL ZzTALIC SMALL AzTALIC SMALL B
zTALIC SMALL CzTALIC SMALL DzTALIC SMALL EzTALIC SMALL FzTALIC SMALL GzTALIC SMALL HzTALIC SMALL I
zTALIC SMALL JzTALIC SMALL KzTALIC SMALL LzTALIC SMALL MzTALIC SMALL NzTALIC SMALL OzTALIC SMALL P
zTALIC SMALL QzTALIC SMALL RzTALIC SMALL SzTALIC SMALL TzTALIC SMALL UzTALIC SMALL VzTALIC SMALL W
zTALIC SMALL XzTALIC SMALL YzTALIC SMALL ZySMALL AzMALL BzMALL CzMALL DzMALL EzMALL FzMALL GzMALL H
zMALL IzMALL JzMALL KzMALL LzMALL MzMALL NzMALL OzMALL PzMALL QzMALL RzMALL SzMALL TzMALL UzMALL V
zMALL WzMALL XzMALL YzMALL ZoCRIPT CAPITAL AzAL CzAL DzAL GzAL JzAL KzAL NzAL OzAL PzAL QzAL SzAL T
zAL UzAL VzAL WzAL XzAL YzAL ZuSMALL Az Bz Cz Dz Fz Hz Iz Jz Kz Lz Mz Nz Pz Qz Rz Sz Tz Uz Vz Wz X
z Yz ZcXIMIZEcYAN NUMERAL EIGHTtEENpLEVENoFIFTEENqVEpOURsTEENoNINEsTEENoONEoSEVENtTEENpIXrTEENoTEN
pHIRTEENqREEpWELVEqOoZERObEASURED ANGLEo OPENING LEFT
pWITH OPEN ARM ENDING IN ARROW POINTING DOWN AND LEFTzARM ENDING IN ARROW POINTING DOWN AND RIGHT
zARM ENDING IN ARROW POINTING LEFT AND DOWNzARM ENDING IN ARROW POINTING LEFT AND UP
zARM ENDING IN ARROW POINTING RIGHT AND DOWNzARM ENDING IN ARROW POINTING RIGHT AND UP
zARM ENDING IN ARROW POINTING UP AND LEFTzARM ENDING IN ARROW POINTING UP AND RIGHTjBY
jRIGHT ANGLE WITH DOTdT ON BONEcCHANICAL ARMlLEGcDEFAIDRIN CAPITAL LETTER AzR AIzR ATIUzR BzR CzR D
zR EzR FzR GzR HzR HPzR IzR JzR KzR KPzR LzR MzR NzR NGzR NYzR OzR OEzR PzR QzR RzR SzR TzR UzR V
zR WzR XzR YzR YUzR ZnOMMAmDIGIT EIGHTsFIVEtOURsNINEsONEv ALTERNATE FORMsSEVENtIXsTHREE
x ALTERNATE FORMtWOv ALTERNATE FORMsZEROmEXCLAMATION OHmFULL STOPmNUMBER EIGHTEENuLEVENtFIFTEEN
uOURTEENtNINETEENtSEVENTEENuIXTEENtTENuHIRTEENuWELVEmSMALL LETTER AzAIzATIUzBzCzDzEzFzGzHzHPzIzJzK
zKPzLzMzNzNGzNYzOzOEzPzQzRzSzTzUzVzWzXzYzYUzZnYMBOL AIVAdIEVAL COMMAjEXCLAMATION MARKjQUESTION MARK
eUM BLACK CIRCLEiOLD WHITE CIRCLEhEIGHT POINTED BLACK STARnSPOKED ASTERISKhFIVE SPOKED ASTERISK
iLATTENED LEFT PARENTHESIS ORNAMENTrRIGHT PARENTHESIS ORNAMENTiOUR POINTED BLACK STARuPINWHEEL STAR
hGREEK CROSShLEFT CURLY BRACKET ORNAMENTmPARENTHESIS ORNAMENTl-POINTING ANGLE BRACKET ORNAMENT
hMATHEMATICAL SPACEhRIGHT CURLY BRACKET ORNAMENTnPARENTHESIS ORNAMENT
m-POINTING ANGLE BRACKET ORNAMENThSALTIREiHADEiIX POINTED BLACK STARlSPOKED ASTERISK
iMALL WHITE CIRCLEhTHREE POINTED BLACK STARvPINWHEEL STARhVERTICAL BARhWHITE CIRCLEnSQUARE
cETEI MAYEK AHANG KHUDAMoNJIoPUN IYEKnCHEIKHANtEInDIGIT EIGHTtFIVEuOURtNINEtONEtSEVENuIXtTHREEuWO
tZEROnLETTER ATIYAuBAvHAMuCHAwILuDDAwHAvHOUvILuEuGHOUvOKuHUKuIv LONSUMuJHAMvILuKHOUvOKx LONSUMuLAI
x LONSUMuMITx LONSUMuNAw LONSUMvGOUy LONSUMvNAvYAuOuPAw LONSUMvHAMuRAIuSAMvHAvSAuTHOUvILx LONSUMvTA
wHAuUNuWAIuYANGoUM IYEKnSYLLABLE REPETITION MARKnVIRAMAoOWEL SIGN AAIzAUzNAPzUyCHEINAPyIIzNAPyNUNG
yONAPySOUNAPyUNAPzUyVISARGAyYENAPnWORD REPETITION MARKcLONdTING FACEcMO
cNDE KIKAKUI COMBINING NUMBER HUNDRED THOUSANDSzUMBER HUNDREDSzUMBER MILLIONSzUMBER TEENS
zUMBER TEN THOUSANDSzUMBER TENSzUMBER THOUSANDSoDIGIT EIGHTuFIVEvOURuNINEuONEuSEVENvIXuTHREEvWO
oSYLLABLE M001 KIz02 KAz03 KUz04 WIz05 WAz06 WUz07 MINz08 MANz09 MUNz10 BIz11 BAz12 BUz13 Iz14 A
z15 Uz16 DIz17 DAz18 DUz19 SIz20 SAz21 SUz22 TIz23 TAz24 TUz25 LIz26 LAz27 LUz28 JIz29 JAz30 JU
z31 YIz32 YAz33 YUz34 FIz35 FAz36 FUz37 NINz38 NANz39 NUNz40 HEEz41 HAz42 HOOz43 NGGAz44 KPEEz45 WO
z46 HUANz47 MBEEz48 KOz49 WVAz50 PUz51 PEz52 HENz53 HINz54 LOOz55 TEz56 GBAz57 NGONz58 NYANz59 MEN
z60 NYONz61 WVIz62 MBAz63 JOz64 NDOz65 KEEz66 POz67 NDOOz68 PIz69 TOz70 GBOz71 GBOOz72 MBEz73 LE
z74 KPUz75 FEz76 KOOz77 VOz78 FEEz79 SOz80 YEz81 PEEz82 NGGUz83 HEEIz84 LEEz85 VEz86 LONG NGGE
z87 HUNz88 FOz89 DEEz90 NGGIz91 TEEz92 KPAz93 GBEEz94 MONz95 KEz96 HEz97 BEz98 NYENz99 PAy100 E
z01 FANz02 POOz03 BOOz04 TOOz05 LONG MBOOz06 LONG NGGOOz07 GBEz08 KPEz09 YEEz10 LONG LEz11 GA
z12 KPOOz13 JEz14 WOOz15 NGGEEz16 SEz17 NENz18 WEz19 NDEz20 NGGOz21 YOz22 MBUz23 NDIz24 GBIz25 NDU
z26 WEEz27 NGGUAz28 HOOUz29 NDAz30 HANz31 INz32 KPIz33 FOOz34 NJOOz35 INz36 SOOz37 EIz38 BOz39 WVE
z40 HOz41 YOOz42 LONG MBOz43 WEIz44 VOOz45 MBIz46 NGGEz47 Oz48 GBUz49 NJEEz50 BEEz51 VUz52 NJA
z53 LOz54 MUANz55 GIz56 NGGOOz57 JEEz58 KPOz59 NGGAAz60 JOOz61 LONG MBEz62 SEEz63 EEz64 NYINz65 OO
z66 GUEIz67 GUANz68 GUz69 NONz70 NYUNz71 RAz72 MBOOz73 VEEz74 MBOz75 LONG JOz76 HIz77 NGUANz78 EN
z79 KUAz80 DOOz81 DOz82 VIz83 LONG NGGOz84 NGENz85 VAz86 HUz87 MBUUz88 MBEEz89 MUENz90 GEEz91 NDEE
z92 NJUz93 HONz94 WUIz95 ANz96 SIAz97 FUAdORAH WITH NINE BRANCHESdS SYMBOLcRCURY
dOITIC CURSIVE FRACTION EIGHT TWELFTHSz ELEVEN TWELFTHSz FIVE TWELFTHSz FOUR TWELFTHS
z NINE TWELFTHSz ONE HALFz ONE TWELFTHz SEVEN TWELFTHSz SIX TWELFTHSz TEN TWELFTHSz THREE TWELFTHS
z TWO TWELFTHSrLETTER AzRCHAIC SAyBAyDAyEyHHAyIyKAzHAyLAyMAyNAzEyOyPAyQAyRAySAzEyTAzEzOyWAyYA
sOGOGRAM IMNz RMTrNUMBER EIGHTzIGHT HUNDREDzIGHT HUNDRED THOUSANDzIGHT THOUSANDzIGHTY THOUSAND
yFIFTYzIFTY THOUSANDzIVEzIVE HUNDREDzIVE HUNDRED THOUSANDzIVE THOUSANDzORTYzORTY THOUSANDzOUR
zOUR HUNDREDzOUR HUNDRED THOUSANDzOUR THOUSANDyNINEzINE HUNDREDzINE HUNDRED THOUSANDzINE THOUSAND
zINETY THOUSANDyONEzNE HUNDREDzNE HUNDRED THOUSANDzNE THOUSANDySEVENzEVEN HUNDRED
zEVEN HUNDRED THOUSANDzEVEN THOUSANDzEVENTYzEVENTY THOUSANDzIXzIX HUNDREDzIX HUNDRED THOUSAND
zIX THOUSANDzIXTYzIXTY THOUSANDyTENzEN THOUSANDzHIRTYzHIRTY THOUSANDzHREEzHREE HUNDRED
zHREE HUNDRED THOUSANDzHREE THOUSANDzWENTYzWENTY THOUSANDzWOzWO HUNDREDzWO HUNDRED THOUSAND
zWO THOUSANDjHIEROGLYPHIC LETTER AzTER BAzTER BA-2zTER DAzTER EzTER HHAzTER IzTER KAzTER KHAzTER LA
zTER MAzTER NAzTER NA-2zTER NEzTER NE-2zTER OzTER PAzTER QAzTER RAzTER RA-2zTER SAzTER SA-2zTER SE
zTER TAzTER TA-2zTER TEzTER TE-2zTER TOzTER WAzTER YAwSYMBOL VIDJzBOL VIDJ-2dPERSONcSSAGE WAITING
cTRICAL BREVEjLONG OVER SHORTtTWO SHORTSjPENTASEMEjSHORT OVER LONGjTETRASEMEkRISEME
kWO SHORTS JOINEDuOVER LONGeObIAO LETTER AHnRCHAIC MAuNAvGAuZZAmBAnRImDAnDAnLHApYAnZAoHAoYIoZAmFA
mGAnHAoHAmHAnHAmKAmLAnHAoYAnYAmMAnHAmNAoSALIZATIONnGAoHAnHAnNAoHAnYAoHAmPAnLAmQAnGAmREFORMED TONE-1
z-2z-4z-5z-6z-8wSHAnTEmSAnHAnSAnYImTAnEnLHApYAnONE-2r3r4r5r6r7r8nSAoEoHAoSAnTAmVAnFAmWAmXAmYI DZHA
pKApNNApPApTAqSArHAqTAmZAnHAnSAoHAnZAoSApYAoYAfSIGN ASPIRATIONkCONSONANT MODIFIER BAR
kREFORMED ASPIRATIONtVOICINGfTONE ABOVEkBELOWkRIGHTkTOP RIGHTfVOWEL SIGN ArArEsErHHrIrNsGrUqErArIrN
sGrRsRqIrAsNtGrErGrIrNGrOsNGrUqNrGqOrERsYrGrOrUqROUNDED ERzRRqUrAsNtGrEIrIrNGrOGrUqVWqWrOqYrIrUI
cCR DASH SYMBOLfON US SYMBOLeO SIGNfBEfPHONEfSCOPEcDDLE DOThTHIRD WHITE RIGHT POINTING INDEX
dLINE HORIZONTAL ELLIPSIScLITARY HELMETjMEDALdKY WAYdL SIGNcNIBUSeDISCeMIZEdUS SIGNk IN TRIANGLE
lWITH COMMA ABOVEqDOT BELOWqFALLING DOTSqRISING DOTSgTILDEf-OR-PLUS SIGNdYcRRORg BALLbMSP
bOBILE PHONEm OFFnWITH RIGHTWARDS ARROW AT LEFTcDELSeRN PENTATHLONdI ABBREVIATION SIGNfDANDA
gIGIT EIGHTlFIVEmOURlNINElONElSEVENmIXlTHREEmWOlZEROgOUBLE DANDAfLETTER AnAnInUmBAnHAmCAnHAmDAnDA
oHAnHAmEmGAnHAmHAmInImJAnHAmKAnHAmLAnLAmMAmNAnGAnNAnYAmOmPAnHAmRAmSAnHAnSAmTAnHAnTAoHAmUnUmVA
nOCALIC LvLuRvRmYAfSIGN ANUSVARAlRDHACANDRAkHUVAkVIRAMAmSARGAfVOWEL SIGN AArIrUqEqIrIqOqUrU
qVOCALIC LzLyRzReFIER BREVE WITH INVERTED BREVEjLETTER ACUTE ACCENTrLVEOLAR CLICKrPOSTROPHE
qBEGIN HIGH TONEwLOW TONErILABIAL CLICKqCAPITAL AzEyBzARRED ByCyDyEyFyGyHz WITH STROKEyIyJyKyLyMyN
yOzUyPyQyRzEVERSED EzEVERSED NyTyUyVyWrENTRED LEFT HALF RINGyRIGHT HALF RINGrHINESE TONE YANG PING
zONE YANG QUzONE YANG RUzONE YANG SHANGzONE YIN PINGzONE YIN QUzONE YIN RUzONE YIN SHANG
rIRCUMFLEX ACCENTrOLONrROSS ACCENTrYRILLIC ENzHARD SIGNzSOFT SIGNqDENTAL CLICKrOT HORIZONTAL BAR
uSLASHuVERTICAL BARsUBLE APOSTROPHExPRIMEsWN ARROWHEADvTACKqEND HIGH TONEuLOW TONE
rXTRA-HIGH DOTTED LEFT-STEM TONE BARzH DOTTED TONE BARzH LEFT-STEM TONE BARzH TONE BAR
wLOW DOTTED LEFT-STEM TONE BARz DOTTED TONE BARz LEFT-STEM TONE BARz TONE BARqGEORGIAN NAR
rLOTTAL STOPzTOP WITH STROKErRAVE ACCENTqHALF TRIANGULAR COLONrIGH DOTTED LEFT-STEM TONE BAR
zED TONE BARvLEFT-STEM TONE BARvTONE BARqLATERAL CLICKrEFT ARROWHEADvHALF RINGvTACKrOW ACUTE ACCENT
uCIRCUMFLEX ACCENTuDOTTED LEFT-STEM TONE BARzD TONE BARwWN ARROWHEADuGRAVE ACCENT
uINVERTED EXCLAMATION MARKuLEFT ARROWzARROWHEADy-STEM TONE BARuMACRONuRIGHT ARROWHEADwNGuTILDE
vONE BARuUP ARROWHEADuVERTICAL LINEtER RIGHT CORNER ANGLEqMACRONrID DOTTED LEFT-STEM TONE BAR
zD TONE BARuLEFT-STEM TONE BARuTONE BARtDLE DOUBLE ACUTE ACCENTzUBLE GRAVE ACCENTxGRAVE ACCENT
sNUS SIGNqOPEN SHELFqPLUS SIGNrRIMEqRAISED COLONxDOWN ARROWxEXCLAMATION MARK
xINVERTED EXCLAMATION MARKxUP ARROWrETROFLEX CLICK WITH RETROFLEX HOOKsVERSED COMMAzGLOTTAL STOP
zGLOTTAL STOP WITH STROKErHOTIC HOOKrIGHT ARROWHEADwHALF RINGwTACKqSHELFsORT EQUALS SIGNrMALL AxE
xINxLPHAwBx WITH HOOKxARRED OxETAxOTTOM HALF OwCx WITH CURLxAPITAL AAzITAL BzITAL G
zITAL G WITH HOOKzITAL HzITAL IzITAL I WITH STROKEzITAL INVERTED RzITAL LzITAL L WITH BELTzITAL N
zITAL OEzITAL RzITAL UzITAL YxHIxLOSED OMEGAzSED REVERSED OPEN EwDx WITH HOOKzITH HOOK AND TAIL
zITH TAILxELTAyZH DIGRAPHxOTLESS J WITH STROKEzLESS J WITH STROKE AND HOOKxZ DIGRAPH
zDIGRAPH WITH CURLzDIGRAPH WITH RETROFLEX HOOKwExNGxSHxTHxZHwFxENG DIGRAPHwGx WITH HOOKxAMMA
xREEK GAMMAzEK PHIwHx WITH HOOKzITH STROKExENGzG WITH HOOKwI WITH STROKExOTAwJx WITH CROSSED-TAILwK
wLx WITH BELTzITH INVERTED LAZY SzITH MIDDLE TILDEzITH PALATAL HOOKzITH RETROFLEX HOOK
zITH RETROFLEX HOOK AND BELTxEZHzH WITH RETROFLEX HOOKxIGATURE OExS DIGRAPHxZ DIGRAPHwMx WITH HOOK
wN WITH LEFT HOOKzITH RETROFLEX HOOKwOx WITH STROKExPEN EzN OwPxHIwQwRx WITH FISHHOOKzITH TAIL
xAMS HORNxEVERSED EzERSED GLOTTAL STOPzERSED OPEN EwSx WITH CURLzITH HOOKxCHWAyRIPT GxIDEWAYS UwT
x WITH PALATAL HOOKzITH RETROFLEX HOOKxC DIGRAPH WITH CURLxESH DIGRAPHxHETAxOP HALF OxS DIGRAPH
zDIGRAPH WITH RETROFLEX HOOKxURNED AzNED AEzNED ALPHAzNED HzNED IzNED MzNED M WITH LONG LEG
zNED OPEN EzNED RzNED R WITH HOOKzNED R WITH LONG LEGzNED R WITH LONG LEG AND RETROFLEX HOOKzNED V
zNED WzNED YzNED Y WITH BELTwUx BARyWITH LEFT HOOKxPSILONwVx WITH HOOKzITH RIGHT HOOKwWwXwYwZ
x WITH CURLzITH RETROFLEX HOOKrTRESS AND HIGH TONEzD LOW TONErUPERSCRIPT HALF TRIANGULAR COLON
zPT TRIANGULAR COLONqTRIANGULAR COLONrURNED COMMAqUNASPIRATEDrP ARROWHEADtTACKrSqVERTICAL LINE
rOICINGqYANG DEPARTING TONE MARKrIN DEPARTING TONE MARKdULO TWO SUMcNEY BAGgWITH WINGSf-MOUTH FACE
dGOLIAN BIRGAp WITH DOUBLE ORNAMENTvORNAMENTkCOLONmMMAkDIGIT EIGHTqFIVErOURqNINEqONEqSEVENrIXqTHREE
rWOqZEROlOUBLE BIRGA WITH ORNAMENTkELLIPSISkFOUR DOTSlREE VARIATION SELECTOR FOURzSELECTOR ONE
zSELECTOR THREEzSELECTOR TWOlULL STOPkINVERTED BIRGAy WITH DOUBLE ORNAMENTkLETTER AsLI GALI Az AH
z ANUSVARA ONEz BALUDAz CAz DAz DAGALGAz DAMARUz DDAz HALF Uz HALF YAz Iz INVERTED UBADAMAz KAz NGA
z NNAz PAz PHAz SSAz TAz THREE BALUDAz TTAz TTHAz UBADAMAz VISARGA ONEz ZAz ZHAsNGrBArCHA
u WITH TWO DOTStIrDArEsErFArGArHAArIrJArKAsHArLAsHArMAtNCHU ALI GALI BHAzLI GALI CAzLI GALI CYA
zLI GALI DDHAzLI GALI DHAzLI GALI GHAzLI GALI JHAzLI GALI LHAzLI GALI NGAzLI GALI SSAzLI GALI TA
zLI GALI TTAzLI GALI ZAzLI GALI ZHAyFAyIyKAyRAyZHArNArOsErPArQArRArSAsHAsIBE ANGwCHAwDAwEwFAwGAyA
wHAyAwIxYwJAwKAwPAwRAAwSHAwTAxSAwUxEwZAxHArTAsODO ALI GALI TAz GALI ZHAxNGwBAwCHAwDAxZAwEwGAyAwHAA
wIwJAxIAwKAwLONG VOWEL SIGNwMAwNIAwOxEwPAwQAwTAxSAwUxEwWAwYAsSArUsErWArYArZAsHIsRAkMANCHU COMMA
rFULL STOPkNIRUGUkROTATED BIRGAx WITH DOUBLE ORNAMENTzITH ORNAMENTkSIBE SYLLABLE BOUNDARY MARKER
lWIRL BIRGAv WITH DOUBLE ORNAMENTzH ORNAMENTkTODO SOFT HYPHENlRIPLE BIRGA WITH ORNAMENT
lURNED SWIRL BIRGA WITH DOUBLE ORNAMENTkVOWEL SEPARATORdKEYg FACEdOGRAM FOR EARTHnYANGoINeRAIL
eSTABLE SYMBOLcOD BUBBLEdN CAKEfVIEWING CEREMONYcSQUEfITOcTHER CHRISTMASdOR BOATgSCOOTER
fIZED WHEELCHAIRfWAYcUNT FUJIfAINi BICYCLISTjCABLEWAYjRAILWAYdSEf FACEgTRAPdTHcVIE CAMERAcYAI
bRO DANDAfIGIT EIGHTkFIVElOURkNINEkONEkSEVENlIXkTHREElWOkZEROfOUBLE DANDAeLETTER AlBAlCHUlDAnIlEmA
lHAInOlKEAAEmHAImOlLAnNlMAEMmIMlNGImINlOmLmOlPAmHIlRImOlSHIlTAmEKmHEAlWAlYObUCH GREATER-THAN
fLESS-THANcLTANI LETTER ApBAqHApCAqHApDAqDArDArHAqHApEpGAqHApHApIpJAqJApKAqHApLApMApNAqNAqYApPAqHA
pRAqHAqRApSApTAqHAqTArHApUpVApYAiSECTION MARKeIMAPfPLE MUSICAL NOTEShICATION SIGNt IN DOUBLE CIRCLE
xLEFT HALF CIRCLExRIGHT HALF CIRCLExTRIANGLEuWITH DOT ABOVEzUNDERBARpXfSETi MULTIPLICATIONjUNION
cSHROOMdIC FLAT SIGNgNATURAL SIGNgSHARP SIGNfAL KEYBOARDq WITH JACKSiNOTEiSCORE
jYMBOL ARPEGGIATO DOWNz UPpBEGIN BEAMvPHRASEvSLURvTIEqRACEtKETrEATH MARKsVEtISv RESTpC CLEFqAESURA
qIRCLE X NOTEHEADqLIMACUSsVISrUSTER NOTEHEAD BLACKzTEHEAD WHITEqODArMBINING ACCENTzACCENT-STACCATO
zAUGMENTATION DOTzBENDzDOITzDOUBLE TONGUEzDOWN BOWzFLAG-1zFLAG-2zFLAG-3zFLAG-4zFLAG-5zFLIPzHARMONIC
zLOUREzMARCATOzMARCATO-STACCATOzRIPzSMEARzSNAP PIZZICATOzSPRECHGESANG STEMzSTACCATISSIMOzSTACCATO
zSTEMzTENUTOzTREMOLO-1zTREMOLO-2zTREMOLO-3zTRIPLE TONGUEzUP BOWsMON TIMEqRESCENDOrOIXqUT TIME
pDA CAPOrL SEGNOrMPt ALLrSHED BARLINEqECRESCENDOrGREE SLASHqOUBLE BARLINEwFLATwSHARPqRUM CLEF-1z2
pEIGHTH NOTEwRESTqND BEAMtOF STIMMEtPHRASEtSLURtTIEpF CLEFv OTTAVA ALTAzAVA BASSAqERMATAw BELOW
qINAL BARLINEsGERED TREMOLO-1zREMOLO-2zREMOLO-3rVE-LINE STAFFqLAT DOWNuUPqORTErUR-LINE STAFF
uSTRING FRETBOARDqUSA BLACKuWHITEpG CLEFv OTTAVA ALTAzAVA BASSAqLISSANDO DOWNzUPqRACE NOTE NO SLASH
z SLASHrEGORIAN C CLEFzF CLEFpHALF NOTEuPEDAL MARKuRESTrUPTSTIMMEpINVERTED TURNpKIEVAN C CLEF
wEIGHTH NOTE STEM DOWNzHTH NOTE STEM UPxND OF PIECEwFINAL NOTExLAT SIGNwHALF NOTE
wQUARTER NOTE STEM DOWNzRTER NOTE STEM UPwRECITATIVE MARKwWHOLE NOTEqORONpLEFT REPEAT SIGNqONGA
u IMPERFECTA RESTvPERFECTA RESTpMAXIMAqEZZOqINIMAv BLACKwRESTqOON NOTEHEAD BLACKzEAD WHITE
qULTI RESTuPLE MEASURE RESTpNATURAL DOWNxUPqEBENSTIMMEqOTEHEAD BLACKqULL NOTEHEAD
pONE HUNDRED TWENTY-EIGHTH NOTEzD TWENTY-EIGHTH RESTs-LINE STAFFqRNAMENT STROKE-1zTROKE-10zTROKE-11
zTROKE-2zTROKE-3zTROKE-4zTROKE-5zTROKE-6zTROKE-7zTROKE-8zTROKE-9qTTAVA ALTAwBASSA
pPARENTHESIS NOTEHEADqEDAL MARKvUP MARKrS SUBPUNCTISqIANOqLUS NOTEHEADqODATUSrRRECTUSy FLEXUS
pQUARTER NOTExRESTxTONE FLATzNE SHARPrINDICESIMA ALTAzMA BASSApREPEAT DOTSvED FIGURE-1zIGURE-2
zIGURE-3rVERSE FINAL BARLINEqIGHT REPEAT SIGNrNFORZANDOpSCANDICUSy FLEXUSqEGNOrMIBREVIS BLACKz REST
z WHITEtMINIMA BLACKz RESTz WHITEqHARP DOWNvUPrORT BARLINEqINGLE BARLINErX-LINE STAFF
tSTRING FRETBOARDsTEENTH NOTEzRESTtY-FOURTH NOTEzTH RESTqORIqQUARE BwNOTEHEAD BLACKzEHEAD WHITE
qUBITOpTEMPUS IMPERFECTUM CUM PROLATIONE IMPERFECTAzERFECTUM CUM PROLATIONE IMPERFECTA DIMINUTION-1
zERFECTUM CUM PROLATIONE IMPERFECTA DIMINUTION-2zERFECTUM CUM PROLATIONE IMPERFECTA DIMINUTION-3
zERFECTUM CUM PROLATIONE PERFECTAwPERFECTUM CUM PROLATIONE IMPERFECTA
zFECTUM CUM PROLATIONE PERFECTAzFECTUM CUM PROLATIONE PERFECTA DIMINUTION-1qHIRTY-SECOND NOTE
zOND RESTrREE-LINE STAFFqORCULUSx RESUPINUSqRrIANGLE NOTEHEAD DOWN BLACKzOTEHEAD DOWN WHITE
zOTEHEAD LEFT BLACKzOTEHEAD LEFT WHITEzOTEHEAD RIGHT BLACKzOTEHEAD RIGHT WHITEzOTEHEAD UP BLACK
zOTEHEAD UP RIGHT BLACKzOTEHEAD UP RIGHT WHITEzOTEHEAD UP WHITEx-ROUND NOTEHEAD DOWN BLACK
zOUND NOTEHEAD DOWN WHITEqURNt SLASHuUPqWO-LINE STAFFpVIRGAqOID NOTEHEADpWHOLE NOTEvREST
qITH FINGERNAILSpX NOTEHEADpZbVSbWbYANMAR CONSONANT SIGN MEDIAL HAzDIAL RAzDIAL WAzDIAL YA
yON MEDIAL LAzN MEDIAL MAzN MEDIAL NAxSHAN MEDIAL WAiDIGIT EIGHToFIVEpOURoNINEoONEoSEVENpIXoTHREE
pWOoZEROiLETTER AqITON RAqUpBAqHApCAqHApDAqDArHAqHApEqASTERN PWO KAREN GHWAzO KAREN NNAzO KAREN YWA
pGAqHAqREAT SApHApIqIpJAqHApKAqHAsMTI CAxHAwDDAyHAxHAwFAwGAwHAxHAwJAxHAwLLAwNAxYAwRAwSAwTTAyHAwXA
wZApLAqLApMAqON BBAvEtEtJHAtNGApNAqGAqNArYAqYApOpPAqHApRAqUMAI PALAUNG FApSAqGAW KAREN SHAqHAsN A
uBAvHAuCAvHAuDAuFAuGAvHAuHAuJHAuKAvHAuNAvNAvYAuPHAuTHAuZArWE PALAUNG CHAzNG SHAqSApTArI LAING BA
zBHAzDAzDDAzDDHAzDHAzFAzGAzGHAzJAzJHAzLLAzNNAzNYAqHAqTArHApUqUpVOCALIC LyLxRyRpWA
qESTERN PWO KAREN PWAzO KAREN THApYAjOGOGRAM KHAMTI HMyOAYyQNiMODIFIER LETTER KHAMTI REDUPLICATION
ySHAN REDUPLICATIONiSHAN DIGIT EIGHTtFIVEuOURtNINEtONEtSEVENuIXtTHREEuWOtZEROjIGN ANUSVARAoSAT
nDOT BELOWnKHAMTI TONE-1z3nLITTLE SECTIONnPAO KAREN TONEnRUMAI PALAUNG TONE-5nSECTION
oHAN COUNCIL EMPHATIC TONEz TONE-2z TONE-3sSAWsTONE-2x3x5x6nTAI LAING TONE-2zNE-5nVIRAMApSARGA
nWESTERN PWO KAREN TONE-1zKAREN TONE-2zKAREN TONE-3zKAREN TONE-4zKAREN TONE-5jYMBOL AFOREMENTIONED
qITON EXCLAMATIONvONEvTWOpCOMPLETEDpGENITIVEpLOCATIVEpSHAN EXCLAMATIONuONEiTAI LAING DIGIT EIGHT
yFIVEzOURyNINEyONEySEVENzIXyTHREEzWOyZEROjONE MARK SGAW KAREN HATHIzREN KE PHOiVOWEL SIGN AAuI
vTON AzAItEu ABOVEtGEBA KAREN ItIuItKAYAH EEzOEzUtMON IIxOtSGAW KAREN EUuHAN AAyEz ABOVEyFINAL Y
tTALL AAtUuUtVOCALIC LzC LLzC RzC RRtWESTERN PWO KAREN EUzN PWO KAREN UEaN-ARY CIRCLED DOT OPERATOR
oPLUS OPERATORoTIMES OPERATORhOPRODUCTgINTERSECTIONgLOGICAL ANDoORgPRODUCT
gSQUARE INTERSECTION OPERATORnUNION OPERATORhUMMATIONgTIMES OPERATORgUNIONl OPERATOR WITH DOTz PLUS
gWHITE VERTICAL BARbABATAEAN CRUCIFORM NUMBER FOURkLETTER ALEPHsYINrBETHrDALETHrFINAL ALEPHxBETHxHE
xKAPHxLAMEDHxMEMxNUNxSHINxYODHrGIMELrHEtTHrKAPHrLAMEDHrMEMrNUNrPErQOPHrRESHrSADHEtMEKHsHINrTAWsETH
rWAWrYODHrZAYINkNUMBER FIVEsOURrONEu HUNDREDrTENsHREEsWENTYtOdLAcIL POLISHdRA SIGNcKcME BADGEcND
eINAGARI HEADSTROKEmLETTER AuAuIuUtBAuHAtCAuHAtDAuDAvHAuHAtEtGAuHAtHAtIuItJAuHAtKAuHAtLAuLAtMAtNA
uGAuNAuYAtOtPAuHAtRAuRAtSAuHAuSAtTAuHAuTAvHAtUuUtVAuOCALIC RzC RRtYAmSIGN ANUSVARAsVAGRAHArSIDDHAM
rVIRAMAtSARGAmVOWEL SIGN AAyIyUxExIyIxOxPRISHTHAMATRA ExUyUxVOCALIC RzCALIC RRcRROW NO-BREAK SPACE
cTIONAL DIGIT SHAPESjPARKcUSEATED FACEcZAR AMULETbBHcSPbECKTIE
cGATED DOUBLE VERTICAL BAR DOUBLE RIGHT TURNSTILEfIVE ACKNOWLEDGEjCIRCLED DIGIT ZERO
rLATIN CAPITAL LETTER AzPITAL LETTER BzPITAL LETTER CzPITAL LETTER DzPITAL LETTER EzPITAL LETTER F
zPITAL LETTER GzPITAL LETTER HzPITAL LETTER IzPITAL LETTER JzPITAL LETTER KzPITAL LETTER L
zPITAL LETTER MzPITAL LETTER NzPITAL LETTER OzPITAL LETTER PzPITAL LETTER QzPITAL LETTER R
zPITAL LETTER SzPITAL LETTER TzPITAL LETTER UzPITAL LETTER VzPITAL LETTER WzPITAL LETTER X
zPITAL LETTER YzPITAL LETTER ZrNUMBER EIGHTEENzLEVENyFIFTEENzOURTEENyNINETEENySEVENTEENzIXTEEN
yTHIRTEENzWELVEzWENTYrSQUARErTRIANGLEjDIAGONAL CROSSsDIAMONDsMIDDLE RIGHT TO LOWER CENTRE
jSQUARED ABrCROSS MARKrICrLATIN CAPITAL LETTER AzPITAL LETTER BzPITAL LETTER CzPITAL LETTER D
zPITAL LETTER EzPITAL LETTER FzPITAL LETTER GzPITAL LETTER HzPITAL LETTER IzPITAL LETTER J
zPITAL LETTER KzPITAL LETTER LzPITAL LETTER MzPITAL LETTER NzPITAL LETTER OzPITAL LETTER P
zPITAL LETTER QzPITAL LETTER RzPITAL LETTER SzPITAL LETTER TzPITAL LETTER UzPITAL LETTER V
zPITAL LETTER WzPITAL LETTER XzPITAL LETTER YzPITAL LETTER ZrPArQUESTION MARKrSArWC
cITHER A SUBSET OF NOR EQUAL TOmPERSET OF NOR EQUAL TOjPPROXIMATELY NOR ACTUALLY EQUAL TO
iGREATER-THAN NOR EQUAL TOzEQUIVALENT TOzLESS-THANiLESS-THAN NOR EQUAL TOzIVALENT TOwGREATER-THANcL
cPTUNEh FORM TWOcRD FACEcSSUSdT WITH EGGSeING DOLLScUTEReRAL CHESS BISHOPu ROTATED NINETY DEGREES
zTED TWO HUNDRED SEVENTY DEGREESoEQUIHOPPERy ROTATED NINETY DEGREESoKINGs ROTATED NINETY DEGREES
zD TWO HUNDRED SEVENTY DEGREESpNIGHTu ROTATED FORTY-FIVE DEGREESzTED NINETY DEGREES
zTED ONE HUNDRED THIRTY-FIVE DEGREESzTED THREE HUNDRED FIFTEEN DEGREES
zTED TWO HUNDRED SEVENTY DEGREESzTED TWO HUNDRED TWENTY-FIVE DEGREESoPAWNs ROTATED NINETY DEGREES
zD TWO HUNDRED SEVENTY DEGREESoQUEENt ROTATED NINETY DEGREESzED TWO HUNDRED SEVENTY DEGREESoROOK
s ROTATED NINETY DEGREESzD TWO HUNDRED SEVENTY DEGREESoTURNED BISHOPvKINGwNIGHTvPAWNvQUEENvROOK
iFACEcW LINEeMOON SYMBOLjWITH FACEeSHEQEL SIGNeTAI LUE DIGIT EIGHTsFIVEtOURsNINEsONEsSEVENtIXsTHREE
tWOsZEROmLETTER FINAL BzDzKzMzNzNGzVtHIGH BAyDAyFAyHAyKAzVAyLAyMAyNAzGAyPAzHAyQAySAzUAyTAzHAzSAyVA
yXAzVAyYAtLOW BAxDAxFAxHAxKAyVAxLAxMAxNAyGAxPAyHAxQAxSAyUAxTAyHAySAxVAxXAyVAxYAmSIGN LAEuV
mTHAM DIGIT ONEnONE MARK-1w2mVOWEL SIGN AAzYyEyYxExIIyYxOyAzYyYxUyEzYyUyYxVOWEL SHORTENER
dA ABBREVIATION SIGNfCOMMAfDANDAgIGIT EIGHTlFIVEmOURlNINElONElSEVENmIXlTHREEmWOlZEROgOUBLE COMMA
mDANDAfGAP FILLERfINSERTION SIGNfLETTER AnAnInUmBAnHAmCAnHAmDAnDAoHAnHAmEmGAnHAmHAmInImJAnHAmKAnHA
mLAnHAmMAnHAmNAnGAoHAnHAnNAnYAoHAmOmPAnHAmRAnHAmSAnHAnSAmTAnHAnTAoHAmUnUmVEDIC ANUSVARAnOCALIC LvL
uRvRmWAmYAfOMfPLACEHOLDER MARKfSANDHI MARKgIDDHIhGN ANUSVARAlVAGRAHAkCANDRABINDUkFINAL ANUSVARA
kJIHVAMULIYAkNUKTAkUPADHMANIYAkVIRAMAmSARGAfVOWEL SIGN AArIrUqEqIrIqOqUrUqVOCALIC LzLyRzRdLINE LEFT
iRIGHTdSPAPERcXT LINEfPAGEbIGHT WITH STARScNJAbKO COMBINING DOUBLE DOT ABOVEoLONG DESCENDING TONE
tHIGH TONEtLOW TONEtRISING TONEoNASALIZATION MARKoSHORT HIGH TONEuLOW TONEuRISING TONEhMA
eDANTAYALANfIGIT EIGHTkFIVElOURkNINEkONEkSEVENlIXkTHREElWOkZEROfOROME SIGNeEXCLAMATION MARK
eHIGH TONE APOSTROPHEeLAJANYALANfETTER AlBAlCHAlDAnGBASINNAlEmElFAlGBAlHAlIlJAmONA CHAqJAqRAlKAlLA
lMAlNmAn WOLOSOmYAo WOLOSOlOmOlPAlRAmRAlSAlTAlUlWAlYAfOW TONE APOSTROPHEeSYMBOL GBAKURUNEN
lOO DENNENeTAMAN SIGNbLbNBSPbO BICYCLESeREAK HEREdENTRYi SIGNdMOBILE PHONES
dONE UNDER EIGHTEEN SYMBOLdPEDESTRIANSeIRACYdSMOKING SYMBOLc-BREAK SPACEcMINAL DIGIT SHAPES
eSMA SIGNcN-BREAKING HYPHENePOTABLE WATER SYMBOLdFORKINGcRdDIC MARK SIGNdMAL SUBGROUP OF
s OR EQUAL TOdTH EAST AND SOUTH WEST ARROWmRROWq AND SOUTH EAST ARROWrCROSSING NORTH WEST ARROW
z SOUTH EAST ARROWrWITH HOOKlBLACK ARROWlDOUBLE ARROWlPOINTING BUDuLEAFuVINE LEAFlSANS-SERIF ARROW
lTRIANGLE-HEADED ARROWzD ARROW TO BARlWHITE ARROWgINDIC FRACTION ONE EIGHTHzHALFzQUARTERzSIXTEENTH
vTHREE QUARTERSzE SIXTEENTHSmPLACEHOLDER MARKmQUANTITY MARKpRTER MARKmRUPEE MARK
gWEST AND SOUTH EAST ARROWmRROWq AND NORTH EAST ARROWrCROSSING NORTH EAST ARROWrTO CORNERuLONG BAR
rWITH HOOKlBLACK ARROWlDOUBLE ARROWlPOINTING BUDuLEAFuVINE LEAFlSANS-SERIF ARROW
lTRIANGLE-HEADED ARROWzD ARROW TO BARlWHITE ARROWfEAST-POINTING AIRPLANEcSEcT A SUBSET OFiPERSET OF
fLMOST EQUAL TOfN ELEMENT OFfSYMPTOTICALLY EQUAL TOeCHECK MARKeEQUAL TOhIVALENT TOeGREATER-THAN
eIDENTICAL TOeLESS-THANeNORMAL SUBGROUP OFw OR EQUAL TOePARALLEL TOeSIGNfQUARE IMAGE OF OR EQUAL TO
lORIGINAL OF OR EQUAL TOeTILDEfRUEdCHED LEFT SEMICIRCLE WITH THREE DOTS
jOWER RIGHT-SHADOWED WHITE RIGHTWARDS ARROWiRIGHT SEMICIRCLE WITH THREE DOTS
iUPPER RIGHT-SHADOWED WHITE RIGHTWARDS ARROWdEe PADhGEeBOOKi WITH DECORATIVE COVERbULdL
cMBER EIGHTEEN FULL STOPiLEVEN FULL STOPhFIFTEEN FULL STOPiOURTEEN FULL STOPhNINETEEN FULL STOP
hSEVENTEEN FULL STOPiIGNjXTEEN FULL STOPhTEN FULL STOPiHIRTEEN FULL STOPiWELVE FULL STOP
kNTY FULL STOPdERO SIGNcSHU ITERATION MARKcT AND BOLTbYIAKENG PUACHUE HMONG CIRCLED CAxDIGIT EIGHT
zGIT FIVEzGIT FOURzGIT NINEzGIT ONEzGIT SEVENzGIT SIXzGIT THREEzGIT TWOzGIT ZEROxLETTER AzTTER AA
zTTER CAzTTER DAzTTER DLAzTTER EzTTER EEzTTER FAzTTER GAzTTER HAzTTER HAHzTTER IzTTER KAzTTER LA
zTTER MAzTTER MLAzTTER NAzTTER NCAzTTER NKAzTTER NPAzTTER NPLAzTTER NQAzTTER NRAzTTER NTAzTTER NTSA
zTTER NTXAzTTER NYAzTTER OzTTER OOzTTER PAzTTER PLAzTTER QAzTTER RAzTTER RRAzTTER SAzTTER TA
zTTER TSAzTTER TXAzTTER UzTTER VAzTTER WzTTER XAzTTER XYAzTTER YAzTTER ZAyOGOGRAM NYAJ
xSIGN FOR ANIMALzGN FOR INVERTEBRATEzGN FOR LOCATIONzGN FOR PERSONzGN FOR THINGzGN XW XW
yYLLABLE LENGTHENERxTONE-BzNE-DzNE-GzNE-JzNE-MzNE-SzNE-VaOBJECT REPLACEMENT CHARACTER
cLIQUE ANGLE OPENING DOWNwUPiHYPHENcSERVER EYE SYMBOLbCR AMOUNT OF CHECKeBELT BUCKLEfOW TIE
fRANCH BANK IDENTIFICATIONeCHAIRfUSTOMER ACCOUNT NUMBEReDASHfOUBLE BACKSLASHeFORKeHOOK
eINVERTED FORKcTAGONAL SIGNdOPUSbDENbFFICE BUILDINGbGHAM FEATHER MARKgLETTER AILMnBEITHnCEIRToOLL
nDAIRnEABHADHpDHADHpMHANCHOLLnFEARNnGORTnIFINoODHADHnLUISnMUINnNGEADALoIONnONNoRnPEITHnRUISnSAIL
oTRAIFnTINNEnUATHoILLEANNoRgREVERSED FEATHER MARKgSPACE MARKcONEKbHM SIGNbIL DRUMbK HAND SIGN
bL CHIKI AHADjDIGIT EIGHTpFIVEqOURpNINEpONEpSEVENqIXpTHREEqWOpZEROjGAAHLAA TTUDDAAGjLETTER AAJsKsM
sWrGrLrNGrTqEDDrNrPrRRqIHrNYrRrSqLAsArErIrOrUqOBrHrTTrVqUCrDrNNrYjMU TTUDDAGl-GAAHLAA TTUDDAAG
jPHAARKAAkUNCTUATION DOUBLE MUCAADvMUCAADjRELAAcD CHINESE HOOK MARKmITERATION MARK
eHUNGARIAN CAPITAL LETTER AzTER AAzTER AKzTER AMBzTER ANDzTER CLOSE EzTER EzTER EBzTER ECzTER ECH
zTER ECSzTER EDzTER EEzTER EFzTER EGzTER EGYzTER EHzTER EJzTER EKzTER ELzTER ELYzTER EMzTER EMP
zTER ENzTER ENCzTER ENTzTER ENT-SHAPED SIGNzTER ENYzTER EPzTER ERzTER ESzTER ESZzTER ETzTER ETY
zTER EVzTER EZzTER EZSzTER IzTER IIzTER NIKOLSBURG OEzTER NIKOLSBURG UEzTER OzTER OEEzTER OO
zTER RUDIMENTA OEzTER RUDIMENTA UEzTER SHORT ERzTER UzTER UNKzTER USzTER UUoNUMBER FIFTYxVEvONE
y HUNDREDzTHOUSANDvTENoSMALL LETTER AzR AAzR AKzR AMBzR ANDzR CLOSE EzR EzR EBzR ECzR ECHzR ECS
zR EDzR EEzR EFzR EGzR EGYzR EHzR EJzR EKzR ELzR ELYzR EMzR EMPzR ENzR ENCzR ENTzR ENT-SHAPED SIGN
zR ENYzR EPzR ERzR ESzR ESZzR ETzR ETYzR EVzR EZzR EZSzR IzR IIzR NIKOLSBURG OEzR NIKOLSBURG UEzR O
zR OEEzR OOzR RUDIMENTA OEzR RUDIMENTA UEzR SHORT ERzR UzR UNKzR USzR UUeITALIC LETTER AsBEsCHEsDE
sEtFtKStLtMtNtRuStSuHuSsHEsItIsKAtEtHEtUsNORTHERN TSEsOsPEtHEsSHEtOUTHERN TSEsTEtHEsUtUsVEsYEsZE
lNUMERAL FIFTYvVEtONEtTENeKEYeNORTH ARABIAN LETTER AINzALEFzBEHzDADzDALzES-1zES-2zES-3zFEHzGEEM
zGHAINzHAHzHEHzKAFzKHAHzLAMzMEEMzNOONzQAFzREHzSADzTAHzTEHzTHALzTHEHzWAWzYEHzZAHzZAINsNUMBER ONEzTEN
zTWENTYePERMIC LETTER ANsBURsCHERYsDOItZHOIuITAsEtFsGAIsHAsItAtEsKOKEsLEIsMENOEsNENOEsOtOsPEEIsREI
sSHCHOOIuOOItIIsTAItSIUsUsVERtOOIsYAuTtERvIvUtRYtUsZATAtHOIhSIAN NUMBER HUNDREDtONEtTENuWENTYvO
mSIGN AsURAMAZDAAzAA-2zAAHArBAtGAsUUMISHrCArDAtHYAAUSHzH-2sIsUrFArGAsUrHArIrJAsIrKAsUrLArMAsIsUrNA
sUrPArRAsUrSAsHAsSArTAsHAsUrUrVAsIrXAsSHAAYATHIYArYArZAmWORD DIVIDERiONAL COMPUTER
eSOGDIAN FRACTION ONE HALFmLETTER ALEPHvTERNATE AYINuYINtBETHtFINAL ALEPHzBETHzHEzNUN
zNUN WITH VERTICAL TAILzSADHEzSADHE WITH VERTICAL TAILzTAWzTAW WITH VERTICAL TAILtGIMELtHEvTHtKAPH
tLAMEDHtMEMtNUNtPEtRESH-AYIN-DALETHtSADHEvMEKHuHINtTAWtWAWtYODHtZAYINnIGATURE AYIN-DALETH
mNUMBER FIVEuOURtONEw HUNDREDtTENuHIRTYvREEuWENTYvOgUTH ARABIAN LETTER ALEFzAYNzBETHzDALETHzDHADHE
zDHALETHzFEzGHAYNzGIMELzHEzHETHzKAPHzKHETHzLAMEDHzMEMzNUNzQOPHzRESHzSADHEzSAMEKHzSATzSHINzTAWzTETH
zTHAWzTHETHzWAWzYODHzZAYNsNUMBER FIFTYzONEvERIC INDICATOReTURKIC LETTER ORKHON AzABzADzAEBzAEDzAEG
zAEKzAELzAENzAERzAESzAETzAEYzAGzALzANzAQzARzASzASHzATzAYzBASHzECzELTzEMzENCzENGzENTzENYzEPzESHzEZzI
zICzIQzOzOEzOEKzOPzOQzOTsYENISEI Az ABz ADz AEz AEBz AEGz AEKz AENz AENGz AETz AEYz AGz ALz ANGz AQ
z ARz ASHz ATz AYz Ez ECz ENCz ENTz ENYz ESHz EZz Iz IQz OEz OEKz OQeUYGHUR COMBINING DOT ABOVE
zBELOWvTWO DOTS ABOVEzDOTS BELOWlLETTER ALEPHsBETHsFINAL HETHsGIMEL-HETHsKAPHsLAMEDHtESHsMEMsNUNsPE
sRESHsSADHEuMEKHtHINsTAWsWAWsYODHsZAYINlPUNCTUATION BARxFOUR DOTSxTWO BARSzO DOTSdER ADULTgMAN
gWOMANcIVEbM SYMBOLbN WITH EXCLAMATION MARK WITH LEFT RIGHT ARROW ABOVEcCOMING AUTOMOBILEjBUS
jFIRE ENGINEjPOLICE CARjTAXIcE BUTTON MOUSEeDOT LEADERiOVER TWO DOTS PUNCTUATIONd-PIECE SWIMSUIT
cIONbPEN BOOKhXfCENTRE ASTERISKmBLACK STARmCROSSmTEARDROP-SPOKED ASTERISKfFILE FOLDERgOLDER
fHANDS SIGNfLOCKfMAILBOX WITH LOWERED FLAGsRAISED FLAGfSUBSEThPERSETe-CIRCUIT-OUTPUT H-TYPE SYMBOL
uL-TYPE SYMBOLfOUTLINED RIGHTWARDS ARROWdRATING SYSTEM COMMANDcHIUCHUScPOSITIONcTICAL DISCm ICON
eON KEYbR WITH DOT INSIDEcANGE BOOKhHEARTfUTANcIGINAL OFdYA AI LENGTH MARKhU LENGTH MARK
gDIGIT EIGHTmFIVEnOURmNINEmONEmSEVENnIXmTHREEnWOmZEROgFRACTION ONE EIGHTHtHALFtQUARTERtSIXTEENTH
pTHREE QUARTERSvSIXTEENTHSgISSHARgLETTER AoAoIoUnBAoHAnCAoHAnDAoDApHAoHAnEnGAoHAnHAnIoInJAoHAnKAoHA
nLAoLAnMAnNAoGAoNAoYAnOnPAoHAnRAoHAoRAnSAoHAoSAnTAoHAoTApHAnUoUnVAoOCALIC LwLvRwRnWAnYAoYA
gSIGN ANUSVARAmVAGRAHAlCANDRABINDUlNUKTAlOVERLINElVIRAMAnSARGAgVOWEL SIGN AAsIsUrErIsIrOrUsU
rVOCALIC LzLLzRzRRcNATE LEFT PARENTHESIShRIGHT PARENTHESIScTHODOX CROSSbSAGE CAPITAL LETTER AwHwIxN
vBRAvCHAvDHAvEwHCHAxKAxPAxTAySAwINvGHAvHAwYAvIvKAwHAwYAvLAvMAvNAvOwINvPAvSAwHAvTAwSAxHAvUvWAvZAwHA
gSMALL LETTER AuHuIvNtBRAtCHAtDHAtEuHCHAvKAvPAvTAwSAuINtGHAtHAuYAtItKAuHAuYAtLAtMAtNAtOuINtPAtSAuHA
tTAuSAvHAtUtWAtZAuHAcCcMANYA DIGIT EIGHToFIVEpOURoNINEoONEoSEVENpIXoTHREEpWOoZEROiLETTER AqAqLEFpBA
pCAYNpDEELqHApEqEpFApGApHApIpJApKAAFqHApLAANpMIINpNUUNpOqOpQAAFpRApSAqHIINpTApUpWAWpXApYAbTTER
dOMAN SIYAQ ALTERNATE NUMBER EIGHTzUMBER FIVEzUMBER FOURzUMBER FOUR HUNDREDzUMBER NINEzUMBER SEVEN
zUMBER SIXzUMBER SIX HUNDREDzUMBER TENzUMBER TEN THOUSANDzUMBER THREEzUMBER TWOzUMBER TWO THOUSAND
oFRACTION ONE HALFzE SIXTHoMARRATANoNUMBER EIGHTzT HUNDREDzT THOUSANDzTYzTY THOUSANDvFIFTY
zY THOUSANDxVEz HUNDREDz THOUSANDwORTYzY THOUSANDxURz HUNDREDz THOUSANDvNINEz HUNDREDz THOUSANDzTY
zTY THOUSANDvONEy HUNDREDzTHOUSANDvSEVENzN HUNDREDzN THOUSANDzNTYzNTY THOUSANDwIXy HUNDREDzTHOUSAND
yTYzY THOUSANDvTENy THOUSANDwHIRTYzTY THOUSANDxREEzE HUNDREDzE THOUSANDwWENTYzTY THOUSANDxO
y HUNDREDzTHOUSANDbUNCE SIGNcTBOX TRAYdLINED BLACK STARjGREEK CROSSjLATIN CROSSjWHITE STAR
bVERHEATED FACEeLAPhPING BLACK SQUARESmWHITE AND BLACK SQUARESsSQUARESfINEbWLbXbYSTERaPACKAGEcD
dDING CHARACTERcGEe FACING UPfWITH CIRCLED TEXTlURLeReSdODAcHAWH HMONG CLAN SIGN FAJxHAMzWJxKHAByOO
yWMxLAUJyISxMUASxPHABxTHOJySABzHEEJzWBxVAJyWJxXYOOJxYAJyEEGoONSONANT AUxCAUyHAUxHAUyLAUyNAUxLAUxMAU
xNAUyCHAUyKAUyLAUyTHAUzSAUxPLHAUxQHAUxRAUxVAUxXAUxYAUnDIGIT EIGHTtFIVEuOURtNINEtONEtSEVENuIXtTHREE
uWOtZEROnMARK CIM HOMwKESxHAVwSOxUAMwTAUMxUBnNUMBER HUNDRED MILLIONSzEDSuMILLIONSuTEN BILLIONS
yTHOUSANDSxSvRILLIONSnSIGN AVsCIM CHEEMxUAM TSHOOJwHAIS LUS NTOG NTOGwNRES TOSwPUB DAWBwTSOV ROG
xXWVzV CHWVsHLItNUBsIB YAMsLOSsMEEJ SUABxTSEEBtUSsNQIGtTUJsTAUtHIRD-STAGE HLItXHEEJ CEEVsVOS FEEM
wLUBwNRUAwSEEVwTHIAByOMxSHAB CEEBsXAUStIABtYEEM FAIByNTXIVyRHOyTOVuOOsZWJ THAJnVOWEL KAABwVvBvIBwV
vUBwVvVvWBwVuEBvEBwVvVuIABwVvBvVuOBvOBwVvVuUABwVvBvVuWBvVcLLASdM BRANCHfDOWN HANDfTREEfUP HAND
eS UP TOGETHEReYRENE LEFT-POINTING FLEURONmTTER ALEPHsYINrBETHrDALETHrFINAL NUNrGIMELrHEtTHrKAPH
rLAMEDHrMEMrNUNrPErQOPHrRESHrSADHEtMEKHsHINrTAWsETHrWAWrYODHrZAYINkNUMBER FIVEsOURrONErTENsHREE
sWENTYtOkRIGHT-POINTING FLEURONcNCAKESdDA FACEcPERCLIPcRACHUTEeGRAPH SEPARATORjOSjUS MARKeLLEL TO
jWITH HORIZONTAL STROKEoTILDE OPERATORdENTHESIZED DIGIT EIGHTuFIVEvOURuNINEuONEuSEVENvIXuTHREEvWO
oHANGUL CHIEUCHzUCH AwIEUCzC AzC UvHIEUHzH AvIEUNGzG AvKHIEUKHzUKH AwIYEOKzOK AvMIEUMzM AvNIEUNzN A
vPHIEUPHzUPH AwIEUPzP AvRIEULzL AvSIOSz AvTHIEUTHzUTH AwIKEUTzUT AoIDEOGRAPH ALLIANCEyCALL
zONGRATULATIONyEARTHzIGHTzNTERPRISEyFESTIVALzINANCIALzIREzIVEzOURyHAVEyLABORyMETALzOONyNAMEzINEyONE
yREACHzEPRESENTzESOURCEzESTySELFzEVENzIXzOCIETYzPECIALzTOCKzTUDYzUNzUPERVISEyTENzHREEzWOyWATERzOOD
oKOREAN CHARACTER O HUzACTER OJEONoLATIN CAPITAL LETTER AzAL LETTER BzAL LETTER CzAL LETTER D
zAL LETTER EzAL LETTER FzAL LETTER GzAL LETTER HzAL LETTER IzAL LETTER JzAL LETTER KzAL LETTER L
zAL LETTER MzAL LETTER NzAL LETTER OzAL LETTER PzAL LETTER QzAL LETTER RzAL LETTER SzAL LETTER T
zAL LETTER UzAL LETTER VzAL LETTER WzAL LETTER XzAL LETTER YzAL LETTER ZuSMALL LETTER Az LETTER B
z LETTER Cz LETTER Dz LETTER Ez LETTER Fz LETTER Gz LETTER Hz LETTER Iz LETTER Jz LETTER K
z LETTER Lz LETTER Mz LETTER Nz LETTER Oz LETTER Pz LETTER Qz LETTER Rz LETTER Sz LETTER T
z LETTER Uz LETTER Vz LETTER Wz LETTER Xz LETTER Yz LETTER ZoNUMBER EIGHTEENwLEVENvFIFTEENwOURTEEN
vNINETEENvSEVENTEENwIXTEENvTENwHIRTEENwWELVEyNTYdROTdT ALTERNATION MARKeIAL DIFFERENTIAL
iLINE BACKWARDnDOWNnFORWARDnUPhLY-RECYCLED PAPER SYMBOLeNERSHIP SIGNeY POPPERcSSED SYMBOLfNGER SHIP
eIVE-PULL-DOWN-OUTPUT SYMBOLnUP-OUTPUT SYMBOLePORT CONTROLcU CIN HAU GLOTTAL STOPy FINALzVARIANT
mLETTER AtBAtCAuHAtDAtEtFAuINAL KzLzMzNzNGzPzTzWzYtGAtHAtIuAtKAuHAtLAtMAtNAuGAtOtPAuHAtRAtSAtTAuHA
tUuAtVAtZAnOW-FALLING TONEzONE FINALzONE LONGzONE LONG FINALmMID-LEVEL TONEzE FINALzE LONG FINAL
mRISING TONEx FINALyLONGzONG FINALmSANDHI GLOTTAL STOPzL STOP FINALtTONEx FINALyLONGzONG FINAL
cW PRINTSbDFcIbEACE SYMBOLeHeOCKdNUTSdRcDESTRIANcN OVER STAMPED ENVELOPEdCILdGUINdSIVE FACEdTAGRAM
cOPLE HUGGINGcR MILLE SIGNeSIGNeTEN THOUSAND SIGNdCENT SIGNdFORMING ARTSdMANENT PAPER SIGN
dPENDICULARn WITH SdSEVERING FACEeON BOWING DEEPLYhCLIMBINGhDOING CARTWHEELhFROWNING
hIN LOTUS POSITIONkSTEAMY ROOMhRAISING BOTH HANDS IN CELEBRATIONhWITH BALLnLOND HAIRmCROWN
mFOLDED HANDSmHEADSCARFmPOUTING FACEgAL COMPUTERePECTIVEcSETA SIGNdO SIGNcTRI DISH
bHAGS-PA DOUBLE HEAD MARKjLETTER ArLTERNATE YArSPIRATED FAqBAqCAsNDRABINDUrHAqDArDArZAqErEqFAqGArGA
qHAqIqJAqKArHAqLAqMAqNArGArNArYAqOqPArHAqQAqRAqSArHArMALL AqTArHArSAsHArTAsHAqUqVOICED HAvLESS SHA
qWAqXAqYAqZArHAjMARK DOUBLE SHADoSHADjSINGLE HEAD MARKkUBJOINED LETTER RAz WAz YA
lPERFIXED LETTER RAdISTOS DISC SIGN ARROWtBEEwHIVEuOOMERANGvWuULLS LEGtCAPTIVEvRPENTRY PLANEvTuHILD
uLUBuOLUMNvMBxINING OBLIQUE STROKEtDOLIUMvVEtEAGLEtFLUTEtGAUNTLETuRATERtHELMETuIDEuORNtLIDvLY
tMANACLESvTTOCKtOX BACKtPAPYRUSuEDESTRIANuLANE TREEvUMED HEADtRAMuOSETTEtSAWuHIELDwPuLINGuMALL AXE
uTRAINERtTATTOOED HEADuIARAuUNNYtVINEtWAVY BANDuOMANcILIPPINE DOUBLE PUNCTUATIONlSINGLE PUNCTUATION
cOENICIAN LETTER AINtLFsBETsDELTsGAMLsHEuTsKAFsLAMDsMEMsNUNsPEsQOFsROSHsSADEtEMKtHINsTAUtETsWAUsYOD
sZAIlNUMBER ONEv HUNDREDsTENtHREEtWENTYuOlWORD SEPARATORdLUSbICKeUP TRUCKcEcGd FACEeNOSEcLCROW SIGN
dE OF POOdLcNATAdCHED FINGERSfING HANDdE DECORATIONeAPPLEdWHEEL STARcSCESdTOLcTCHFORKj WITH TEE TOP
bLACARDeE OF INTEREST SIGNjWORSHIPdNCK CONSTANTp OVER TWO PIdYGROUND SLIDEeING CARD ACE OF CLUBS
uDIAMONDSuHEARTSuSPADESnBACKoLACK JOKERnEIGHT OF CLUBSwDIAMONDSwHEARTSwSPADESnFIVE OF CLUBS
vDIAMONDSvHEARTSvSPADESoOOLpUR OF CLUBSvDIAMONDSvHEARTSvSPADESnJACK OF CLUBSvDIAMONDSvHEARTSvSPADES
nKING OF CLUBSvDIAMONDSvHEARTSvSPADESoNIGHT OF CLUBSxDIAMONDSxHEARTSxSPADESnNINE OF CLUBSvDIAMONDS
vHEARTSvSPADESnQUEEN OF CLUBSwDIAMONDSwHEARTSwSPADESnRED JOKERnSEVEN OF CLUBSwDIAMONDSwHEARTS
wSPADESoIX OF CLUBSuDIAMONDSuHEARTSuSPADESnTEN OF CLUBSuDIAMONDSuHEARTSuSPADESoHREE OF CLUBS
wDIAMONDSwHEARTSwSPADESoRUMP-1u0u1u2u3u4u5u6u7u8u9t2u0u1t3t4t5t6t7t8t9oWO OF CLUBSuDIAMONDSuHEARTS
uSPADESnWHITE JOKERcDcUdNGERdS SIGNj ABOVE EQUALS SIGNkIN LEFT HALF CIRCLEnRIGHT HALF CIRCLE
nTRIANGLEkWITH BLACK TRIANGLEpCIRCUMFLEX ACCENT ABOVEpDOT BELOWpSMALL CIRCLE ABOVEqUBSCRIPT TWO
pTILDE ABOVEvBELOWe-MINUS SIGNdTOf FORM FIVEmOURlTHREEmWObMbOCKET CALCULATORcLICE CAR
kS REVOLVING LIGHThOFFICERcODLEcP DIRECTIONAL FORMATTINGqISOLATEdCORNcRTABLE STEREOcSEIDON
dITION INDICATORdTAL HORNhMARKl FACEeBOXcT OF FOODdABLE WATER SYMBOLeTOdTED PLANTcUCHdLTRY LEG
dND SIGNdRING LIQUIDdTING CAT FACEiFACEcWER ON SYMBOLi-OFF SYMBOLgSLEEP SYMBOLhYMBOLbRAYER BEADS
cECEDESi ABOVE ALMOST EQUAL TOpEQUALS SIGNpNOT ALMOST EQUAL TOtEQUAL TOpSINGLE-LINE EQUALS SIGN
zE NOT EQUAL TOjBUT NOT EQUIVALENT TOjOR EQUAL TOpIVALENT TOjUNDER RELATIONdGNANT MANjPERSONjWOMAN
dSCRIPTION TAKEeENTATION FORM FOR VERTICAL COLONzTICAL COMMAzTICAL EM DASHzTICAL EN DASH
zTICAL EXCLAMATION MARKzTICAL HORIZONTAL ELLIPSISzTICAL IDEOGRAPHIC COMMA
zTICAL IDEOGRAPHIC FULL STOPzTICAL LEFT ANGLE BRACKETzTICAL LEFT BLACK LENTICULAR BRACKET
zTICAL LEFT CORNER BRACKETzTICAL LEFT CURLY BRACKETzTICAL LEFT DOUBLE ANGLE BRACKET
zTICAL LEFT PARENTHESISzTICAL LEFT SQUARE BRACKETzTICAL LEFT TORTOISE SHELL BRACKET
zTICAL LEFT WHITE CORNER BRACKETzTICAL LEFT WHITE LENTICULAR BRACKETzTICAL LOW LINE
zTICAL QUESTION MARKzTICAL RIGHT ANGLE BRACKETzTICAL RIGHT BLACK LENTICULAR BRACKET
zTICAL RIGHT CORNER BRACKETzTICAL RIGHT CURLY BRACKETzTICAL RIGHT DOUBLE ANGLE BRACKET
zTICAL RIGHT PARENTHESISzTICAL RIGHT SQUARE BRACKETzTICAL RIGHT TORTOISE SHELL BRACKET
zTICAL RIGHT WHITE CORNER BRACKETzTICAL RIGHT WHITE LENTICULAR BRACKET
zTICAL RIGHT WHITE LENTICULAR BRAKCETzTICAL SEMICOLONzTICAL TWO DOT LEADERzTICAL WAVY LOW LINEdTZEL
dVIOUS PAGEcIMEdNCEgSSeT SCREEN SYMBOLfERh ICONdVACY MESSAGEfTE USE ONEmTWOl-1m2cOBING CANE
dHIBITED SIGNdJECTIVEdPERTY LINEeORTIONkAL TOdSERPINAbSALTER PAHLAVI FOUR DOTS WITH CROSSz WITH DOT
qLETTER ALEPHxBETHxDALETHxGIMELxHEzTHxKAPHxLAMEDHxMEM-QOPHxNUNxPExSADHEzMEKHyHINxTAWxWAW-AYIN-RESH
xYODHxZAYINqNUMBER FOURxONEzE HUNDREDxTENyHREEyWENTYzOqSECTION MARKqTURNED SECTION MARKbU1c2
cBLIC ADDRESS LOUDSPEAKERcNCTUATION SPACEgS ELEVATUS MARKcRPLE HEARTdSEcSHPIN
cT LITTER IN ITS PLACE SYMBOLaQUADRANT LOWER LEFTpRIGHTjUPPER LEFTt AND LOWER LEFT AND LOWER RIGHT
zOWER RIGHTyUPPER RIGHT AND LOWER LEFTzPPER RIGHT AND LOWER RIGHTpRIGHTu AND LOWER LEFT
zLOWER LEFT AND LOWER RIGHTfUPLE INTEGRAL OPERATORkPRIMEdRTER NOTEdTERNION INTEGRAL OPERATOR
cESTION EXCLAMATION MARKjMARKiED EQUAL TOcINCUNXcOTATION MARKaRABBITg FACEcCCOONdING CARhMOTORCYCLE
cDICAL SYMBOL BOTTOMeOf BUTTONfACTIVE SIGNcILWAY CARiTRACKdNeBOWdSED BACK OF HANDhCOMMAhDOT
kTED INTERPOLATION MARKERhFISThHANDl WITH FINGERS SPLAYEDrPART BETWEEN MIDDLE AND RING FINGERS
hINTERPOLATION MARKERhMC SIGNiD SIGNiR SIGNhSQUAREcMcTdIOcZORbECEIPTdORD SEPARATOR
dREATIONAL VEHICLEdYCLED PAPER SYMBOLgING SYMBOL FOR GENERIC MATERIALSvTYPE-1 PLASTICSz-2 PLASTICS
z-3 PLASTICSz-4 PLASTICSz-5 PLASTICSz-6 PLASTICSz-7 PLASTICScD APPLEeGIFT ENVELOPEcFERENCE MARK
cGIONAL INDICATOR SYMBOL LETTER Az LETTER Bz LETTER Cz LETTER Dz LETTER Ez LETTER Fz LETTER G
z LETTER Hz LETTER Iz LETTER Jz LETTER Kz LETTER Lz LETTER Mz LETTER Nz LETTER Oz LETTER P
z LETTER Qz LETTER Rz LETTER Sz LETTER Tz LETTER Uz LETTER Vz LETTER Wz LETTER Xz LETTER Y
z LETTER ZeSTERED SIGNcJANG CONSONANT SIGN HwNxGwRhLETTER AoBAoCAoDAoGAoHAoJAoKAoLAoMApBAoNApDApGA
qGApYAqJAoPAoRAoSAoTAoWAoYAhSECTION MARKhVIRAMAiOWEL SIGN AItUsEtAtUsIsOsUcLIEVED FACE
cMINDER RIBBONcPLACEMENT CHARACTERcSPONSEdTRICTED LEFT ENTRY-1w2fOOMcTURN LEFThRIGHThSYMBOL
cVERSE CHECKER BOARDiINDEXiLIGHT FOUR POINTED PINWHEEL STARkNE FEEDiSOLIDUSp OPERATOR
qPRECEDING SUBSETqWITH HORIZONTAL STROKEiTILDE OPERATOR ABOVE LEFTWARDS ARROWzOVE RIGHTWARDS ARROW
hD ANGLEo WITH UNDERBARjCOMMAjDOUBLE PRIMEv QUOTATION MARKqSTROKE NOT SIGNjEMPTY SET
jFORKED PARAGRAPHOSjHAND WITH MIDDLE FINGER EXTENDEDjNOT SIGNjPILCROW SIGNkRIMEjQUESTION MARK
jRAISED HAND WITH FINGERS SPLAYEDkIGHT ANGLEkOTATED FLORAL HEART BULLETjSANS-SERIF CAPITAL L
kEMICOLONjTHUMBS DOWN SIGNqUP SIGNkILDEo EQUALSkRIPLE PRIMEjVICTORY HANDdOLVING HEARTSbHINOCEROSbI
cAL SIGNcBBONg ARROW DOWN LEFTsRIGHTnLEFT DOWNsUPnRIGHT DOWNtUPnUP LEFTqRIGHTcCE BALLfCRACKERcFLE
cGHT AND LOWER ONE EIGHTH BLOCKkUPPER ONE EIGHTH BLOCKiGER BUBBLEjLEl BRACKETt WITH DOT
mDOTTED SUBSTITUTION MARKERmSUBSTITUTION MARKERmVARIANT WITH SQUAREmWITH ARCrDOWNWARDS ZIGZAG ARROW
hRC GREATER-THAN BRACKETiROW WITH CIRCLED PLUSrSMALL CIRCLEgBLACK LENTICULAR BRACKET
mTORTOISE SHELL BRACKETgCEILINGhORNER BRACKEThURLY BRACKETt LOWER HOOKuMIDDLE PIECEuUPPER HOOK
gDOTTED SUBSTITUTION BRACKETiUBLE ANGLE BRACKEToRROW WITH ROUNDED HEADnPARENTHESISnQUOTATION MARK
nWIGGLY FENCEgFISH TAILiVE EIGHTHS BLOCKhLOORgHALF BLACK CIRCLErSTARnOCKlFOLDERlMEDIUM SHADE
lRUNNING MANiND TELEPHONE RECEIVERgLOW PARAPHRASE BRACKETgNORMAL FACTOR SEMIDIRECT PRODUCT
gONE EIGHTH BLOCKkQUARTER BLOCKhPEN SQUARED DOThUTER JOINgPARENTHESISr EXTENSIONsLOWER HOOK
sUPPER HOOKgRAISED OMISSION BRACKETgS-SHAPED BAG DELIMITERhEMIDIRECT PRODUCTiVEN EIGHTHS BLOCK
hIDEWAYS U BRACKETiNGLE QUOTATION MARKhPEAKERn WITH ONE SOUND WAVEtTHREE SOUND WAVESjECH BUBBLE
hQUARE BRACKETu EXTENSIONvLOWER CORNERvUPPER CORNERvWITH DOUBLE STROKEz QUILLz STROKE
z TICK IN BOTTOM CORNERz TICK IN TOP CORNERz UNDERBARhUBSTITUTION BRACKETgTACK
hHIRD WHITE RIGHT POINTING INDEXiOUGHT BUBBLEiREE EIGHTHS BLOCKmQUARTERS BLOCK
hORTOISE SHELL BRACKEThRANSPOSITION BRACKETiIANGLEo ABOVE LEFT TRIANGLEmULAR ONE QUARTER BLOCK
gVERTICAL BAR WITH QUILLqOX LINEgWHITE CORNER BRACKETnURLY BRACKETmLENTICULAR BRACKETmPARENTHESIS
mSQUARE BRACKETmTORTOISE SHELL BRACKEThIGGLY FENCEf-FACING ARMENIAN ETERNITY SIGNnFISTnSVASTI SIGN
y WITH DOTSgHANDED INTERLACED PENTAGRAMgPOINTING ANGLE BRACKETpCURVED ANGLE BRACKET
pDOUBLE ANGLE QUOTATION MARKpMAGNIFYING GLASSgSHADED WHITE RIGHTWARDS ARROWhIDE ARC CLOCKWISE ARROW
gTO-LEFT EMBEDDINGoISOLATEoMARKoOVERRIDEfHAND INTERIOR PRODUCTfWARDS ARROWq ABOVE ALMOST EQUAL TO
xREVERSE ALMOST EQUAL TOzVERSE TILDE OPERATORxSHORT LEFTWARDS ARROWxTILDE OPERATOR
sND UPPER AND LOWER ONE EIGHTH BLOCKrFROM BARz TO BLACK DIAMONDrOVER LEFTWARDS ARROW
rTHROUGH GREATER-THANzSUPERSETzXsO BARvLACK DIAMONDrWITH CORNER DOWNWARDSwDOTTED STEM
yUBLE VERTICAL STROKEwEQUILATERAL ARROWHEADwHOOKwLARGE TRIANGLE ARROWHEADxOOP
wMEDIUM TRIANGLE ARROWHEADwNOTCHED TAILwPLUS BELOWwSMALL EQUILATERAL ARROWHEAD
zLL TRIANGLE ARROWHEADxTROKEwTAILzL WITH DOUBLE VERTICAL STROKEzL WITH VERTICAL STROKExIP DOWNWARDS
z UPWARDSwVERTICAL STROKEq-TAILlBACK-TILTED SHADOWED WHITE ARROWmLACK ARROWrCIRCLED WHITE ARROW
mOTTOM SHADED WHITE ARROWlCOMPRESSED ARROWlDASHED ARROWmOUBLE ARROWx FROM BARyWITH STROKE
zITH VERTICAL STROKEx-TAILsDASH ARROWlFINGER-POST ARROWmRONT-TILTED SHADOWED WHITE ARROWlHAND
nRPOON OVER LEFTWARDS HARPOONtWITH BARB DOWN ABOVE LEFTWARDS HARPOON WITH BARB DOWN
zARB DOWN BELOW LONG DASHzARB DOWN FROM BARzARB DOWN TO BARzARB DOWNWARDS
zARB UP ABOVE LEFTWARDS HARPOON WITH BARB UPzARB UP ABOVE LONG DASH
zARB UP ABOVE RIGHTWARDS HARPOON WITH BARB DOWNzARB UP FROM BARzARB UP TO BARzARB UPWARDS
mEAVY ARROWrCOMPRESSED ARROWlLEFT-SHADED WHITE ARROWlOPEN-HEADED ARROWlPAIRED ARROWS
lQUADRUPLE ARROWlRIGHT-SHADED WHITE ARROWmOCKETlSANS-SERIF ARROWmQUARED ARROWoIGGLE ARROW
lTOP SHADED WHITE ARROWmRIANGLE ARROWHEADt-HEADED ARROW
zD ARROW OVER LEFTWARDS TRIANGLE-HEADED ARROWzD ARROW TO BARzD ARROW WITH BOLD SHAFT
zD ARROW WITH DOUBLE HORIZONTAL STROKEzD ARROW WITH DOUBLE VERTICAL STROKEzD ARROW WITH HEAVY SHAFT
zD ARROW WITH LONG TIP DOWNWARDSzD ARROW WITH LONG TIP UPWARDSzD ARROW WITH MEDIUM SHAFT
zD ARROW WITH NARROW SHAFTzD ARROW WITH VERY HEAVY SHAFTzD DASHED ARROWzD PAIRED ARROWSoPLE ARROW
sDASH ARROWmWO HEADED ARROWo-HEADED ARROW FROM BARzOW WITH DOUBLE VERTICAL STROKEzOW WITH TAIL
zOW WITH TAIL WITH DOUBLE VERTICAL STROKEzOW WITH TAIL WITH VERTICAL STROKE
zOW WITH TRIANGLE ARROWHEADSzOW WITH VERTICAL STROKEwTRIPLE DASH ARROWlWAVE ARROWmHITE ARROW
w FROM WALLxWITHIN TRIANGLE ARROWHEADcNGe ABOVEfBUOYfEQUAL TOfIN EQUAL TOfOPERATORfPOINTeED PLANET
eING BELLcSING DIAGONAL CROSSING FALLING DIAGONALzSOUTH EAST ARROWbLEcIcMcObOASTED SWEET POTATO
cBOT FACEcCKeETcLL OF PAPEReED-UP NEWSPAPERfR COASTERhSKATEeING ON THE FLOOR LAUGHINGcMAN AS SIGN
gCENTURIAL SIGNgDENARIUS SIGNhIMIDIA SEXTULA SIGNhUPONDIUS SIGNgNUMERAL EIGHTpLEVENoFIFTY
t EARLY FORMuTHOUSANDqVEs HUNDREDtTHOUSANDpOURoNINEoONEr HUNDREDz THOUSANDsTHOUSANDzD C D
oREVERSED ONE HUNDREDoSEVENpIXr LATE FORMoTENr THOUSANDpHREEpWELVEqOgQUINARIUS SIGNgSEMUNCIA SIGN
iSTERTIUS SIGNiXTANS SIGNkULA SIGNhILIQUA SIGNgUNCIA SIGNcOSTERcSEeTTEcTATED CAPITAL Q
iFLORAL HEART BULLETiHEAVY BLACK HEART BULLETiLIGHT FOUR POINTED BLACK CUSPiWHITE FOUR POINTED CUSP
cUND PUSHPINgTARGETfED SYMBOL FOR CAItFUtLUtSHOUvUANGXItXIcWBOATbSbUBLE SIGNcGBY FOOTBALL
cLE-DELAYEDcMI DIGIT EIGHTlFIVEmOURlNINElONElSEVENmIXlTHREEmWOfFRACTION ONE HALFsQUARTERsTHIRD
oTWO THIRDSfNUMBER EIGHT HUNDREDrYmFIFTYoVE HUNDREDnORTYoUR HUNDREDmNINE HUNDREDqTYmONE HUNDRED
mSEVEN HUNDREDrTYnIX HUNDREDpTYmTENnHIRTYoREE HUNDREDnWENTYoO HUNDREDcNIC ARLAUG SYMBOL
gBELGTHOR SYMBOLgCROSS PUNCTUATIONgLETTER AC AoESCoLGIZ EOLHXoNSUZ AnBERKANAN BEORC BJARKAN BnCoALC
oEALCpNoWEORTHnDoAGAZ DAEG DoOTTED-LuNuPnEoARoHWAZ EH EoNGoTHnFEHU FEOH FE FoRANKS CASKET ACzT AESC
zT EHzT ISzT OSnGoARoEBO GYFU GpRnHAEGL HpGLAZ HnICELANDIC-YRoNGqWAZoORoSAZ IS ISS IoWAZ EOH
nJERAN JnKoAUN KrAnLAUKAZ LAGU LOGR LoONG-BRANCH-AR AEzHAGALL HzMADR MzOSS OzYRnMANNAZ MAN M
nNAUDIZ NYD NAUD NnOoEoNoOoPEN-PoS OoTHALAN ETHEL OnPERTHO PEORTH PnQnRAIDO RAD REID RnSH
pORT-TWIG-AR AyBJARKAN ByHAGALL HyMADR MyNAUD NyOSS OySOL SyTYR TyYRoIGEL LONG-BRANCH-SOL SoOWILO S
oTANnTHURISAZ THURS THORNoIWAZ TIR TYR TnURUZ UR UnVnWoUNJO WYNN WnXnYoRnZgMULTIPLE PUNCTUATION
gSINGLE PUNCTUATIONgTVIMADUR SYMBOLdNEReING SHIRT WITH SASHcPEE SIGN
cSSIAN ASTROLOGICAL SYMBOL BINOVILEzOL NOVILEzOL QUINTILEzOL SENTAGONzOL TREDECILEzOL VIGINTILE
aS IN TRIANGLEbAFETY PINhVESTcGITTARIUScILBOATcKE BOTTLE AND CUPcLT SHAKEReIREdUTING FACE
cMARITAN ABBREVIATION MARKkLETTER ALAFrBAAsITrDALATrFIrGAMANrINsTsYrKAAFrLABATrMIMrNUNrQUFrRISH
rSHANsINGAATrTAAFsITsSAADIYrYUTrZENkMARK DAGESHpEPENTHETIC YUTpINr-ALAFpNEQUDAApOCCLUSION
lODIFIER LETTER EPENTHETIC YUTz Iz SHORT AkPUNCTUATION AFSAAQxNGEDyNAAUxRKAANUxTMAAUwBAU
wMELODIC QITSAwNEQUDAAwQITSAwSHIYYAALAAxOF MASHFAATwTURUwZAEFxIQAAkVOWEL SIGN AwAvEvIvLONG Az AAz E
z Iz UvOwVERLONG AzLONG AAvSHORT AwUKUNvUcNDWICHdS-SERIF HEAVY DOUBLE COMMA QUOTATION MARK ORNAMENT
yTURNED COMMA QUOTATION MARK ORNAMENTrLOW DOUBLE COMMA QUOTATION MARK ORNAMENTlINTERROBANG ORNAMENT
cRIcTELLITEj ANTENNAdURNcURASHTRA CONSONANT SIGN HAARUlDANDAmIGIT EIGHTrFIVEsOURrNINErONErSEVENsIX
rTHREEsWOrZEROmOUBLE DANDAlLETTER AtAtItUsBAtHAsCAtHAsDAtDAuHAtHAsEtEsGAtHAsHAsItIsJAtHAsKAtHAsLA
tLAsMAsNAtGAtNAtYAsOtOsPAtHAsRAsSAtHAtSAsTAtHAtTAuHAsUtUsVAtOCALIC Lz LLz Rz RRsYAlSIGN ANUSVARA
qCANDRABINDUqVIRAMAsSARGAlVOWEL SIGN AAxIxUwExEwIxIwOxOwUxUwVOCALIC LzALIC LLzALIC RzALIC RReOPOD
cXOPHONEbCALESdRFcHOOLg SATCHELcIcOOTERdRPIONgUScREENeWDRIVERdIPT CAPITAL BpEpFpHpIpLpMpPpR
hLIGATURE ET ORNAMENThSMALL EnGnLnOdOLLdUPLEbEALdTcCOND PLACE MEDALdTION SIGNeORcDNA
cE-NO-EVIL MONKEYdDLINGcGMENThED DIGIT EIGHTqFIVErOURqNINEqONEqSEVENrIXqTHREErWOqZEROcLFIEcMICOLON
eDIRECT PRODUCT WITH BOTTOM CLOSEDeSEXTILEcPARATED SYMBOLcRIOUS FACE WITH SYMBOLS COVERING MOUTH
dVICE MARKcSAME DOTdQUIQUADRATEcT MINUSeTRANSMIT STATEcWING NEEDLEcXTILEbGCbHADOWED WHITE CIRCLE
pLATIN CROSSpSTARdLLOW PAN OF FOODdMROCKdRADA ABBREVIATION SIGNiCONTINUATION SIGNiDANDAjIGIT EIGHT
oFIVEpOURoNINEoONEoSEVENpIXoTHREEpWOoZEROjOUBLE DANDAiEKAMjXTRA SHORT VOWEL MARKiHEADSTROKE
iLETTER AqAqIqUpBAqHApCAqHApDAqDArHAqHApEpGAqHApHApIqIpJAqHApKAqHApLAqLApMApNAqGAqNAqYApOpPAqHApRA
pSAqHAqSApTAqHAqTArHApUqUpVAqOCALIC LyLxRyRpYAiOMiSANDHI MARKjECTION MARK-1v2kPARATORjIGN ANUSVARA
oVAGRAHAnCANDRABINDUnINVERTED CANDRABINDUnJIHVAMULIYAnNUKTAnSIDDHAMnUPADHMANIYAnVIRAMApSARGA
jUTRA MARKiVOWEL MODIFIER MARKoSIGN AAuIuUtEtIuItOtPRISHTHAMATRA EtUuUtVOCALIC LzC LLzC RzC RReK
dVED ICEeIAN LETTER ADOqGEqHqIRqRErRAYqSHqWEpBIBpCHURCHpDEADpEARrTqGGqRRpFEEpGAGpHA-HAqUNGpIANqCEqF
pJUDGEpKICKpLOLLpMEASUREqIMEpNUNpOAKqILqNqOZEqRqUTpPEEPpROARpSOqUREpTHEYrIGHqOTpUPpVOWpWOErOLpYEArW
pZOOcEEPcIELDdFT INgOUTdNTO SHRINEdPcOCKED FACE WITH EXPLODING HEADdOTING STARdPPING BAGSjTROLLEY
dRT BACKSLANTED SOUTH ARROWhENT ARROW POINTING DOWNWARDS THEN NORTH EASTgDOWN TACKp WITH OVERBAR
gLEFT TACKgRIGHTWARDS ARROW ABOVE LEFTWARDS ARROWgSLANTED NORTH ARROWgUP TACK
n ABOVE SHORT DOWN TACKoWITH UNDERBARfCAKEfHAND FORMAT CONTINUING OVERLAPrDOWN STEPrLETTER OVERLAP
rUP STEPfSdULDERED OPEN BOXdWERcRIMPdUGcUFFLE PRODUCTcYbIcDDHAM DANDAjOUBLE DANDAiEND OF TEXT MARK
iLETTER AqAqIqLTERNATE UqUpBAqHApCAqHApDAqDArHAqHApEpGAqHApHApIqIpJAqHApKAqHApLApMApNAqGAqNAqYApO
pPAqHApRApSAqHAqSApTAqHArREE-CIRCLE ALTERNATE IqTArHAqWO-CIRCLE ALTERNATE Iz ALTERNATE IIpUqUpVA
qOCALIC LyLxRyRpYAiREPETITION MARK-1y2y3iSECTION MARK DOUBLE RINGzLE RING WITH RAYS
vWITH CIRCLES AND FOUR ENCLOSURESz CIRCLES AND RAYSz CIRCLES AND TWO ENCLOSURESz DOUBLE CRESCENTS
z QUADRUPLE CRESCENTSz RAYS AND DOTTED CRESCENTSz RAYS AND DOTTED DOUBLE CRESCENTS
z RAYS AND DOTTED TRIPLE CRESCENTSz SEPTUPLE CRESCENTSz TRIDENT AND DOTTED CRESCENTS
z TRIDENT AND U-SHAPED ORNAMENTSz TRIPLE CRESCENTSkPARATOR BARsDOTjIGN ANUSVARAnCANDRABINDUnNUKTA
nSIDDHAMnVIRAMApSARGAiVOWEL SIGN AAuIuLTERNATE UzATE UUuUtEtIuItOtUuUtVOCALIC RzC RR
dEWAYS BLACK DOWN POINTING INDEXpLEFT POINTING INDEXpRIGHT POINTING INDEXpUP POINTING INDEX
jWHITE DOWN POINTING INDEXpLEFT POINTING INDEXpRIGHT POINTING INDEXpUP POINTING INDEX
cGN OF THE HORNSeWRITING AIR BLOW SMALL ROTATIONSuING OUTqSUCK SMALL ROTATIONSuING INmBREATH EXHALE
tINHALEoUSH BETWEENsMULTIPLEsSINGLEmCHEEKS NEUTRALtPUFFEDtSUCKEDnOLONoMMA
mDREAMY EYEBROWS DOWN NEUTRALzWS NEUTRAL DOWNzWS NEUTRAL UPzWS UP NEUTRALnYNAMIC ARROWHEAD LARGE
zHEAD SMALLuEVERY OTHER TIMEuFASTuGRADUALuRELAXEDuSIMULTANEOUSzTANEOUS ALTERNATINGvLOWuTENSEmEARS
nXCITEMENTnYE BLINK MULTIPLEwSINGLEqWINKpBROWS STRAIGHT DOWNzIGHT NEUTRALzIGHT UP
pGAZE-FLOORPLANE CURVEDzPLANE STRAIGHTzPLANE STRAIGHT ALTERNATINGzPLANE STRAIGHT DOUBLE
uWALLPLANE CIRCLINGzLANE CURVEDzLANE STRAIGHTzLANE STRAIGHT ALTERNATINGzLANE STRAIGHT DOUBLE
pLASHES DOWNwFLUTTERINGwUPpS CLOSEDrHALF CLOSEDwOPENrOPENrSQUEEZEDrWIDE OPENvNING MOVEMENT
mFACE DIRECTION POSITION NOSE FORWARD TILTINGzN POSITION NOSE UP OR DOWN
zN POSITION NOSE UP OR DOWN TILTINGnILL MODIFIER-2z-3z-4z-5z-6oNGERnLICK LARGE MULTIPLEySINGLE
sSEQUENTIALtMALL MULTIPLEySINGLEoOORPLANE SHOULDER HIP MOVEnOREHEAD CONTACTvNEUTRALvWRINKLED
nULL STOPmGRASP BETWEENsMULTIPLEsSINGLEmHAIRoND-ANGLEw INDEXzDEX MIDDLE LITTLEzDEX MIDDLE RING
zDEX RING LITTLEzDEX RING LITTLE OUTzDEX THUMBzDEX THUMB INzDEX THUMB OUTxLITTLE INDEX
zTTLE INDEX THUMB INDEX THUMBzTTLE INDEX THUMB INDEX THUMB OUTzTTLE UPxMIDDLE RING LITTLE
zDDLE RING LITTLE INzDDLE RING LITTLE OUTxRING DOWN MIDDLE THUMB INDEX CROSSzNG LITTLErCIRCLE
x INDEXzNDEX BENTzNDEX HINGEzNDEX MIDDLEzNDEX MIDDLE CROSS LITTLEzNDEX MIDDLE CROSSED
zNDEX MIDDLE LITTLEzNDEX MIDDLE RINGzNDEX MIDDLE THUMBzNDEX RING LITTLEyLITTLE INDEXzITTLE UP
yMIDDLE RING LITTLEzIDDLE RING LITTLE BENTzIDDLE UPyRING LITTLEsLAWv FOUR FINGERS CONJOINED
wINDEX THUMB CURVE THUMB INSIDEwMIDDLE RING LITTLE CONJOINEDzDLE RING LITTLE CONJOINED SIDE
wNO THUMBwTHUMB FORWARDzMB SIDEsUPu FIVE FINGERS SPREADz FINGERS SPREAD OPENvINDEXzX RING LITTLE
zX THUMBzX THUMB OPENvMIDDLE RING LITTLEvNO THUMBvOPENz NO THUMBz THUMB FORWARDz THUMB SIDE
vTHUMB FORWARDzB SIDEtRLICUEz INDEX RING LITTLE ONz MIDDLE RING LITTLE ONz OPENrFIST
v FOUR FINGERS CONJOINED BENTwHEELwINDEXzEX BENTzEX BENT OVER MIDDLEzEX CUPPEDzEX HINGED
zEX HINGED LOWzEX HINGED MIDDLE UPzEX HINGED MIDDLE UP THUMB SIDEzEX MIDDLEzEX MIDDLE BENT
zEX MIDDLE BENT THUMB STRAIGHTzEX MIDDLE CONJOINEDzEX MIDDLE CONJOINED CUPPED
zEX MIDDLE CONJOINED CUPPED THUMB FORWARDzEX MIDDLE CONJOINED HINGED
zEX MIDDLE CONJOINED HINGED THUMB SIDEzEX MIDDLE CONJOINED INDEX BENT
zEX MIDDLE CONJOINED MIDDLE BENTzEX MIDDLE CONJOINED THUMB FORWARDzEX MIDDLE CONJOINED THUMB SIDE
zEX MIDDLE CONJOINED THUMB SIDE BENTzEX MIDDLE CONJOINED THUMB SIDE CONJOINED
zEX MIDDLE CROSS LITTLEzEX MIDDLE CROSSEDzEX MIDDLE CROSSED THUMB SIDEzEX MIDDLE HINGED
zEX MIDDLE HINGED SPREAD THUMB SIDEzEX MIDDLE LITTLEzEX MIDDLE RAISED KNUCKLESzEX MIDDLE RING
zEX MIDDLE RING BENTzEX MIDDLE RING CONJOINEDzEX MIDDLE STRAIGHT THUMB BENTzEX MIDDLE THUMB
zEX MIDDLE THUMB ANGLEDzEX MIDDLE THUMB ANGLED OUTzEX MIDDLE THUMB BENTzEX MIDDLE THUMB CIRCLED
zEX MIDDLE THUMB CONJOINED HINGEDzEX MIDDLE THUMB CUPPEDzEX MIDDLE THUMB HINGED
zEX MIDDLE THUMB HOOKEDzEX MIDDLE UP SPREAD THUMB FORWARDzEX RAISED KNUCKLEzEX RING LITTLE
zEX THUMB ANGLED IN MIDDLE UPzEX THUMB ANGLED OUT MIDDLE UPzEX THUMB CIRCLE
zEX THUMB CIRCLED MIDDLE UPzEX THUMB CUPPED MIDDLE UPzEX THUMB CURLICUEzEX THUMB CURVE THUMB INSIDE
zEX THUMB CURVE THUMB UNDERzEX THUMB FORWARD INDEX BENTzEX THUMB FORWARD INDEX STRAIGHT
zEX THUMB HOOKzEX THUMB HOOKED MIDDLE HINGEDzEX THUMB HOOKED MIDDLE UPzEX THUMB SIDE
zEX THUMB SIDE BOTH BENTzEX THUMB SIDE INDEX BENTzEX THUMB SIDE INDEX HINGE
zEX THUMB SIDE THUMB BENTzEX THUMB SIDE THUMB CONJOINEDzEX THUMB SIDE THUMB DIAGONAL
zEX UP MIDDLE HINGEDzEX UP MIDDLE HINGED THUMB CONJOINEDzEX UP MIDDLE HINGED THUMB SIDEwLITTLE BENT
zTLE DOWNzTLE DOWN OTHERS CIRCLEDzTLE DOWN RIPPLE CURVEDzTLE DOWN RIPPLE STRAIGHTzTLE INDEX
zTLE INDEX THUMBzTLE RAISED KNUCKLEzTLE THUMBzTLE TOUCHES THUMBzTLE UPwMIDDLE BENT OVER INDEX
zDLE DOWNzDLE LITTLEzDLE RAISED KNUCKLEzDLE RING LITTLEzDLE THUMB ANGLED INDEX UP
zDLE THUMB ANGLED OUT INDEX CROSSEDzDLE THUMB ANGLED OUT INDEX UPzDLE THUMB CIRCLED INDEX HINGED
zDLE THUMB CIRCLED INDEX UPzDLE THUMB CUPPED INDEX UPzDLE THUMB HOOKED INDEX UPzDLE THUMB LITTLE
zDLE UPzDLE UP THUMB SIDEwRING DOWNzG INDEXzG LITTLEzG MIDDLEzG MIDDLE CONJOINED
zG MIDDLE RAISED KNUCKLESzG RAISED KNUCKLEzG THUMBzG UPwTHUMBzMB BETWEEN INDEX MIDDLE
zMB BETWEEN INDEX MIDDLE STRAIGHTzMB BETWEEN MIDDLE RINGzMB BETWEEN RING LITTLEzMB FORWARDzMB HEEL
zMB OVER FOUR RAISED KNUCKLESzMB OVER TWO FINGERSzMB SIDE BENTzMB SIDE CONJOINEDzMB SIDE DIAGONAL
zMB UNDER FOUR FINGERSzMB UNDER INDEX BENTzMB UNDER LITTLE UPzMB UNDER THREE FINGERS
zMB UNDER TWO FINGERSsLATv BETWEEN PALM FACINGSwFIVE FINGERS SPREADzE FINGERS SPREAD BENT
zE FINGERS SPREAD FOUR BENTzE FINGERS SPREAD HINGEDzE FINGERS SPREAD HINGED NO THUMB
zE FINGERS SPREAD HINGED THUMB SIDEzE FINGERS SPREAD THUMB FORWARDxOUR FINGERSzR FINGERS BENT
zR FINGERS CONJOINEDzR FINGERS CONJOINED SPLITzR FINGERS HINGEDwHEELzL FIVE FINGERS SPREAD
zL FIVE FINGERS SPREAD BENTzL FIVE FINGERS SPREAD FOUR BENTzL THUMB SIDEwSPLIT CENTRE
zIT CENTRE THUMB SIDEzIT CENTRE THUMB SIDE BENTzIT INDEX THUMB SIDEzIT LITTLEwTHUMB BENTzMB FORWARD
zMB SIDErHINGEw FIVE FINGERS SPREAD OPENyOUR FINGERS CONJOINEDxINDEXzDEX HINGEDzDEX MIDDLE LITTLE
zDEX MIDDLE RINGzDEX MIDDLE RING CONJOINEDzDEX RING LITTLEzDEX THUMBzDEX THUMB LARGEzDEX THUMB OPEN
zDEX THUMB SIDEzDEX THUMB SMALLxLITTLEzTTLE INDEXzTTLE INDEX THUMBzTTLE THUMBxMIDDLE
zDDLE RING LITTLExNO THUMBxOPENzEN NO THUMBzEN THUMB FORWARDzEN THUMB SIDExRING
zNG DOWN INDEX THUMB HOOK MIDDLExSMALLxTHUMB BETWEEN MIDDLE RINGzUMB SIDEzUMB SIDE TOUCHING INDEX
sOOKv CURLICUEwINDEX RING LITTLE INzEX RING LITTLE OUTzEX RING LITTLE UNDER
wMIDDLE RING LITTLE CONJOINEDzDLE RING LITTLE CONJOINED INzDLE RING LITTLE CONJOINED OUTzDLE THUMB
wRING THUMBrOVALv FIVE FINGERS SPREADwINDEXwLITTLE UPwNO THUMBwRING LITTLEwTHUMB FORWARDzMB SIDE
nEADq MOVEMENT CIRCLEz-FLOORPLANE CURVEz-FLOORPLANE STRAIGHTz-WALLPLANE CURVEz-WALLPLANE STRAIGHT
z-WALLPLANE TILTrRIMmLIMB COMBINATIONrLENGTH-1y2y3y4y5y6y7oP LOWER OVER UPPERqUPPER OVER LOWER
pS PRESSED TOGETHERnOCATION DEPTHvHEAD NECKxIGHTvLIMBS DIGITSvTORSOvWIDTHu-FLOORPLANE SPACE
vWALLPLANE SPACEmMOUTH CLOSED CONTACTzFORWARDzNEUTRALtORNERSsFROWNx OPENyWRINKLEDsKISSw FORWARD
xWRINKLEDsOPEN CIRCLExFORWARDxOVALzAL WRINKLEDzAL YAWNxRECTANGLEzCTANGLE WRINKLEDzCTANGLE YAWN
xWRINKLEDsSMILEx OPENyWRINKLEDsTENSEx FORWARDySUCKEDsWRINKLES DOUBLEzS SINGLE
oVEMENT-DIAGONAL AWAY LARGEzONAL AWAY LARGESTzONAL AWAY MEDIUMzONAL AWAY SMALL
zONAL BETWEEN AWAY LARGEzONAL BETWEEN AWAY LARGESTzONAL BETWEEN AWAY MEDIUMzONAL BETWEEN AWAY SMALL
zONAL BETWEEN TOWARDS LARGEzONAL BETWEEN TOWARDS LARGESTzONAL BETWEEN TOWARDS MEDIUM
zONAL BETWEEN TOWARDS SMALLzONAL TOWARDS LARGEzONAL TOWARDS LARGESTzONAL TOWARDS MEDIUM
zONAL TOWARDS SMALLvFLOORPLANE ARM CIRCLE HITTING WALL LARGE DOUBLE
zRPLANE ARM CIRCLE HITTING WALL LARGE SINGLEzRPLANE ARM CIRCLE HITTING WALL MEDIUM DOUBLE
zRPLANE ARM CIRCLE HITTING WALL MEDIUM SINGLEzRPLANE ARM CIRCLE HITTING WALL SMALL DOUBLE
zRPLANE ARM CIRCLE HITTING WALL SMALL SINGLEzRPLANE BENDzRPLANE BOX LARGEzRPLANE BOX MEDIUM
zRPLANE BOX SMALLzRPLANE CHECKzRPLANE CORNER LARGEzRPLANE CORNER MEDIUMzRPLANE CORNER SMALL
zRPLANE CROSSzRPLANE CURVE COMBINEDzRPLANE CURVE HITTING CEILING LARGE
zRPLANE CURVE HITTING CEILING SMALLzRPLANE CURVE HITTING FLOOR LARGE
zRPLANE CURVE HITTING FLOOR SMALLzRPLANE CURVE LARGEzRPLANE CURVE LARGESTzRPLANE CURVE MEDIUM
zRPLANE CURVE SMALLzRPLANE DOUBLE ALTERNATINGzRPLANE DOUBLE ALTERNATING WRIST FLEX
zRPLANE DOUBLE STRAIGHTzRPLANE DOUBLE WRIST FLEXzRPLANE FINGER CIRCLES HITTING WALL DOUBLE
zRPLANE FINGER CIRCLES HITTING WALL SINGLEzRPLANE FINGER CONTACT
zRPLANE HUMP HITTING CEILING LARGE DOUBLEzRPLANE HUMP HITTING CEILING LARGE TRIPLE
zRPLANE HUMP HITTING CEILING SMALL DOUBLEzRPLANE HUMP HITTING CEILING SMALL TRIPLE
zRPLANE HUMP HITTING FLOOR LARGE DOUBLEzRPLANE HUMP HITTING FLOOR SMALL DOUBLE
zRPLANE HUMP HITTING FLOOR TRIPLE LARGE TRIPLEzRPLANE HUMP HITTING FLOOR TRIPLE SMALL TRIPLE
zRPLANE HUMP SMALLzRPLANE JAWzRPLANE LOOP HITTING CEILING LARGE DOUBLE
zRPLANE LOOP HITTING CEILING LARGE SINGLEzRPLANE LOOP HITTING CEILING SMALL DOUBLE
zRPLANE LOOP HITTING CEILING SMALL SINGLEzRPLANE LOOP HITTING FLOOR LARGE DOUBLE
zRPLANE LOOP HITTING FLOOR LARGE SINGLEzRPLANE LOOP HITTING FLOOR SMALL DOUBLE
zRPLANE LOOP HITTING FLOOR SMALL SINGLEzRPLANE LOOP SMALLzRPLANE PEAKS LARGEzRPLANE PEAKS MEDIUM
zRPLANE PEAKS SMALLzRPLANE SHAKING PARALLELzRPLANE SINGLE STRAIGHT LARGE
zRPLANE SINGLE STRAIGHT LARGESTzRPLANE SINGLE STRAIGHT MEDIUMzRPLANE SINGLE STRAIGHT SMALL
zRPLANE SINGLE WRIST FLEXzRPLANE TRIPLE ALTERNATING MOVEMENTzRPLANE TRIPLE ALTERNATING WRIST FLEX
zRPLANE TRIPLE STRAIGHT MOVEMENTzRPLANE TRIPLE WRIST FLEXzRPLANE WAVE HITTING CEILING LARGE
zRPLANE WAVE HITTING CEILING SMALLzRPLANE WAVE HITTING FLOOR LARGEzRPLANE WAVE HITTING FLOOR SMALL
zRPLANE WAVE LARGEzRPLANE WAVE SMALLzRPLANE WAVE SNAKEzRPLANE WRIST CIRCLE HITTING WALL DOUBLE
zRPLANE WRIST CIRCLE HITTING WALL SINGLEzRPLANE ZIGZAG LARGEzRPLANE ZIGZAG MEDIUM
zRPLANE ZIGZAG SMALLvHINGE DOWN SEQUENTIALzE SIDE TO SIDE SCISSORSzE UP DOWN ALTERNATING LARGE
zE UP DOWN ALTERNATING SMALLzE UP DOWN LARGEzE UP DOWN SMALLzE UP SEQUENTIAL
vWALLPLANE ARM CIRCLE MEDIUM DOUBLEzPLANE ARM CIRCLE MEDIUM SINGLEzPLANE ARM CIRCLE SMALL DOUBLE
zPLANE ARM CIRCLE SMALL SINGLEzPLANE BEND LARGEzPLANE BEND MEDIUMzPLANE BEND SMALLzPLANE BOX LARGE
zPLANE BOX MEDIUMzPLANE BOX SMALLzPLANE CHECK LARGEzPLANE CHECK MEDIUMzPLANE CHECK SMALL
zPLANE CORNER LARGEzPLANE CORNER MEDIUMzPLANE CORNER ROTATIONzPLANE CORNER SMALLzPLANE CROSS
zPLANE CURVE HALF-CIRCLE LARGEzPLANE CURVE HALF-CIRCLE LARGESTzPLANE CURVE HALF-CIRCLE MEDIUM
zPLANE CURVE HALF-CIRCLE SMALLzPLANE CURVE HITTING CHESTzPLANE CURVE HITTING FRONT WALL
zPLANE CURVE QUARTER LARGEzPLANE CURVE QUARTER LARGESTzPLANE CURVE QUARTER MEDIUM
zPLANE CURVE QUARTER SMALLzPLANE CURVE THEN STRAIGHTzPLANE CURVE THREE-QUARTER CIRCLE MEDIUM
zPLANE CURVE THREE-QUARTER CIRCLE SMALLzPLANE CURVED CROSS MEDIUMzPLANE CURVED CROSS SMALL
zPLANE DOUBLE ALTERNATINGzPLANE DOUBLE ALTERNATING WRIST FLEXzPLANE DOUBLE STRAIGHT
zPLANE DOUBLE WRIST FLEXzPLANE FINGER CIRCLES DOUBLEzPLANE FINGER CIRCLES SINGLE
zPLANE FINGER CONTACTzPLANE HUMP HITTING CHESTzPLANE HUMP HITTING FRONT WALLzPLANE HUMP LARGE
zPLANE HUMP MEDIUMzPLANE HUMP SMALLzPLANE JAWzPLANE LOOP HITTING CHEST
zPLANE LOOP HITTING FRONT WALLzPLANE LOOP LARGEzPLANE LOOP MEDIUMzPLANE LOOP SMALL
zPLANE LOOP SMALL DOUBLEzPLANE PEAKS LARGEzPLANE PEAKS MEDIUMzPLANE PEAKS SMALLzPLANE SHAKING
zPLANE SINGLE STRAIGHT LARGEzPLANE SINGLE STRAIGHT LARGESTzPLANE SINGLE STRAIGHT MEDIUM
zPLANE SINGLE STRAIGHT SMALLzPLANE SINGLE WRIST FLEXzPLANE TRIPLE ALTERNATING
zPLANE TRIPLE ALTERNATING WRIST FLEXzPLANE TRIPLE STRAIGHT MOVEMENTzPLANE TRIPLE WRIST FLEX
zPLANE WAVE CURVE DOUBLE LARGEzPLANE WAVE CURVE DOUBLE MEDIUMzPLANE WAVE CURVE DOUBLE SMALL
zPLANE WAVE CURVE TRIPLE LARGEzPLANE WAVE CURVE TRIPLE MEDIUMzPLANE WAVE CURVE TRIPLE SMALL
zPLANE WAVE DIAGONAL PATH LARGEzPLANE WAVE DIAGONAL PATH MEDIUMzPLANE WAVE DIAGONAL PATH SMALL
zPLANE WAVE HITTING CHESTzPLANE WAVE HITTING FRONT WALLzPLANE WRIST CIRCLE FRONT DOUBLE
zPLANE WRIST CIRCLE FRONT SINGLEzPLANE ZIGZAG LARGEzPLANE ZIGZAG MEDIUMzPLANE ZIGZAG SMALLmNECK
nOSE CONTACTrNEUTRALrWIGGLESsRINKLESmPARENTHESISmROTATION MODIFIER-10zFIER-11zFIER-12zFIER-13
zFIER-14zFIER-15zFIER-16zFIER-2zFIER-3zFIER-4zFIER-5zFIER-6zFIER-7zFIER-8zFIER-9
u-FLOORPLANE ALTERNATINGzRPLANE ALTERNATING HITTING CEILINGzRPLANE ALTERNATING HITTING FLOOR
zRPLANE DOUBLEzRPLANE DOUBLE HITTING CEILINGzRPLANE DOUBLE HITTING FLOORzRPLANE SINGLE
zRPLANE SINGLE HITTING CEILINGzRPLANE SINGLE HITTING FLOORvWALLPLANE ALTERNATE
zPLANE ALTERNATING HITTING CHESTzPLANE ALTERNATING HITTING FRONT WALLzPLANE DOUBLE
zPLANE DOUBLE HITTING CHESTzPLANE DOUBLE HITTING FRONT WALLzPLANE SINGLEzPLANE SINGLE HITTING CHEST
zPLANE SINGLE HITTING FRONT WALLnUB BETWEENqMULTIPLEqSINGLEmSEMICOLONnHOULDER HIP POSITIONSzSPINE
vTILTING FROM WAISTnQUEEZE FLICK ALTERNATINGuLARGE MULTIPLEz SINGLEuSEQUENTIALvMALL MULTIPLE
z SINGLEnTRIKE BETWEENtMULTIPLEtSINGLEnURFACE BETWEENuSYMBOLSmTEETHr BITE LIPSsMOVEMENTsON LIPS
z MOVEMENTvTONGUEzUE MOVEMENToNSE CHEEKS HIGHzLOWzMIDDLEnONGUE CENTRE INSIDE MOUTHz STICKING OUT
tINSIDE MOUTH RELAXEDtLICKING LIPStMOVES AGAINST CHEEKtSTICKING OUT FARtTIP BETWEEN LIPS
xTOUCHING INSIDE MOUTHoRSO-FLOORPLANE TWISTINGsWALLPLANE CURVED BENDzNE STRAIGHT STRETCH
oUCH BETWEENsMULTIPLEsSINGLEnRAVEL-FLOORPLANE ROTATION-FLOORPLANE ALTERNATING
zLANE ROTATION-FLOORPLANE DOUBLEzLANE ROTATION-FLOORPLANE SINGLE
zLANE ROTATION-WALLPLANE ALTERNATINGzLANE ROTATION-WALLPLANE DOUBLEzLANE ROTATION-WALLPLANE SINGLE
zLANE SHAKINGtWALLPLANE ARM SPIRAL DOUBLEzANE ARM SPIRAL SINGLEzANE ARM SPIRAL TRIPLE
zANE ROTATION-FLOORPLANE ALTERNATINGzANE ROTATION-FLOORPLANE DOUBLEzANE ROTATION-FLOORPLANE SINGLE
zANE ROTATION-WALLPLANE ALTERNATINGzANE ROTATION-WALLPLANE DOUBLEzANE ROTATION-WALLPLANE SINGLE
zANE SHAKINGmUPPER BODY TILTING FROM HIP JOINTSmWALLPLANE SHOULDER HIP MOVEcLHOUETTE OF JAPAN
cMILAR ABOVE GREATER-THAN ABOVE EQUALS SIGNoLESS-THAN ABOVE EQUALS SIGNiMINUS SIMILAR
iOR GREATER-THANlLESS-THANcNE WAVEdGLE CHARACTER INTRODUCERhGRAPHIC CHARACTER INTRODUCER
hHIGH-REVERSED-9 QUOTATION MARKhLEFT-POINTING ANGLE QUOTATION MARKiOW-9 QUOTATION MARK
hRIGHT-POINTING ANGLE QUOTATION MARKhSHIFT THREEoWOg-SHIFT-2n3dHALA ARCHAIC DIGIT EIGHTwFIVExOUR
wNINEwONEwSEVENxIXwTHREExWOqNUMBER EIGHTYxFIFTYyORTYxNINETYxONE HUNDREDzE THOUSANDxSEVENTYyIXTYxTEN
yHIRTYyWENTYiLETTER AAYANNAqEEYANNArYANNAqIYANNAqLPAPRAANA BAYANNAz CAYANNAz DAYANNAz DDAYANNA
z GAYANNAz JAYANNAz KAYANNAz PAYANNAz TAYANNAz TTAYANNAqMBA BAYANNAqUYANNAqYANNApDANTAJA LAYANNA
xNAYANNAxSAYANNApEEYANNAqYANNApFAYANNApHAYANNApIIYANNAqLUUYANNAsYANNAqRUUYANNAsYANNAqYANNA
pKANTAJA NAASIKYAYApMAHAAPRAANA BAYANNAzA CAYANNAzA DAYANNAzA DDAYANNAzA GAYANNAzA JAYANNA
zA KAYANNAzA PAYANNAzA TAYANNAzA TTAYANNArYANNAqUURDHAJA LAYANNAzNAYANNAzSAYANNApOOYANNAqYANNA
pRAYANNApSANYAKA DAYANNAyDAYANNAxGAYANNAxJAYANNApTAALUJA NAASIKYAYAxSANYOOGA NAAKSIKYAYAzYANNA
pUUYANNAqYANNApVAYANNApYAYANNAjITH DIGIT EIGHTtFIVEuOURtNINEtONEtSEVENuIXtTHREEuWOtZERO
iPUNCTUATION KUNDDALIYAiSIGN AL-LAKUNAoNUSVARAYAnCANDRABINDUnVISARGAYAiVOWEL SIGN AELA-PILLA
tDIGA AEDA-PILLAyGAETTA-PILLAzAYANUKITTAyIS-PILLAyKOMBUVAyPAA-PILLAtGAETTA-PILLAvYANUKITTA
tKETTI AEDA-PILLAzIS-PILLAzPAA-PILLAuOMBU DEKAyVAzA HAA AELA-PILLAzA HAA DIGA AELA-PILLA
zA HAA GAYANUKITTAcX PETALLED BLACK AND WHITE FLORETTEfOINTED BLACK STARmPINWHEEL STAR
mSTAR WITH MIDDLE DOTd-PER-EM SPACEdTEEN POINTED ASTERISKbKATEBOARDcI AND SKI BOOTdERcULL
f AND CROSSBONESdNKbLANTED EQUAL TO OR GREATER-THANzER-THAN WITH DOT INSIDEuLESS-THAN
zTHAN WITH DOT INSIDEiNORTH ARROW WITH HOOKED HEADzHORIZONTAL TAILdVONIC ASTERISKcED
dEPING ACCOMMODATIONjFACEjSYMBOLfY FACEdUTH OR SPYcICE OF PIZZAdGHTLY FROWNING FACEjSMILING FACE
cOPEeING LARGE ANDoORdT MACHINEeHbMALL AIRPLANEhMPERSANDhSTERISKgBLUE DIAMONDgCOLONiMMAkERCIAL AT
iNTAINS AS MEMBERpWITH OVERBARuVERTICAL BAR AT END OF HORIZONTAL STROKEgDOLLAR SIGNgELEMENT OF
q WITH OVERBARwVERTICAL BAR AT END OF HORIZONTAL STROKEhM DASHhQUALS SIGNhXCLAMATION MARKgFULL STOP
gGREATER-THAN SIGNgHYPHEN-MINUSgIDEOGRAPHIC COMMAgLEFT CURLY BRACKETlPARENTHESIS
lTORTOISE SHELL BRACKETiSS-THAN SIGNgNUMBER SIGNgORANGE DIAMONDgPERCENT SIGNhLUS SIGNgQUESTION MARK
gREVERSE SOLIDUShIGHT CURLY BRACKETmPARENTHESISmTORTOISE SHELL BRACKEThOMAN NUMERAL EIGHTvLEVEN
uFIFTYwVEy HUNDREDvOURuNINEuONEx HUNDREDyTHOUSANDuSEVENvIXuTENvHREEvWELVEwOgSEMICOLONgTILDE
hWO DOTS OVER ONE DOT PUNCTUATIONgVEE WITH UNDERBARfER THANm OR EQUAL TOdSH PRODUCTcILE
eING CAT FACE WITH HEART-SHAPED EYESwOPEN MOUTHiFACE WITH HALOtEART-SHAPED EYEStORNSsOPEN MOUTH
zUTH AND COLD SWEATzUTH AND SMILING EYESzUTH AND TIGHTLY-CLOSED EYESsSMILING EYES
z EYES AND HAND COVERING MOUTHz EYES AND THREE HEARTStUNGLASSESsTEARdRKING FACEcOKING SYMBOLbNAIL
dKEcEEZING FACEcOW CAPPED MOUNTAINeBOARDEReFLAKEeMANh WITHOUT SNOWbOcCCER BALLdKScFT HYPHEN
fICE CREAMfSHELL FLOPPY DISKeBALLeWARE-FUNCTION SYMBOLcGDIAN COMBINING CURVE ABOVEyBELOWsDOT ABOVE
wBELOWsHOOK ABOVExBELOWsLONG HOOK BELOWsRESH BELOWsSTROKE BELOWsTWO DOTS ABOVEzS BELOW
iINDEPENDENT SHINiLETTER ALEPHqYINpBETHpFETHpGIMELpHErTHpKAPHpLAMEDHqESHpMEMpNUNpPEpRESH-AYINpSADHE
rMEKHqHINpTAWpWAWpYODHpZAYINiNUMBER ONEs HUNDREDpTENqWENTYiPUNCTUATION CIRCLE WITH DOT
uHALF CIRCLE WITH DOTuTWO CIRCLES WITH DOTSyVERTICAL BARSzERTICAL BARS WITH DOTScH
cLID QUILT SQUARE ORNAMENTzNT IN BLACK SQUAREfUSh WITH OVERBARcM SIGN
cON WITH RIGHTWARDS ARROW ABOVEcRA SOMPENG DIGIT EIGHTtFIVEuOURtNINEtONEtSEVENuIXtTHREEuWOtZERO
nLETTER AHuBAHuCAHuDAHuEEHvHuGAHuHAHuIHuJAHuKAHuLAHuMAEwHuNAHvGAHvYAHuOHuPAHuRAHuSAHuTAHuUHuVAHuYAH
cScUND RECORDING COPYRIGHTdTH EAST ARROWq AND SOUTH WEST ARROWrCROSSING NORTH EAST ARROWrTO CORNER
rWITH HOOKlBLACK ARROWlDOUBLE ARROWlPOINTING BUDuLEAFuVINE LEAFlSANS-SERIF ARROW
lTRIANGLE-HEADED ARROWzD ARROW TO BARlWHITE ARROWgWEST ARROWq AND NORTH WEST ARROWrWITH HOOK
lBLACK ARROWlDOUBLE ARROWlPOINTING BUDuLEAFuVINE LEAFlSANS-SERIF ARROWlTRIANGLE-HEADED ARROW
zD ARROW TO BARlWHITE ARROWcYOMBO CLUSTER-INITIAL LETTER LAzETTER RAzETTER SAzETTER SHA
iFINAL CONSONANT SIGN -AzIGN BzIGN DzIGN GzIGN KzIGN LzIGN MzIGN NzIGN NGzIGN RzIGN SzIGN SH
iGEMINATION MARKiHEAD MARK WITH MOON AND SUNzON AND SUN AND FLAMEzON AND SUN AND TRIPLE FLAME
iLETTER -ApApBAqHApCAqHApDAqDArHAqHAqZApGAqHApHApJAqHApKAqHAqSSApLApMApNAqGAqNAqYApPAqHApRApSAqHA
qSApTAqHAqSArHAqTArHApVApYApZAqHAiMARK DOUBLE SHADnPLUTAnSHADnTSHEGiSIGN ANUSVARAnJIHVAMULIYA
nUPADHMANIYAnVISARGAjUBJOINERiTERMINAL MARK-1w2iVOWEL LENGTH MARKoSIGN AIuUtEtItOuEtUuEtVOCALIC L
zC RbPcAdCEdGHETTIdRKLEhSgING HEARTcEAK-NO-EVIL MONKEYfERh WITH CANCELLATION STROKEnONE SOUND WAVE
nTHREE SOUND WAVESfING HEAD IN SILHOUETTEdECH BALLOONeDBOATdSMILO SIGNcHERICAL ANGLEp OPENING LEFT
yUPcIDERg WEBdRAL CALENDAR PADhNOTE PADhSHELLcLASHING SWEAT SYMBOLcONGEdOL OF THREADeNdRTS MEDAL
dUTING WHALEbQUARE A OVER MiARUiMiNPEAiPAATOiRUHUAiUhBAARERUjRiEETAiIRUiORUTOiQiUSSYERUhC OVER KG
iALjPiCiDiMj CUBEDkSQUAREDiOjRPORATIONiUPhDAjASUiBiESIiJiLiMj CUBEDkSQUAREDiORUhEEKAA
iRA NAME HEISEIqMEIZIqREIWAqSYOUWAqTAISYOUjGiSUKUUDOiVhFMiOOTjUR CORNERShGALjNMAjRONiBiHZiIGAjNII
jRUDAAiPAiURAMUnTONiYhHAjITUiEKUTAARUjRUTUiGiIRAGANA HOKAiONjONkRUiPjAiUARADDOjIITOjRANiZhIMAGE OF
p OR EQUAL TOtNOT EQUAL TOiNjINGUjTIiUhK OHMiAjIRIjRATTOkORIIiBiCALiEESUiGiHZiIROlGURAMUlMEETORU
lWATTOiKiLiMj CAPITALlUBEDkSQUAREDiOOPOjRUNAiPAiTiUROONEkUZEIROiViWiYURIIhLEFT OPEN BOX OPERATORiM
iNiOGjZENGEiXhM CUBEDjOHMkVER Sp SQUAREDjSQUAREDiAjHHAjIKUROkRUjNSYONjRUKUiBj SMALLiEETORUjGAlTONiG
iHZiIKURONjLjRIlBAARUiLiMj CUBEDkSQUAREDiOLiPAiSiU AkFkGkLkMkSkVkWiVj MEGAiWj MEGAhNAjNOiFiMiOTTOiS
iViWhONSUiOMUiRIGINAL OFs OR EQUAL TOwNOT EQUAL TOiVhPAj AMPSjASENTOkTUiCiEEZIjNIHIkSUjSOiFiH
iIASUTORUjKOkURUiMiOINTOjNDOjSITION INDICATORiPMiRiSiViWhRADk OVER Sr SQUAREDiEMUjNTOGEN
iIGHT OPEN BOX OPERATORjRAjTTORUiOOTiUPIIjUBURUhSAIKURUjNTIIMUiENTIlOiIRINGUiRiVhTARGETiHZiONhUON
hV OVER MhWATTOiBiITH BOTTOM HALF BLACKmCONTOURED OUTLINEmDIAGONAL CROSSHATCH FILLmHORIZONTAL FILL
mLEFT HALF BLACKnOWER LEFT DIAGONAL HALF BLACKsRIGHT DIAGONAL HALF BLACKmORTHOGONAL CROSSHATCH FILL
mRIGHT HALF BLACKmTOP HALF BLACKmUPPER LEFT DIAGONAL HALF BLACKxTO LOWER RIGHT FILL
sRIGHT DIAGONAL HALF BLACKyTO LOWER LEFT FILLmVERTICAL FILLhYAADOkRUiUANgD ASTERISK
iCJK UNIFIED IDEOGRAPH-4E00zRAPH-4E09zRAPH-4E2DzRAPH-4E8CzRAPH-4EA4zRAPH-518DzRAPH-521DzRAPH-524D
zRAPH-5272zRAPH-53CCzRAPH-53F3zRAPH-5408zRAPH-5439zRAPH-55B6zRAPH-58F0zRAPH-591AzRAPH-5929
zRAPH-5B57zRAPH-5DE6zRAPH-5F8CzRAPH-624BzRAPH-6253zRAPH-6295zRAPH-6307zRAPH-6355zRAPH-6599
zRAPH-65B0zRAPH-6620zRAPH-6708zRAPH-6709zRAPH-6E80zRAPH-6F14zRAPH-7121zRAPH-751FzRAPH-7533
zRAPH-7981zRAPH-7A7AzRAPH-7D42zRAPH-89E3zRAPH-8CA9zRAPH-8D70zRAPH-904AzRAPH-914DjLjOOLiDOT OPERATOR
iEIGHT KiFALLING DIAGONAL SLASHjIVE POINT ONEjOUR DOT PUNCTUATIONnKjREEiHCjDRjI-RESjViID
iKATAKANA DErKOKOrSAjEYiLATIN CAPITAL LETTER AzTER BzTER CzTER DzTER EzTER FzTER GzTER HzTER I
zTER JzTER KzTER LzTER MzTER NzTER OzTER PzTER QzTER RzTER SzTER TzTER UzTER VzTER WzTER XzTER Y
zTER ZoSMALL LETTER DjOGICAL ANDqORkSSLESSiMINUSjViNEWjGiOKjNE HUNDRED TWENTY PiPLUSjPV
iRISING DIAGONAL SLASHiSALTIREjDjECOND SCREENkVEN POINT ONEjHVjIXTY PjMALL CIRCLEjOSjQUAREjS
iTHREE DjIMESjWENTY-TWO POINT TWOkO KiUHDjP WITH EXCLAMATION MARKiVODjSiWCeT BLACK RIGHTWARDS ARROW
dIDbS2c3cAbTcADIUMdFF OF AESCULAPIUSjHERMESdMPED ENVELOPEdNDING PERSONdR AND CRESCENTfEQUALS
fOF DAVIDgPERATORfWITH LEFT HALF BLACKkRIGHT HALF BLACKeT OF GUARDED AREAjHEADINGjPROTECTED AREA
jSELECTED AREAkTRINGjTEXTdTIONeUE OF LIBERTYcEAM LOCOMOTIVEfING BOWLdNOGRAPHIC FULL STOPdTHOSCOPE
cICK FIGUREm LEANING LEFTvRIGHTnWITH ARMS RAISEDsDRESScOCK CHARTdPWATCHcRAIGHT RULERiNESSeWBERRY
dESS OUTLINED WHITE STARdICTLY EQUIVALENT TOeNG TERMINATORcScUDIO MICROPHONEdFFED FLATBREADdPAcXbUB
dSCRIPT EIGHTlQUALS SIGNkFIVElOURkLEFT PARENTHESISkMINUSkNINEkONEkPLUS SIGNkRIGHT PARENTHESISkSEVEN
lIXkTHREElWOkZEROeET ABOVE RIGHTWARDS ARROWnSUBSETpPERSEThOFj ABOVE ALMOST EQUAL TOqEQUALS SIGN
qNOT EQUAL TOqTILDE OPERATORkOR EQUAL TOv WITH DOT ABOVEkWITH NOT EQUAL TOhWITH DOT
mMULTIPLICATION SIGN BELOWmPLUS SIGN BELOWeTITUTEcCCEEDSi ABOVE ALMOST EQUAL TOpEQUALS SIGN
pNOT ALMOST EQUAL TOtEQUAL TOpSINGLE-LINE EQUALS SIGNzE NOT EQUAL TOjBUT NOT EQUIVALENT TO
jOR EQUAL TOpIVALENT TOjUNDER RELATIONcMMATION BOTTOMkTOPkWITH INTEGRALcNd BEHIND CLOUDeWITH FACE
dDANESE AVAGRAHAkCONSONANT SIGN PAMINGKALzPANYAKRAzPANYIKUzPASANGAN MAzPASANGAN WAkDIGIT EIGHTqFIVE
rOURqNINEqONEqSEVENrIXqTHREErWOqZEROkLETTER AsErBAsHArCArDArEsUrFAsINAL KxMrGArHArIrJArKAsHArLAsEU
rMArNAsGAsYArOrPArQArRAsEUrSAsYArTArUrVArWArXArYArZAkPUNCTUATION BINDU BA SATANGAzDU CAKRA
zDU DA SATANGAzDU KA SATANGAzDU LEU SATANGAzDU PANGLONGzDU PURNAMAzDU SURYAkSIGN PAMAAEHrNGLAYAR
tWISADsYECEKpVIRAMAkVOWEL SIGN PAMEPETxNAELAENGyEULEUNGyGHULUyOLONGyYUKUdFLOWERdRISE
h OVER MOUNTAINSdSET OVER BUILDINGScPERHEROfSCRIPT EIGHTnQUALS SIGNmFIVEnOURmLATIN SMALL LETTER I
zETTER NnEFT PARENTHESISmMINUSmNINEmONEmPLUS SIGNmRIGHT PARENTHESISmSEVENnIXmTHREEnWOmZERO
gET ABOVE LEFTWARDS ARROWpSUBSETrPERSETjBESIDE AND JOINED BY DASH WITH SUBSETqSUBSETjOF
l ABOVE ALMOST EQUAL TOsEQUALS SIGNsNOT EQUAL TOsTILDE OPERATORmOR EQUAL TOx WITH DOT ABOVE
mWITH NOT EQUAL TOjPRECEDING SOLIDUSjWITH DOToMULTIPLICATION SIGN BELOWoPLUS SIGN BELOWfVILLAIN
cRFACE INTEGRALeERcSHIdPENSION RAILWAYbWANdSH AMPERSAND ORNAMENTcIMMERcUNG DASH
bYLOTI NAGRI LETTER AuBHOvOuCHOvOuDDHOwOvHOvOuEuGHOvOuHOuIuJHOvOuKHOvOuLOuMOuNOuOuPHOvOuROvROuSO
uTHOvOvTHOwOuUnPOETRY MARK-1z2z3z4nSIGN ALTERNATE HASANTAtNUSVARAsDVISVARAsHASANTAnVOWEL SIGN AyEyI
yOOyUcMBOL FOR ACKNOWLEDGElBACKSPACEmELLlCANCELnRRIAGE RETURNlDATA LINK ESCAPEmELETEr FORM TWO
nVICE CONTROL FOURz ONEz THREEz TWOlEND OF MEDIUMsTEXTtRANSMISSIONzSSION BLOCKnQUIRYmSCAPE
lFILE SEPARATORmORM FEEDlGROUP SEPARATORlHORIZONTAL TABULATIONlLINE FEEDlMARKS CHAPTER
lNEGATIVE ACKNOWLEDGEnWLINEmULLlRECORD SEPARATORlSAMARITAN SOURCEmHIFT INrOUTmPACEmTART OF HEADING
uTEXTmUBSTITUTEv FORM TWOmYNCHRONOUS IDLElTYPE A ELECTRONICSlUNIT SEPARATORlVERTICAL TABULATION
dMETRYcNdAGOGUEdCHRONOUS IDLEcRIAC ABBREVIATION MARKhBARREKHhCOLON SKEWED LEFTuRIGHTjNTRACTION
hDOTTED ZLAMA ANGULARuHORIZONTALhEND OF PARAGRAPHiSASA ABOVEnBELOWhFEMININE DOThHARKLEAN ASTERISCUS
qMETOBELUSqOBELUSiBASA ABOVEnBELOWm-ESASA DOTTEDiORIZONTAL COLONhLETTER ALAPHoBETHoDALATH
pOTLESS DALATH RISHoEoFINAL SEMKATHoGAMALt GARSHUNIoHEqTHoKAPHoLAMADHoMALAYALAM BHAyJAyLLAzLLAyNGA
zNAzNNAzYAyRAySSAyTTApIMoNUNoPEqRSIAN BHETHwDHALATHwGHAMALoQAPHoREVERSED PEpISHoSADHEpEMKATHpHIN
pOGDIAN FEwKHAPHwZHAINpUPERSCRIPT ALAPHoTAWpETHs GARSHUNIoWAWoYUDHs HEoZAINhMUSIC
hOBLIQUE LINE ABOVEuBELOWhPTHAHA ABOVEoBELOWoDOTTEDhQUSHSHAYAhRBASA ABOVEnBELOWiUKKAKHAiWAHA
hSUBLINEAR COLONw SKEWED LEFTzEWED RIGHTrFULL STOPjPRALINEAR COLONy SKEWED LEFTtFULL STOP
hTHREE DOTS ABOVEsBELOWiWO VERTICAL DOTS ABOVEzBELOWhZQAPHA ABOVEoBELOWoDOTTEDeNGEaT-REXcSHIRTbAB
dLE TENNIS PADDLE AND BALLcCOcG AMPERSANDfPOSTROPHEfSTERISKeCIRCUMFLEX ACCENTfOLONgMMAiERCIAL AT
eDIGIT EIGHTkFIVElOURkNINEkONEkSEVENlIXkTHREElWOkZEROfOLLAR SIGNeEQUALS SIGNfXCLAMATION MARK
eFULL STOPeGRAVE ACCENTgEATER-THAN SIGNeHYPHEN-MINUSeLATIN CAPITAL LETTER AzBzCzDzEzFzGzHzIzJzKzLzM
zNzOzPzQzRzSzTzUzVzWzXzYzZkSMALL LETTER AxBxCxDxExFxGxHxIxJxKxLxMxNxOxPxQxRxSxTxUxVxWxXxYxZ
fEFT CURLY BRACKETjPARENTHESISjSQUARE BRACKETgSS-THAN SIGNfOW LINEeNUMBER SIGNePERCENT SIGN
fLUS SIGNeQUESTION MARKgOTATION MARKeREVERSE SOLIDUSfIGHT CURLY BRACKETkPARENTHESISkSQUARE BRACKET
eSEMICOLONfOLIDUSfPACEeTILDEeVERTICAL LINEdALOG LETTER AqRCHAIC RApBApDApGApHApIpKApLApMApNAqGApPA
pRApSApTApUpWApYAiSIGN PAMUDPODnVIRAMAiVOWEL SIGN ItUdBANWA LETTER AqBAqDAqGAqIqKAqLAqMAqNArGAqPA
qSAqTAqUqWAqYAjVOWEL SIGN IuUcI LE LETTER ApIpUEoEpEpHoFAoHAoIoKApHAoLAoMAoNApGAoOpOoPApHAoQAoSAoTA
pHApONE-2t3t4t5t6pSAqHAoUpEoVAoXAoYAeTHAM COMBINING CRYPTOGRAMMIC DOTlNSONANT SIGN BAyFINAL NGA
yHIGH RATHA OR LOW PAyLA TANG LAIzOW PAyMAzEDIAL LAzEDIAL RAySAjHORA DIGIT EIGHTuFIVEvOURuNINEuONE
uSEVENvIXuTHREEvWOuZEROjLETTER AqBAqDAqEEqGREAT SAqHIGH CAwHAvFAvHAvKAwHAwXAvPAwHAvRATHAvSAwHAwSA
vTAwHAvYAqIrIqLAsErLArOW CAvHAuFAuHAuKAvHAvXAuPAvHAuRATHAuSAuTAvHAuYArUEqMAqNArGArYAqOOqRAsNAsTArUE
qUrUqWAjSIGN CAANGoDOKMAIoHANGpOYoKAANsKUUpEOWpHUEN TONE-3z4z5t-LUE KARANoMAI KANGw LAIsSAMsYAMOK
oRA HAAMpEVERSED ROTATED RANAoSAKOTqTKAANvKUUqWANoTONE-1t2oWIANGtWAAKjTHAM DIGIT EIGHTuFIVEvOUR
uNINEuONEuSEVENvIXuTHREEvWOuZEROjVOWEL SIGN AvAvEvIuEuIvIuMAI SATuOvA ABOVExBELOWvOvYuTALL AA
vHAM AIuUvEvUwEeVIET LETTER HIGH BOvCHOwOvDOvFOvGOvHOvKHHOxOwOvLOvMOvNGOwOwYOvOvPHOwOvROvSOvTHOwO
vVOvYOqLOW BOuCHOvOuDOuFOuGOuHOuKHHOwOvOuLOuMOuNGOvOvYOuOuPHOvOuROuSOuTHOvOuVOuYOjMAI KANGoHIT
jSYMBOL HO HOIqKOI KOIsNqNUENGqSAMjTONE MAI EKsNUENGsSONGsTHOjVOWEL AAqMqNqUEqYpEpIqApOpUqAqErA
cKEOUT BOXdRI ABBREVIATION SIGNgDIGIT EIGHTmFIVEnOURmNINEmONEmSEVENnIXmTHREEnWOmZEROgLETTER AoAoI
oRCHAIC KHAoUnBAoHAnCAoHAnDAoDApHAoHAnEnGAoHAnHAnIoInJAoHAnKAoHAnLAnMAnNAoGAoNAoYAnOnPAoHAnRAoRAnSA
oHAnTAoHAoTApHAnUoUnVAnYAgSIGN ANUSVARAlNUKTAlVIRAMAnSARGAgVOWEL SIGN AAsIsUrErIsIrOrUsU
cLLY MARK FIVElONEcMALEdIL AND ODD SIGNhS ABOVE SIGNhU LENGTH MARKgCREDIT SIGNhURRENT SIGNgDAY SIGN
hEBIT SIGNhIGIT EIGHTmFIVEnOURmNINEmONEmSEVENnIXmTHREEnWOmZEROhRY CULTIVATION SIGN
gFRACTION DOWNSCALING FACTOR KIIZHpONE EIGHTHyIETHtFIFTHuORTIETHtHALF-1y2tONE-HUNDRED-AND-SIXTIETH
tQUARTERtSIXTEENTH-1zNTH-2xY-FOURTHtTENTHuHIRTY-SECONDvREE-HUNDRED-AND-TWENTIETHuWENTIETH
pTHREE EIGHTIETHSvQUARTERSvSIXTEENTHSzY-FOURTHSvTWENTIETHSgIN POSSESSION SIGNgLAND SIGNhETTER AoAoI
oUnCAnEoEnHAnIoInJAnKAnLAoLApLAnMAnNAoGAoNApNAoYAnOoOnPAnRAoRAnSAoHAoSAnTAoTAnUoUnVAnYAgMONTH SIGN
gNUMBER ONE HUNDREDrTHOUSANDnSIGNnTENgOMgPUNCTUATION END OF TEXTgRUPEE SIGNgSALT PAN SIGN
hIGN AAZHAAKKUmNUSVARAlCEVITUlKAACUmURUNInZHIlMUKKURUNInTHALIYAnUVUZHAKKUlNELlPAARAMnNAMnTHAKKUmON
lUZHAKKUlVAKAIYARAAnRAAKANmELImIRAMAnSARGAhPENT SIGNhTARTING FROM SIGNgTOTAL SIGN
hRADITIONAL CREDIT SIGNsNUMBER SIGNgVOWEL SIGN AAsIsUrEsErIsIrOsOrUsUgWET CULTIVATION SIGN
gYEAR SIGNcNABATA TREEdGERINEeSA DIGIT EIGHTnFIVEoOURnNINEnONEnSEVENoIXnTHREEoWOnZEROhLETTER ACpQ
pWCqQqXqZpXpZoBAoCApHAoDApHAoECpQpXpZoFApINAL NGoGApHAoHApTAqTAoICpQpXpZoKApHAoLApONG UEXoMApCpQpX
pZoNApGApHApYAoOCpQpXpZoPApHAoRAoSApHAqORT AWXuUEZoTApHApSAoUCpECqQqXqZpICqQqUCrQrXrZqXqZpQpXpZoVC
pQpXpZoWAoXAoYAoZAeUT COMPONENT-001t2t3t4t5t6t7t8t9s10t1t2t3t4t5t6t7t8t9s20t1t2t3t4t5t6t7t8t9s30t1
t2t3t4t5t6t7t8t9s40t1t2t3t4t5t6t7t8t9s50t1t2t3t4t5t6t7t8t9s60t1t2t3t4t5t6t7t8t9s70t1t2t3t4t5t6t7t8
t9s80t1t2t3t4t5t6t7t8t9s90t1t2t3t4t5t6t7t8t9r100t1t2t3t4t5t6t7t8t9s10t1t2t3t4t5t6t7t8t9s20t1t2t3t4
t5t6t7t8t9s30t1t2t3t4t5t6t7t8t9s40t1t2t3t4t5t6t7t8t9s50t1t2t3t4t5t6t7t8t9s60t1t2t3t4t5t6t7t8t9s70t1
t2t3t4t5t6t7t8t9s80t1t2t3t4t5t6t7t8t9s90t1t2t3t4t5t6t7t8t9r200t1t2t3t4t5t6t7t8t9s10t1t2t3t4t5t6t7t8
t9s20t1t2t3t4t5t6t7t8t9s30t1t2t3t4t5t6t7t8t9s40t1t2t3t4t5t6t7t8t9s50t1t2t3t4t5t6t7t8t9s60t1t2t3t4t5
t6t7t8t9s70t1t2t3t4t5t6t7t8t9s80t1t2t3t4t5t6t7t8t9s90t1t2t3t4t5t6t7t8t9r300t1t2t3t4t5t6t7t8t9s10t1
t2t3t4t5t6t7t8t9s20t1t2t3t4t5t6t7t8t9s30t1t2t3t4t5t6t7t8t9s40t1t2t3t4t5t6t7t8t9s50t1t2t3t4t5t6t7t8
t9s60t1t2t3t4t5t6t7t8t9s70t1t2t3t4t5t6t7t8t9s80t1t2t3t4t5t6t7t8t9s90t1t2t3t4t5t6t7t8t9r400t1t2t3t4
t5t6t7t8t9s10t1t2t3t4t5t6t7t8t9s20t1t2t3t4t5t6t7t8t9s30t1t2t3t4t5t6t7t8t9s40t1t2t3t4t5t6t7t8t9s50t1
t2t3t4t5t6t7t8t9s60t1t2t3t4t5t6t7t8t9s70t1t2t3t4t5t6t7t8t9s80t1t2t3t4t5t6t7t8t9s90t1t2t3t4t5t6t7t8
t9r500t1t2t3t4t5t6t7t8t9s10t1t2t3t4t5t6t7t8t9s20t1t2t3t4t5t6t7t8t9s30t1t2t3t4t5t6t7t8t9s40t1t2t3t4
t5t6t7t8t9s50t1t2t3t4t5t6t7t8t9s60t1t2t3t4t5t6t7t8t9s70t1t2t3t4t5t6t7t8t9s80t1t2t3t4t5t6t7t8t9s90t1
t2t3t4t5t6t7t8t9r600t1t2t3t4t5t6t7t8t9s10t1t2t3t4t5t6t7t8t9s20t1t2t3t4t5t6t7t8t9s30t1t2t3t4t5t6t7t8
t9s40t1t2t3t4t5t6t7t8t9s50t1t2t3t4t5t6t7t8t9s60t1t2t3t4t5t6t7t8t9s70t1t2t3t4t5t6t7t8t9s80t1t2t3t4t5
t6t7t8t9s90t1t2t3t4t5t6t7t8t9r700t1t2t3t4t5t6t7t8t9s10t1t2t3t4t5t6t7t8t9s20t1t2t3t4t5t6t7t8t9s30t1
t2t3t4t5t6t7t8t9s40t1t2t3t4t5t6t7t8t9s50t1t2t3t4t5t6t7t8t9s60t1t2t3t4t5t6t7t8hITERATION MARK
cPE CARTRIDGEfDRIVEcURUScXIbEACUP WITHOUT HANDLEdPOTdR-OFF CALENDAReDROP-BARBED RIGHTWARDS ARROW
jSPOKED ASTERISKcDDY BEARcLEPHONE LOCATION SIGNkON TOP OF MODEMkRECEIVERs WITH PAGEnORDERkSIGN
eSCOPEeVISIONdUGU AI LENGTH MARKhDIGIT EIGHTnFIVEoOURnNINEnONEnSEVENoIXnTHREEoWOnZERO
hFRACTION DIGIT ONE FOR EVEN POWERS OF FOURz FOR ODD POWERS OF FOURwTHREE FOR EVEN POWERS OF FOUR
zEE FOR ODD POWERS OF FOURxWO FOR EVEN POWERS OF FOURz FOR ODD POWERS OF FOUR
wZERO FOR ODD POWERS OF FOURhLENGTH MARKjTTER ApApIpUoBApHAoCApHAoDApDAqHApHApZAoEpEoGApHAoHAoIpI
oJApHAoKApHAoLApLAqLAoMAoNAqKAARA POLLUpGApNApYAoOpOoPApHAoRApRAqRAoSApHApSAoTApHApSApTAqHAoUpUoVA
pOCALIC LxLwRxRoYAhSIGN ANUSVARAnVAGRAHAmCANDRABINDUnOMBINING ANUSVARA ABOVEwCANDRABINDU ABOVE
mNUKTAmSIDDHAMmTUUMUmVIRAMAoSARGAhVOWEL SIGN AAtItUsEtEsItIsOtOsUtUsVOCALIC Lz LLz Rz RRcNGE SIGN
dNIS RACQUET AND BALLdTcST TUBEcTRAGRAM FOR ACCUMULATIONpDVANCEpGGRAVATIONpSCENToBARRIER
pOLD RESOLUTIONpRANCHING OUToCENTREpHANGEpLOSED MOUTHtNESSsUREpOMPLETIONtIANCEqNSTANCYrTACTsENTION
sRARIETYoDARKENINGpECISIVENESSqFECTIVENESS OR DISTORTIONqPARTUREpIFFICULTIESqMINISHMENTrMING
qVERGENCEpOUBTpUTIESoEASEpMBELLISHMENTpNCOUNTERSqDEAVOURqLARGEMENTpTERNITYpXHAUSTIONoFAILUREpLIGHT
pOLLOWINGqSTERINGpULL CIRCLEsNESSoGATHERINGx INpOING TO MEETpREATNESSpUARDEDNESSoHARDNESS
pOLDING BACKoINCREASEqNERoJOYoKEEPING SMALLpINSHIPoLABOURINGqW OR MODELpEGIONoMASSINGpEASUREpIRED
oON THE VERGEpPPOSITIONoPACKINGqTTERNpENETRATIONpURITYoREACHqLEASEqSIDENCEsSTANCErPONSEpITUAL
oSEVERANCEpINKINGpTOPPAGErVEqRENGTHoUNITYoVASTNESS OR WASTINGoWAITINGqTCHoYOUTHFULNESS
bHAANA AABAAFILIiBAFILIhEBEFILIiEBEEFILIiYBEYFILIhIBIFILIhLETTER AINUpLIFUoBAAoCHAVIYANIoDAADHU
qVIYANIpHAALUoFAAFUoGAAFUpHAINUpNAVIYANIoHAApHAAoJAVIYANIoKAAFUpHAAoLAAMUpHAVIYANIoMEEMUoNAApOONU
oPAVIYANIoQAAFUoRAAoSAADHUpEENUpHAVIYANIqEENUoTAVIYANIpHAAsLUpOpTAAoVAAVUoWAAVUoYAAoZAAqVIYANIpO
hOABOAFILIiBOFILIiOBOOFILIhSUKUNhUBUFILIdI CHARACTER ANGKHANKHUpBO BAIMAIpCHO CHANxGvINGvOE
pDO CHADAsDEKpFO FAuNrNGMANpHO HIPsNOKHUKpKHO KHAIvONvUATvWAItRAKHANGsMUTqO KAIpLAKKHANGYAOqO CHULA
sLINGqUpMAI CHATTAWAtEKtHAN-AKATtTHOuRIsTAIKHUsYAMOKqO MApNGO NGUqIKHAHITqO NENtUpO ANGpPAIYANNOI
qHINTHUrO PHANvUNGtSAMPHAOqO PLApRO RUAqUpSARA AvAvEvI MAIMALAIzIMUANvMuEuIvIuOuUvEwEvUqO RUSIsSALA
tOtUApTHANTHAKHATrO NANGMONTHOtPHUTHAOtTHAHANwNvONGvUNGqO PATAKsTAOpWO WAENpYAMAKKANqO YAKtING
gURRENCY SYMBOL BAHTfDIGIT EIGHTlFIVEmOURlNINElONElSEVENmIXlTHREEmWOlZEROcERE DOES NOT EXISTgEXISTS
fFOREeMODYNAMICgMETERcIN GREEK CROSSfSALTIREgPACEeKING FACEdRD PLACE MEDALcONG SANDALdUGHT BALLOON
cREE BUTTON MOUSEgCONSECUTIVE EQUALS SIGNSgDIMENSIONAL ANGLEhOT PUNCTUATIONgLEFTWARDS ARROWS
hINES CONVERGING LEFTxRIGHTgNETWORKED COMPUTERSgPOINTED BLACK STARgRAYS ABOVElBELOWlLEFTlRIGHT
hIGHTWARDS ARROWSgSPEECH BUBBLESf-D BOTTOM-LIGHTED RIGHTWARDS ARROWHEAD
iLEFT-LIGHTED DOWNWARDS EQUILATERAL ARROWHEADiRIGHT-LIGHTED UPWARDS EQUILATERAL ARROWHEAD
iTOP-LIGHTED LEFTWARDS EQUILATERAL ARROWHEADuRIGHTWARDS ARROWHEADzWARDS EQUILATERAL ARROWHEAD
gEM DASHgPER-EM SPACEcUMBS DOWN SIGNhUP SIGNdNDER CLOUD AND RAINhSTORM
bIBETAN ASTROLOGICAL SIGN -KHYUD PAz SDONG TSHUGSz SGRA GCAN -CHAR RTAGS
iCANTILLATION SIGN CANG TE-Uz HEAVY BEATz LIGHT BEATz SBUB -CHALiDIGIT EIGHToFIVEpOURoHALF EIGHT
tFIVEuOURtNINEtONEtSEVENuIXtTHREEuWOtZEROoNINEoONEoSEVENpIXoTHREEpWOoZEROiKU RU KHAr BZHI MIG CAN
iLETTER -ApApBAqHApCAqHApDAqDArHAqHAqZArHApFIXED-FORM RApGAqHApHApJApKAqHAqKAqSSApLApMApNAqGAqNAqYA
pPAqHApRAqRApSAqHAqSApTAqHAqSArHAqTArHApWApYApZAqHAjOGOTYPE SIGN CHAD RTAGSwLHAG RTAGS
iMARK ANG KHANG GYASzONnBKA- SHOG GI MGO RGYANxYIG MGOoSDUS RTAGSpKA- SHOG GI MGO RGYANqUR YIG MGO
nCARET -DZUD RTAGS BZHI MIG CANzRTAGS ME LONG CANtYIG MGO PHUR SHAD MAoHE MGO
oLOSING BRDA RNYING YIG MGO SGAB MAvYIG MGO SGAB MAnDELIMITER TSHEG BSTARnGTER TSHEG
sYIG MGO -UM GTER TSHEG MAz -UM RNAM BCAD MAz TRUNCATED AoUG RTAGS GYASzONnHALANTA
nINITIAL BRDA RNYING YIG MGO MDUN MAvYIG MGO MDUN MApTERSYLLABIC TSHEGnLEADING MCHAN RTAGS
nMNYAM YIG GI MGO RGYANnNGAS BZUNG NYI ZLAySGOR RTAGSoYIS SHADsTSHEGx SHADnPALUTAnRGYA GRAM SHAD
oIN CHEN SPUNGS SHADnSBRUL SHADoHADnTRAILING MCHAN RTAGSoSA -PHRUpHEG SHADnYIG MGO TSHEG SHAD MA
iSIGN GRU CAN RGYINGSrMED RGYINGSnINVERTED MCHU CANnLCE TSA CANpI RTAGSnMAR TSHESoCHU CAN
nNYI ZLA NAA DAnRDEL DKAR GCIGyNYISySUMxRDEL NAGsNAG GCIGxNYISxSUMwRDEL DKARoJES SU NGA ROoNAM BCAD
nSNA LDANnYANG RTAGSpR TSHESjUBJOINED LETTER -AzAzBAzBHAzCAzCHAzDAzDDAzDDHAzDHAzDZAzDZHA
zFIXED-FORM RAzFIXED-FORM WAzFIXED-FORM YAzGAzGHAzHAzJAzKAzKHAzKSSAzLAzMAzNAzNGAzNNAzNYAzPAzPHAzRA
zSAzSHAzSSAzTAzTHAzTSAzTSHAzTTAzTTHAzWAzYAzZAzZHAsSIGN INVERTED MCHU CANxLCE TSA CANxMCHU CAN
jYLLABLE OMkMBOL DRIL BUpNOR BUv BZHI -KHYILwGSUM -KHYILwNYIS -KHYILpPADMA GDANqHUR PApRDO RJE
w RGYA GRAMiVOWEL SIGN AAtEuEtIuItOuOtREVERSED IzED IItUuUtVOCALIC LzC LLzC RzC RRcCKET
cE OVER INFINITYcFINAGH CONSONANT JOINERjLETTER AHAGGAR YAZHrYER YAGHqBERBER ACADEMY YAHzADEMY YAJ
qTAWELLEMET YAZrUAREG YAGHzGNzHzKzKHzNGzQzZHqYAsAsBtHsCHsDtDuHtHsFsGtHuHsHtHsJsKtHuHsLsMsNsPsQsRtR
sStHtSsTtHtTsVsWsYsZtHtZrEsYrIrOrUjMODIFIER LETTER LABIALIZATION MARKjSEPARATOR MARKcGERf FACE
dHT TRIFOLIATE SNOWFLAKEcLDEf OPERATORo ABOVE LEFTWARDS ARROWvRIGHTWARDS ARROWpWITH DOT ABOVE
uRISING DOTSgWITH DOT ABOVEpBELOWlRING ABOVEcMER CLOCKeS WITH LEFT HALF BLACKlRIGHT HALF BLACKcNY
e TWO DOTS OVER ONE DOT PUNCTUATIONcRED FACEdHUTA ABBREVIATION SIGNjNJIiDIGIT EIGHToFIVEpOURoNINE
oONEoSEVENpIXoTHREEpWOoZEROiGVANGiLETTER AqAqIqUpBAqHApCAqHApDAqDArHAqHApEpGAqHApHApIqIpJAqHApKAqHA
pLApMApNAqGAqNAqYApOpPAqHApRApSAqHAqSApTAqHAqTArHApUqUpVAqOCALIC LyLxRyRpYAiOMiSIGN ANUSVARA
oVAGRAHAnCANDRABINDUnNUKTAnVIRAMApSARGAiVOWEL SIGN AAuIuUtEtIuItOtSHORT EzOtUuUtVOCALIC LzC LLzC R
zC RRdONIAN SIGN CAPITAL EToETbOILETcKYO TOWERcMATOcNGUEcOLBOXdTHfBRUSHcP ARC ANTICLOCKWISE ARROW
zOW WITH PLUSiCLOCKWISE ARROW WITH MINUSeCURLY BRACKETeHALF BLACK CIRCLEjINTEGRALjLEFT PARENTHESIS
jRIGHT PARENTHESISjSECTION SIGNgTeLEFT CORNERkROPjHALF BRACKETePARENTHESISeRIGHT CORNERlROP
kHALF BRACKETeSQUARE BRACKETeTORTOISE SHELL BRACKETeWITH UPWARDS ARROW ABOVE
cRTOISE SHELL BRACKETED CJK UNIFIED IDEOGRAPH-4E09zCJK UNIFIED IDEOGRAPH-4E8C
zCJK UNIFIED IDEOGRAPH-52DDzCJK UNIFIED IDEOGRAPH-5B89zCJK UNIFIED IDEOGRAPH-6253
zCJK UNIFIED IDEOGRAPH-6557zCJK UNIFIED IDEOGRAPH-672CzCJK UNIFIED IDEOGRAPH-70B9
zCJK UNIFIED IDEOGRAPH-76D7zLATIN CAPITAL LETTER ScTAL RUNOUTdO LETTER AnEmBAnREATHY AEuEvOuIvUmCHA
mDAmEnOmGAmHAmInUmJAmKAmLAmMAmNAnGAmOmPAmRAmSAmTAmUmWAmYAfSIGN RISING TONEbRACKBALLeTOR
dDE MARK SIGNdINdMe CARdNSPLUTOfVERSAL INTERSECTIONcIANGLE WITH DOT ABOVEoROUNDED CORNERS
oSERIFS AT BOTTOMoUNDERBARi-HEADED RIGHTWARDS ARROWgULAR BULLETlFLAG ON POSTlRULERdCOLON
dDENT EMBLEMdGRAM FOR EARTHmFIREmHEAVENmLAKEmMOUNTAINmTHUNDERmWATERnINDdPLE COLON OPERATORhDAGGER
hHORIZONTAL BAR WITH DOUBLE VERTICAL STROKEzH TRIPLE VERTICAL STROKEhINTEGRALhNESTED GREATER-THAN
oLESS-THANhPLUSiRIMEhSOLIDUS BINARY RELATIONhTILDEhVERTICAL BAR BINARY RELATIONuDELIMITER
uRIGHT TURNSTILEuWITH HORIZONTAL STROKEcOLLfEYBUSdPHYeICAL DRINKjFISHcUEe LIGHT MOON ARTAdMPET
bUGRIK SIGNcLIPcMBLER GLASScRKEYeISH LIRA SIGNdNED AMPERSANDiNGLEhBLACK PENTAGONnSHOGI PIECE
hCAPITAL FiOMMAhDAGGERiIGIT THREEoWOhGREEK SMALL LETTER IOTAhNORTH EAST POINTING LEAF
nWEST POINTING LEAFjT SIGNhOK HAND SIGNhSANS-SERIF CAPITAL Gz Lz YiEMICOLONiMALL F
iOUTH EAST POINTING LEAFnWEST POINTING LEAFhWHITE SHOGI PIECEdTLEbWELVE POINTED BLACK STAR
cISTED RIGHTWARDS ARROWScO ASTERISKS ALIGNED VERTICALLYeBUTTON MOUSEeCONSECUTIVE EQUALS SIGNS
eDOT LEADERiPUNCTUATIONhS OVER ONE DOT PUNCTUATIONeHEARTSeINTERSECTING LOGICAL ANDzOR
eJOINED SQUARESeLOGICAL AND OPERATORmOR OPERATOReMEN HOLDING HANDSeSPEECH BUBBLES
eWOMEN HOLDING HANDSd-EM DASHaUGARITIC LETTER AINrLPAqBETAqDELTArHALqGAMLArHAINqHOsTAqIqKAFrHA
qLAMDAqMEMqNUNqPUqQOPAqRASHAqSADEsMKArHINrSUqTETrHANNArOqUqWOqYODqZETArUjWORD DIVIDERbMBRELLA
i ON GROUNDjWITH RAIN DROPSbNAMUSED FACEcCERTAINTY SIGNcDERTIEdO SYMBOLcICORN FACEdON
f ABOVE BAR ABOVE INTERSECTIONmINTERSECTIONgBESIDE AND JOINED WITH UNIONgWITH LOGICAL ORlMINUS SIGN
lOVERBARdT SEPARATOReED SYMBOLdVERSAL RECYCLING SYMBOLcMARRIED PARTNERSHIP SYMBOL
bP ARROW THROUGH CIRCLEiHEADm BETWEEN TWO HORIZONTAL BARSnIN A RECTANGLE BOX
dBARB LEFT DOWN BARB LEFT HARPOONxRIGHT HARPOONiRIGHT DOWN BARB LEFT HARPOONyRIGHT HARPOON
dDOWN ARROWn WITH BASEiBLACK ARROWiDOUBLE ARROWiSANS-SERIF ARROWiTRIANGLE-HEADED ARROWiWHITE ARROW
dFISH TAILdRIGHT DIAGONAL ELLIPSISdTACKh WITH CIRCLE ABOVEc-POINTING AIRPLANEmMILITARY AIRPLANE
mRED TRIANGLEmSMALL AIRPLANEsRED TRIANGLEmTRIANGLE WITH LEFT HALF BLACKz RIGHT HALF BLACK
cPER AND LEFT AND LOWER TRIANGULAR THREE QUARTERS BLOCKlOWER ONE EIGHTH BLOCKqTRIANGULAR HALF BLOCK
kRIGHT AND LOWER TRIANGULAR THREE QUARTERS BLOCKgBLADE SCISSORSgFIVE EIGHTHS BLOCKgHALF BLOCK
q AND LOWER HALF INVERSE MEDIUM SHADElCIRCLElINVERSE MEDIUM SHADE AND LOWER HALF BLOCKtWHITE CIRCLE
lMEDIUM SHADEgLEFT BLOCK DIAGONAL LOWER CENTRE TO LOWER MIDDLE RIGHT
z LOWER CENTRE TO UPPER MIDDLE RIGHTz LOWER CENTRE TO UPPER RIGHTz LOWER LEFT TO LOWER MIDDLE RIGHT
z LOWER LEFT TO UPPER CENTREz LOWER LEFT TO UPPER MIDDLE RIGHTz LOWER MIDDLE LEFT TO UPPER CENTRE
z LOWER MIDDLE LEFT TO UPPER MIDDLE RIGHTz LOWER MIDDLE LEFT TO UPPER RIGHT
z UPPER MIDDLE LEFT TO UPPER CENTREz UPPER MIDDLE LEFT TO UPPER RIGHTlCORNER WITH DOT
lOR LOWER RIGHT CURLY BRACKET SECTIONlQUADRANT CIRCULAR ARClTO LOWER RIGHT FILLmRIANGLE
rULAR MEDIUM SHADEgONE EIGHTH BLOCKkQUARTER BLOCK
gRIGHT BLOCK DIAGONAL LOWER MIDDLE LEFT TO LOWER CENTREzL LOWER MIDDLE LEFT TO LOWER RIGHT
zL UPPER CENTRE TO LOWER MIDDLE RIGHTzL UPPER CENTRE TO LOWER RIGHT
zL UPPER CENTRE TO UPPER MIDDLE RIGHTzL UPPER LEFT TO LOWER CENTRE
zL UPPER LEFT TO LOWER MIDDLE RIGHTzL UPPER LEFT TO UPPER MIDDLE RIGHT
zL UPPER MIDDLE LEFT TO LOWER CENTREzL UPPER MIDDLE LEFT TO LOWER MIDDLE RIGHT
zL UPPER MIDDLE LEFT TO LOWER RIGHTmDROP-SHADOWED WHITE SQUAREmOR LOWER LEFT CURLY BRACKET SECTION
mPENCILmQUADRANT CIRCULAR ARCmSHADOWED WHITE CIRCLEzE SQUAREmTO LOWER LEFT FILLnRIANGLE
sULAR MEDIUM SHADEgSEVEN EIGHTHS BLOCKgTHREE EIGHTHS BLOCKmQUARTERS BLOCK
hRIANGULAR ONE QUARTER BLOCKcSIDE-DOWN FACEcWARDS ANCORAjRROWn AND RIGHT ONE EIGHTH BLOCKoFROM BAR
oLEFTWARDS OF DOWNWARDS ARROWoTO BARoWITH DOUBLE STROKEtEQUILATERAL ARROWHEADtHORIZONTAL STROKE
tLARGE TRIANGLE ARROWHEADtMEDIUM TRIANGLE ARROWHEADtNOTCHED TAILtSMALL EQUILATERAL ARROWHEAD
zTRIANGLE ARROWHEADtTIP LEFTWARDSxRIGHTWARDSiBLACK ARROWoCIRCLED WHITE ARROWiCOMPRESSED ARROW
iDASHED ARROWjOUBLE ARROWiFINGER-POST ARROW
iHARPOON WITH BARB LEFT BESIDE DOWNWARDS HARPOON WITH BARB RIGHT
z LEFT BESIDE UPWARDS HARPOON WITH BARB RIGHTz LEFT FROM BARz LEFT TO BARz LEFTWARDS
z RIGHT FROM BARz RIGHT TO BARz RIGHTWARDSjEAVY ARROWoCOMPRESSED ARROWiPAIRED ARROWS
iQUADRUPLE ARROWiROCKETiSANS-SERIF ARROWjQUARED ARROWiTRIANGLE ARROWHEADq-HEADED ARROW
zRROW LEFTWARDS OF DOWNWARDS TRIANGLE-HEADED ARROWzRROW TO BARzRROW WITH BOLD SHAFT
zRROW WITH DOUBLE HORIZONTAL STROKEzRROW WITH HEAVY SHAFTzRROW WITH LONG TIP LEFTWARDS
zRROW WITH LONG TIP RIGHTWARDSzRROW WITH MEDIUM SHAFTzRROW WITH NARROW SHAFT
zRROW WITH VERY HEAVY SHAFTyDASHED ARROWyPAIRED ARROWSlPLE ARROWjWO HEADED ARROW
l-HEADED ARROW FROM SMALL CIRCLEzWITH TRIANGLE ARROWHEADSiWHITE ARROWt FROM BAR
zBAR WITH HORIZONTAL BARuON PEDESTALzDESTAL WITH HORIZONTAL BARzDESTAL WITH VERTICAL BAR
uWITHIN TRIANGLE ARROWHEADoDOUBLE ARROWzW ON PEDESTALbRANUSbSaVAI COMMAeDIGIT EIGHTkFIVElOURkNINE
kONEkSEVENlIXkTHREElWOkZEROeFULL STOPeQUESTION MARKeSYLLABLE AoNnBAoEpEoHApEqEpIpOqOpUoIoOpOoUnCAoE
pEoIoOpOoUnDAoEpEoHApEqEpHAqErEqIqOrOqUpIpOqOpUoIoOpOoUnEoEpNoNnFAoEpEoIoOpOoUnGAoBApEqEqNpIpOqNqO
pUoEpEpNoIoOpOoUnHApNoEpEpNoIpNoOpNpOoUpNnIoNnJAoEpEoIoOpOoUnKApNoEpEoIoOpOoPAqNpEqEqNpIpOqOpUoUnLA
oEpEpNGTHENERoIoOpOoUnMAoBApEqEpIpOqOpUoEpEoGBAqErEqIqOrOqUoIoOpOoUnNAoDApEqEpIpOqLE DOtFAtKAtMA
tSOOqOpUoEpEoGpANpENpGAqErErNqIqOrOqUpONoIoJApEqEpIpOqOpUoOpOoUoYApEqEpIpOqOpUnOoNoOpNnPAoEpEoIoOpO
oUnRAoEpEoIoOpOoUnSAoEpEoHApEqEpIpOqOpUoIoOpOoUnTAoEpEoHApEqEpIpOqOpUoIoOpOoUnUoNnVAoEpEoIoOpOoUnWA
pNoEpEqNpNoIpNoOpNpOqNoUpNnYAoEpEoIoOpOoUnZAoEpEoHApEqEpIpOqOpUoIoOpOoUgMBOL BANGlDANGmO-OnONGlFAA
mEENGlJONGlKEENGmUNGlNIIlTAAmINGmONGcMPIREcRIATION SELECTOR-1u0v0v1v2v3v4v5v6v7v8v9u1v0v1v2v3v4v5v6
v7v8v9u2v0v1v2v3v4v5v6v7v8v9u3v0v1v2v3v4v5v6v7v8v9u4v0v1v2v3v4v5v6v7v8v9u5v0v1v2v3v4v5v6v7v8v9u6v0
v1v2v3v4v5v6v7v8v9u7v0v1v2v3v4v5v6v7v8v9u8v0v1v2v3v4v5v6v7v8v9u9v0v1v2v3v4v5v6v7v8v9t2u0v0v1v2v3v4
v5v6v7v8v9u1v0v1v2v3v4v5v6v7v8v9u2v0v1v2v3v4v5v6v7v8v9u3v0v1v2v3v4v5v6v7v8v9u4v0v1v2v3v4v5v6v7v8v9
u5v0v1v2v3v4v5v6u6u7u8u9t3u0u1u2u3u4u5u6u7u8u9t4u0u1u2u3u4u5u6u7u8u9t5u0u1u2u3u4u5u6u7u8u9t6u0u1u2
u3u4u5u6u7u8u9t7u0u1u2u3u4u5u6u7u8u9t8u0u1u2u3u4u5u6u7u8u9t9u0u1u2u3u4u5u6u7u8u9
bECTOR OR CROSS PRODUCTcDIC SIGN ANUSVARA ANTARGOMUKHAuBAHIRGOMUKHAuUBHAYATO MUKHAuVAMAGOMUKHA
zOMUKHA WITH TAILmRDHAVISARGAmTIKRAMAlDOUBLE ANUSVARA ANTARGOMUKHAlHEXIFORM LONG ANUSVARA
lJIHVAMULIYAlLONG ANUSVARAlNIHSHVASAlREVERSED VISARGA ANUDATTAzGA UDATTAmOTATED ARDHAVISARGA
mTHANG LONG ANUSVARAlTIRYAKlUPADHMANIYAlVISARGA ANUDATTAzTA WITH TAILtSVARITAtUDATTAz WITH TAIL
lYAJURVEDIC MIDLINE SVARITAgTONE ATHARVAVEDIC INDEPENDENT SVARITAlCANDRA ABOVEsBELOWlDOT BELOW
nUBLE RING ABOVEsSVARITAlKARSHANAnTHAKA ANUDATTAlPRENKHAlRIGVEDIC KASHMIRI INDEPENDENT SVARITA
nNG ABOVElSHARAlTHREE DOTS BELOWmRIPLE SVARITAmWO DOTS BELOW
lYAJURVEDIC AGGRAVATED INDEPENDENT SVARITAwINDEPENDENT SVARITAwKATHAKA INDEPENDENT SVARITA
zHAKA INDEPENDENT SVARITA SCHROEDERcRSICLEdTICAL BAR BESIDE RIGHT TRIANGLEnDOUBLE LEFT TURNSTILE
nTRIPLE RIGHT TURNSTILEnWITH HORIZONTAL STROKEjELLIPSISjFOUR DOTSjIDEOGRAPHIC ITERATION MARK
jKANA REPEAT MARKz LOWER HALFz UPPER HALFvWITH VOICED SOUND MARKz VOICED SOUND MARK UPPER HALFjLINE
n EXTENSIONoWITH CIRCLE ABOVEz BELOWtMIDDLE DOTjMALE WITH STROKE SIGNjONE EIGHTH BLOCK-2z-3z-4z-5
z-6z-7jSIX DOTSjTAB KEYmULATIONt SETkILDEkRAFFIC LIGHTjZIGZAG LINEdY BOLD GREEK CROSS
fHEAVY EIGHT POINTED BLACK STARrSPOKED ASTERISKlFIVE SPOKED ASTERISKlGREEK CROSSlREVERSE SOLIDUS
lSALTIREmIX SPOKED ASTERISKmOLIDUSlWHITE CIRCLErSQUAREfMUCH GREATER-THANkLESS-THANcSTA
bIBRATION MODEcCTORY HANDcDEO CAMERAgGAMEfCASSETTEcETNAMESE ALTERNATE READING MARK CAzING MARK NHAY
dWDATA SQUAREcOLINcRGOcTHKUQI CAPITAL LETTER AyBBEzEyCEzHEyDEzHEyEzIyFEyGAyHAzHAyIzJEyJEyKAyLAzLA
yMEyNEzJEyOyPEyQAyREySEzHEyTEzHEyUyVEyXEyYyZEjSMALL LETTER AwBBExEwCExHEwDExHEwExIwFEwGAwHAxHAwIxJE
wJEwKAwLAxLAwMEwNExJEwOwPEwQAwREwSExHEwTExHEwUwVEwXEwYwZEbOIDED GREEK CROSScLCANOdLEYBALL
dUME INTEGRALbS1d0e0e1e2e3e4e5e6e7e8e9d1e0e1e2e3e4e5e6e7e8e9d2e0e1e2e3e4e5e6e7e8e9d3e0e1e2e3e4e5e6
e7e8e9d4e0e1e2e3e4e5e6e7e8e9d5e0e1e2e3e4e5e6e7e8e9d6e0e1e2e3e4e5e6e7e8e9d7e0e1e2e3e4e5e6e7e8e9d8e0
e1e2e3e4e5e6e7e8e9d9e0e1e2e3e4e5e6e7e8e9c2d0e0e1e2e3e4e5e6e7e8e9d1e0e1e2e3e4e5e6e7e8e9d2e0e1e2e3e4
e5e6e7e8e9d3e0e1e2e3e4e5e6e7e8e9d4e0e1e2e3e4e5e6e7e8e9d5e0e1e2e3e4e5e6d6d7d8d9c3d0d1d2d3d4d5d6d7d8
d9c4d0d1d2d3d4d5d6d7d8d9c5d0d1d2d3d4d5d6d7d8d9c6d0d1d2d3d4d5d6d7d8d9c7d0d1d2d3d4d5d6d7d8d9c8d0d1d2
d3d4d5d6d7d8d9c9d0d1d2d3d4d5d6d7d8d9bTcSbULCANUSdGAR FRACTION FIVE EIGHTHSvSIXTHSrOUR FIFTHS
qONE EIGHTHuFIFTHuHALFuNINTHuQUARTERuSEVENTHvIXTHuTENTHvHIRDqSEVEN EIGHTHSqTHREE EIGHTHSwFIFTHS
wQUARTERSrWO FIFTHSuTHIRDSqZERO THIRDSaWAFFLEcNCHO DIGIT EIGHTnFIVEoOURnNINEnONEnSEVENoIXnTHREEoWO
nZEROhLETTER ApAqNrGpNGpUoBAoCAoDAoEpNoFAoGAoHAoIpNGoJAoKApHAoLApLHAoMAoNApGApYAoOpNqGoPApHAoRAoSA
pHAoTApHApRApSAoUpENoVAoWAoYApIHoZAhNGUN SIGNhTONE KOIpNImTUPpNIdING CRESCENT MOON SYMBOL
hGIBBOUS MOON SYMBOLcRANG CITI CAPITAL LETTER AzR AMzR ANGzR ATzR BUzR DAzR EzR ENNzR ENYzR GA
zR HARzR HIYOzR HOLOzR HORRzR IIzR KOzR NGAAzR NUNGzR OzR ODDzR PUzR SIIzR SSUUzR TTEzR UCzR UU
zR VIYOzR WIzR YAzR YOzR YUzR YUJmDIGIT EIGHTsFIVEtOURsNINEsONEsSEVENtIXsTHREEtWOsZERO
mNUMBER EIGHTYtFIFTYuORTYtNINETYtSEVENTYuIXTYtTENuHIRTYuWENTYmOMmSMALL LETTER AzAMzANGzATzBUzDAzE
zENNzENYzGAzHARzHIYOzHOLOzHORRzIIzKOzNGAAzNUNGzOzODDzPUzSIIzSSUUzTTEzUCzUUzVIYOzWIzYAzYOzYUzYUJ
dNING SIGNcSTEBASKETcTCHdER BUFFALOgCLOSETgPOLOgWAVEfMELONcVE ARROW POINTING DIRECTLY LEFT
zTLY RIGHTfDASHdING BLACK FLAGhHAND SIGNhWHITE FLAGdY DASHfLINEgOW LINEfOVERLINE
cXING CRESCENT MOON SYMBOLhGIBBOUS MOON SYMBOLbEARY CAT FACEgFACEcDDINGdGE-TAILED RIGHTWARDS ARROW
cIERSTRASS ELLIPTIC FUNCTIONdGHT LIFTERcST SYRIAC CROSSbHALEcEELf OF DHARMAfCHAIR SYMBOL
cITE ARROW SHAFT WIDTH ONEyTWO THIRDSgBULLETgCHESS BISHOPs ROTATED NINETY DEGREES
zD TWO HUNDRED SEVENTY DEGREESmEQUIHOPPERw ROTATED NINETY DEGREESmKINGq ROTATED NINETY DEGREES
zTWO HUNDRED SEVENTY DEGREESnNIGHTs ROTATED FORTY-FIVE DEGREESzD NINETY DEGREES
zD ONE HUNDRED THIRTY-FIVE DEGREESzD THREE HUNDRED FIFTEEN DEGREESzD TWO HUNDRED SEVENTY DEGREES
zD TWO HUNDRED TWENTY-FIVE DEGREESs-BISHOPtQUEENtROOKmPAWNq ROTATED NINETY DEGREES
zTWO HUNDRED SEVENTY DEGREESmQUEENr ROTATED NINETY DEGREESz TWO HUNDRED SEVENTY DEGREESmROOK
q ROTATED NINETY DEGREESzTWO HUNDRED SEVENTY DEGREESmTURNED BISHOPtKINGuNIGHTtPAWNtQUEENtROOKhIRCLE
m CONTAINING BLACK SMALL CIRCLEnWITH DOT RIGHTuWN ARROWsLOWER LEFT QUADRANTyRIGHT QUADRANTsTWO DOTS
sUPPER LEFT QUADRANTyRIGHT QUADRANThLUB SUIThONCAVE-SIDED DIAMONDzND WITH LEFTWARDS TICK
zND WITH RIGHTWARDS TICKgDIAMONDn CONTAINING BLACK MEDIUM DIAMONDzBLACK SMALL DIAMOND
zBLACK VERY SMALL DIAMONDoIN SQUAREoSUIToWITH CENTRED DOThOWN POINTING BACKHAND INDEXuINDEX
uLEFT HAND INDEXk-POINTING SMALL TRIANGLEuTRIANGLEhRAUGHTS KINGpMANgEXCLAMATION MARK ORNAMENTgFLAG
k WITH HORIZONTAL MIDDLE BLACK STRIPEiORETTEjWERhOUR POINTED CUSPtSTARhROWNING FACE
gHARD SHELL FLOPPY DISKhEARTl SUITjVY CHECK MARKmSALTIRE WITH ROUNDED CORNERSiXAGON
hORIZONTAL ELLIPSEiURGLASSgLARGE SQUAREiTIN CROSShEFT LANE MERGElPOINTING BACKHAND INDEXuINDEX
k-POINTING POINTERuSMALL TRIANGLEuTRIANGLEhOZENGE CONTAINING BLACK SMALL LOZENGEgMEDIUM DIAMOND
nLOZENGEnSMALL SQUAREoQUAREoTARhOON SELENAgNIBgPARALLELOGRAMhENNANTjTAGONgQUESTION MARK ORNAMENT
gRECTANGLEhIGHT POINTING BACKHAND INDEXvINDEXl-POINTING PENTAGONwOINTERvSMALL TRIANGLEvTRIANGLE
gSCISSORShESAME DOThHOGI PIECEhMALL LOZENGEmSQUAREnTARiILING FACEhPADE SUIThQUAREm BUTTON
nCONTAINING BLACK MEDIUM SQUAREzLACK SMALL SQUAREzLACK VERY SMALL SQUAREnWITH CENTRE VERTICAL LINE
sLEFTWARDS TICKtOWER LEFT QUADRANTyRIGHT QUADRANTsRIGHTWARDS TICKtOUNDED CORNERS
sUPPER LEFT QUADRANTyRIGHT QUADRANTsVERTICAL BISECTING LINEhTARhUNj BEHIND CLOUDw WITH RAIN
kWITH RAYSpSMALL CLOUDgTELEPHONEhOUCHTONE TELEPHONEhRAPEZIUMiIANGLE CONTAINING SMALL WHITE TRIANGLE
hWO-WAY LEFT WAY TRAFFICgUP POINTING BACKHAND INDEXsINDEXi-POINTING CHEVRONsSMALL TRIANGLEsTRIANGLE
zE WITH DOTgVERTICAL BARpELLIPSEpRECTANGLEjY SMALL SQUAREf-FEATHERED RIGHTWARDS ARROW
bIDE-HEADED DOWNWARDS BARB ARROWwHEAVY BARB ARROWwLIGHT BARB ARROWwMEDIUM BARB ARROW
wVERY HEAVY BARB ARROWmLEFTWARDS BARB ARROWwHEAVY BARB ARROWwLIGHT BARB ARROWwMEDIUM BARB ARROW
wVERY HEAVY BARB ARROWmNORTH EAST BARB ARROWxHEAVY BARB ARROWxLIGHT BARB ARROWxMEDIUM BARB ARROW
xVERY HEAVY BARB ARROWsWEST BARB ARROWxHEAVY BARB ARROWxLIGHT BARB ARROWxMEDIUM BARB ARROW
xVERY HEAVY BARB ARROWmRIGHTWARDS BARB ARROWxHEAVY BARB ARROWxLIGHT BARB ARROWxMEDIUM BARB ARROW
xVERY HEAVY BARB ARROWmSOUTH EAST BARB ARROWxHEAVY BARB ARROWxLIGHT BARB ARROWxMEDIUM BARB ARROW
xVERY HEAVY BARB ARROWsWEST BARB ARROWxHEAVY BARB ARROWxLIGHT BARB ARROWxMEDIUM BARB ARROW
xVERY HEAVY BARB ARROWmUPWARDS BARB ARROWuHEAVY BARB ARROWuLIGHT BARB ARROWuMEDIUM BARB ARROW
uVERY HEAVY BARB ARROWcGGLY VERTICAL LINEcLTED FLOWERcND BLOWING FACEfCHIMEeOWdE GLASSdKING FACE
cRED KEYBOARDbJbOLF FACEcMANf WITH BUNNY EARSfS BOOTShCLOTHEShHAThSANDALdENS SYMBOLcN SIGNcOD
cRD JOINERfSEPARATOR MIDDLE DOTdLD MAPdMdRIED FACEbRAPPED PRESENTcEATH PRODUCTdNCHdSTLERS
cITING HANDaX IN A RECTANGLE BOXb-RAYbIANGQI BLACK CANNONpHARIOToELEPHANToGENERALoHORSEoMANDARIN
oSOLDIERiRED CANNONnHARIOTmELEPHANTmGENERALmHORSEmMANDARINmSOLDIERbORaYAWNING FACEbELLOW HEART
cN SIGNcZIDI COMBINING HAMZA MARKrMADDA MARKhHYPHENATION MARKhLETTER BEoCHHIMqIMpIMoDADqLoELIFpTpW
pYNoFAoGAFoHAYpHAoJAoKAFpHAFoLAMr WITH DOT ABOVEoMIMoNUNoOWoPEpHEoQAFoRApHAoSADpEpHINpINoTApHEoUM
oVAq ALTERNATE FORMoWAWoXApHEYNoYOTr WITH CIRCUMFLEX ABOVEoZAqLpEbI RADICAL BBUTmURlCHEmIPmUOPmYnP
nTlDDURmUlGAmEPmGOPnUOmOTlHMOmXITnOPnUOlJJIEnUTnYmOlKEmITlLInEmYRlMImOPlNBIEmYIPnOPmZUPlOPlPUTmYT
lQOTlSHATnOPnURnYmSIlTATmUlVEPmURlWOlYITmOlZAmOTmUPnRmZIETdSYLLABLE AnPnTnXmBAoPoToXnBApPpTpXoEpPpX
oIpEqPqTqXpPpTpXoOpPpTpXoUpOqPqXpPpRqXpTpXoYpPpTpXnEoPoXnIoEpPpTpXoPoToXnOoPoToXnUoOpPpXoPoRpXoToX
nYoPoRpXoToXmCAoPoToXnEoPoXnHApPpTpXoEpPpTpXoOpPpTpXoUpOqPqTqXpPpRqXpXoYpPpRqXpTpXnIoEpPpTpXoPoToX
nOoPoToXnUoOpPpXoPoRpXoToXnYoPoRpXoToXmDAoPoToXnDApPpTpXoEpPpXoIpEqPqXpPpTpXoOpPpTpXoUpOqPqXpPpRqX
pTpXnEoPoXnIoEpPpXoPoToXnOoPoToXnUoOpXoPoRpXoToXmEnXmFAoPoToXnIoPoToXnOoPoXnUoPoRpXoToXnYoPoToXmGA
oPoToXnEoPoToXnGApPpTpXoEpPpTpXoIpEqPqXpTpXoOpPpTpXoUpOqPqTqXpPpRqXpTpXnIoEpPpTpXoPoToXnOoPoToXnUoO
pPpTpXoPoRpXoToXmHAoPoToXnEoPoXnIEpXoTnLApPpTpXoEpPpXoIpEqPqXpPpTpXoOpPpXoUpOqPqXpPpRqXpTpXoYpPpRqX
pTpXnMApPpTpXoIpEqPqXpPpTpXoOpPpTpXoUpOqPqXpPpRqXpTpXoYpPpRqXpXnNApPpTpXoEpPpXoIpEqPqTqXpPpTpXoOPpT
pXoUOqXpTnOoPoToXnUOpPpTpXnXApPpTpXoEpPpXoIpEqPqTqXpPpTpXoOpPpTpXoUOqPqTqXmInEoPoToXnPnT
oERATION MARKnXmJIoEpPpTpXoPoToXnJIpEqPqTqXpPpTpXoOpPpTpXoUpOqPqXpPpRqXpTpXoYpPpTpXnOoPoToXnUoOpPpT
pXoPoRpXoToXnYoPoRpXoToXmKAoPoToXnEoPoToXnIoEpPpXoPoToXnOoPoToXnUoOpPpXoPoRpXoToXmLAoPoToXnEoPoXnI
oEpPpTpXoPoToXnOoPoToXnUoOpPpTpXoPoRpXoToXnYoPoRpXoToXmMAoPoToXnEoXnGApPpTpXoEpPpXoIEqXoOpPpTpXoUpO
qPqXpPpRqXpTpXnIoEpPpXoPoToXnOoPoToXnUoOpPpTpXoPoRpXoToXnYoPoToXmNAoPoXnBApPpTpXoIpEqPqXpPpTpXoOpP
pTpXoUpPpRqXpTpXoYpPpRqXpTpXnDApPpTpXoEpPpXoIpEqXpPpTpXoOpPpTpXoUpPpRqXpTpXnEoPoXnGApPpTpXoEpPpXoIE
qPqXoOpPpTpXoUOqTqXnIoEpPpXoPoToXnJIpEqPqTqXpPpTpXoOpPpTpXoUpOqXpPpRqXpXoYpPpRqXpTpXnOoPoToXnRApPpT
pXoEpPpTpXoOpPpXoUpPpRqXpTpXoYpPpRqXpTpXnUoOpPpXoPoRpXoToXnYIpEqPqTqXpPpTpXoOpPpTpXoUpOqPqXpPpTpX
nZApPpTpXoEpXoIpEqPqXpPpTpXoOPpXoUpOqXpPpRqXpXoYpPpRqXpTpXmOnPnTnXmPAoPoToXnIoEpPpXoPoToXnOoPoToXnU
oOpPpXoPoRpXoToXnYoPoRpXoToXmQIoEpPpTpXoPoToXnOoPoToXnUoOpPpTpXoPoRpXoToXnYoPoRpXoToXmRAoPoToXnEoP
oXnOoPoToXnRApXoEpPpTpXoOpPpTpXoUpOqXpPpRqXpTpXoYpPpRqXpTpXnUoOpPpXoPoRpXoToXnYoPoRpXoToXmSAoPoToX
nEoPoXnHApPpTpXoEpPpTpXoOpPpTpXoUpOqPqXpPpRqXpTpXoYpPpRqXpTpXnIoEpPpXoPoToXnOoPoToXnSApPpTpXoEpPpX
oIpEqPqXpPpTpXoOpPpTpXoUpPpTpXoYpPpRqXpTpXnUoOpPpXoPoRpXoToXnYoPoRpXoToXmTAoPoToXnEoPoXnIoEpPpXoPoT
oXnOoPoToXnUoOpPpTpXoPoRpXoToXmUOoPoXmVAoPoToXnEPoXnIoEpPpTpXoPoToXnOoPoToXnUoPoRpXoToXnYoPoRpXoToX
mWAoPoToXnEoPoXnOoPoXnUoOpPpXmXIoEpPpTpXoPoToXnOoPoToXnUOpXnYoPoRpXoToXmYIoEpPpTpXoPoToXnOoPoToXnU
oOpPpTpXoPoRpXoToXnYoPoRpXoToXmZAoPoToXnEoPoXnHApPpTpXoEpPpTpXoOpPpTpXoUpOqPqXpPpRqXpTpXoYpPpRqXpT
pXnIoEpPpXoPoToXnOoPoToXnUoOpPpXoPoRpXoToXnYoPoRpXoToXnZApPpTpXoEpPpXoIpEqPqTqXpPpTpXoOpPpXoUpPpRqX
pXoYpPpRqXpTpXcN YANGbO-YOaZ NOTATION BAG MEMBERSHIPlDOMAIN ANTIRESTRICTIONlLEFT BINDING BRACKET
qIMAGE BRACKETlRANGE ANTIRESTRICTIONmELATIONAL COMPOSITIONmIGHT BINDING BRACKETrIMAGE BRACKET
lSCHEMA COMPOSITIONsPIPINGtROJECTIONmPOTlTYPE COLONbANABAZAR SQUARE CLOSING DOUBLE-LINED HEAD MARK
zHEAD MARKtUSTER-FINAL LETTER LAzFINAL LETTER RAzFINAL LETTER VAzFINAL LETTER YAzINITIAL LETTER RA
rFINAL CONSONANT MARKrINITIAL DOUBLE-LINED HEAD MARKzHEAD MARKrLETTER -AyAyBAzHAyCAzHAyDAzDAzDHAzHA
zZAzZHAyGAzHAyHAyJAyKAzHAzSSAyLAyMAyNAzGAzNAzYAyPAzHAyRAySAzHAzSAyTAzHAzSAzSHAzTAzTHAyVAyYAyZAzHA
rMARK DOUBLE SHADwLONG TSHEGwSHADwTSHEGrSIGN ANUSVARAwCANDRA WITH ORNAMENTzDRABINDU
zDRABINDU WITH ORNAMENTwVIRAMAySARGAsUBJOINERrVOWEL LENGTH MARKxSIGN AIzGN AUzGN EzGN IzGN OzGN OE
zGN REVERSED IzGN UzGN UEbEBRA FACEcRO WIDTH JOINERlNO-BREAK SPACEnN-JOINERlSPACEcUS
bIPPER-MOUTH FACEbNAMENNY COMBINING ATTACHING VERTICAL OMETtLOWER TONAL RANGE INDICATOR
tMARK BORZAYAyCHASHKAzHASHKA POLNAYAzURVED OMETyDEMESTVENNY ZADERZHKAzVOETOCHIE
yGORAZDO NIZKO ON LEFTzORAZDO NIZKO ON RIGHTzORAZDO NIZKO S KRYZHEM ON LEFT
zORAZDO NIZKO S KRYZHEM ON RIGHTzORAZDO VYSOKOyKACHKAzRYZHzRYZH ON LEFTzUPNAYAyLOMKA
yMALO POVYSHE ON LEFTzALO POVYSHE ON RIGHTzALO POVYSHE S KHOKHLOM ON LEFT
zALO POVYSHE S KHOKHLOM ON RIGHTzALO POVYSHE S KRYZHEMzALO POVYSHE STRANNOyNIZKO ON LEFT
zIZKO ON RIGHTzIZKO S KRYZHEM ON LEFTzIZKO S KRYZHEM ON RIGHTyOBLACHKOzNzTSECHKAyPODCHASHIE
zODCHASHIE WITH VERTICAL STROKEzODVERTKAzOVYSHE ON LEFTzOVYSHE ON RIGHTzOVYSHE S KHOKHLOM ON LEFT
zOVYSHE S KHOKHLOM ON RIGHTzOVYSHE S KRYZHEMzOVYSHE STRANNOyRAVNOzAZSEKAySKOBAzOROCHYA NOZHKA
zREDNE ON LEFTzREDNE ON RIGHTzTRANNO MALO POVYSHEyTIKHAYAzOCHKAzSATA ON LEFTzSATA ON RIGHT
zSATA S KRYZHEMyUDARKAyVYSOKO ON LEFTzYSOKO ON RIGHTzYSOKO S KHOKHLOM ON LEFT
zYSOKO S KHOKHLOM ON RIGHTzYSOKO S KRYZHEMyZADERZHKAzELOzEVOKtTONAL RANGE MARK MRACHNO
zRANGE MARK SVETLOzRANGE MARK TRESVETLOjNEUME CHASHKArELYUSTKApDEMESTVENNY KLYUCHrRBITSA
qOUBLE ZAPYATAYAqUDAqVA V CHELNUpFITApGOLUBCHIK BORZYzMRACHNYzSVETLYzTIKHYzTRESVETLYpKHAMILOqLYUCH
qOBYLAqRYUKu TIKHYsZHqUFISMApMECHIKv KLYUCHENEPOSTOYANNYzUCHEPOVODNYzUCHEVOYwPOVODNYpNEMKApOBLAKO
qSOKAu KLYUCHEVAYA NEPOSTOYANNAYAzCHEVAYA SVETLAYAwRYUKOVAYA SVETLAYAvSVETLAYAvTRESVETLAYApPALKA
rRAKLITrUKqEREVODKAy NEPOSTOYANNAYAqODCHASHIErLKULIZMYpREVERSED CHELYUSTKAqOG
pSKAMEYTSA DVOECHELNAYA KLYUCHEVAYAzDVOECHELNAYA NEPOSTOYANNAYAzDVOECHELNAYA PROSTAYA
zDVOECHELNAYA SVETLAYAzKLYUCHENEPOSTOYANNAYAzKLYUCHEVAYA SVETLAYAzKLYUCHEVAYA TIKHAYAzMRACHNAYA
zSVETLAYAzTIKHAYAzTRESVETLAYAqLOZHITIEy S KRYZHEMzS ZAPYATOYzZAKRYTOEqTATYAv NEPOSTOYANNAYA
wS DVUMYA ZAPYATYMIyKRYZHEMzRYZHEM I ZAPYATOYyROGOMyZAPYATOYzAPYATOY I KRYZHEM
zAPYATOY I PODCHASHIEMwZAKRYTAYAzRYTAYA S ZAPYATOYrOPITSAx S OCHKOMyWITH SOROCHYA NOZHKA
rRELA DVOECHELNAYAzECHELNAYA KLYUCHEVAYAzECHELNOKRYZHEVAYAzECHELNOPOVODNAYA
zECHELNOPOVODNAYA KLYUCHEVAYAwGROMNAYAzMNAYA WITH SINGLE ZAPYATAYAzMOKRYZHEVAYA
zMOKRYZHEVAYA POVODNAYAzMOPOVODNAYAzMOPOVODNAYA WITH DOUBLE ZAPYATAYA
zMOPOVODNAYA WITH SINGLE ZAPYATAYAwKLYUCHENEPOSTOYANNAYAzUCHEPOVODNAYAxRYUKOVAYAzUKOVAYA GROMNAYA
zUKOVAYA GROMNAYA WITH SINGLE ZAPYATAYAzUKOVAYA GROMOKRYZHEVAYAzUKOVAYA GROMOKRYZHEVAYA POVODNAYA
zUKOVAYA GROMOPOVODNAYAzUKOVAYA GROMOPOVODNAYA WITH DOUBLE ZAPYATAYA
zUKOVAYA GROMOPOVODNAYA WITH SINGLE ZAPYATAYAzUKOVAYA POVODNAYAzUKOVAYA TRYASKAzZHEVAYA
wMRACHNOTIKHAYAwNEPOSTOYANNAYAwPOLUPOVODNAYAyVODNAYAxROSTAYAwTIKHAYA PUTNAYAxRYASOGLASNAYA
zASOPOVODNAYAzASOSTRELNAYApVRAKHIYA KLYUCHEVAYA MRACHNAYAzLYUCHEVAYA PROSTAYAzLYUCHEVAYA SVETLAYA
zLYUCHEVAYA TRESVETLAYAyMRACHNAYAyPROSTAYAySVETLAYAyTRESVETLAYApZANOZHEKrPYATAYAqMEYTSA
jPRIZNAK MODIFIER DIRECTION FLIPz KRYZHz LEVEL-2z LEVEL-3z ROGbOMBIEbWJcNBSPdJcSP"

end Protogen.Text
