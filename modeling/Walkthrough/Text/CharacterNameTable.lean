/-!
# The table of the names of characters

## Main definitions

* `Text.characterNameTable` — the names of characters, in alphabetical order
-/

namespace Walkthrough.Text

/-- The names of characters and their other names, in alphabetical order. Only what follows the
beginning that a name shares with the one before it is spelled, in capitals, with `_` for a space.
The small letters that follow a name tell how many of its characters, counted from its end, are not
part of that beginning: none for `a`, one for `b` and so on, and where there are several letters,
as many as all of them tell together. White space has no meaning. -/
def characterNameTable : String :=
  "ABACUSfC_CURRENTiCORDIONfUNT_OFiKaNOWLEDGEjTIVATE_ARABIC_FORM_SHAPINGtSYMMETRIC_SWAPPING
    zUTE_ACCENTfNGLEkDDRESSED_TO_THE_SUBJECTwHESIVE_BANDAGEoI_SHAKTIiLAM_ALIF_LENGTHENER
    pCAPITAL_LETTER_ALIFeBAbHEdCHIdDAALIeHAdEbFAcGAbBEdHAcIbJIIMeKAFcHAcPOdLAAMeMIIMeNHAcUNcYAdObPE
    cQAAFeRAcSHAcINNYIIYHEkTUcUbVAcWAWdYAbHEdZALrONSONANT_MODIFIERsDIGIT_EIGHTfFIVEdOUReNINEeONE
    dSEVENeIXdTHREEeWOdZEROkGEMINATE_CONSONANT_MODIFIERuION_MARKpHAMZAfINITIAL_EXCLAMATION_MARK
    qQUESTION_MARKvNASALIZATION_MARKqUKTAfSMALL_LETTER_ALIFeBAbHEdCHIdDAALIeHAdEbFAcGAbBEdHAcIbJIIM
    eKAFcHAcPOdLAAMeMIIMeNHAcUNcYAdObPEcQAAFeRAcSHAcINNYIIYHEkTUcUbVAcWAWdYAbHEdZAL
    qVOWEL_LENGTHENERuMETOSeISSION_TICKETSpULTeEGEAN_CHECK_MARKkDRY_MEASURE_FIRST_SUBUNIT
    zLIQUID_MEASURE_FIRST_SUBUNITzdMEASURE_SECOND_SUBUNIToTHIRD_SUBUNITvNUMBER_EIGHTa_HUNDRED
    hTHOUSANDjYa_THOUSANDpFIFTYa_THOUSANDmVEa_HUNDREDhTHOUSANDmORTYa_THOUSANDmURa_HUNDREDhTHOUSAND
    nNINEa_HUNDREDhTHOUSANDjTYa_THOUSANDpONEa_HUNDREDhTHOUSANDmSEVENa_HUNDREDhTHOUSANDjTYa_THOUSAND
    pIXa_HUNDREDhTHOUSANDjTYa_THOUSANDoTENa_THOUSANDlHIRTYa_THOUSANDnREEa_HUNDREDhTHOUSANDnWENTY
    a_THOUSANDnOa_HUNDREDhTHOUSANDtWEIGHT_BASE_UNITjFIRST_SUBUNITmOURTH_SUBUNIToSECOND_SUBUNIT
    oTHIRD_SUBUNITtORD_SEPARATOR_DOTdLINEyRIAL_TRAMWAYnFGHANI_SIGNlHOM_CONSONANT_SIGN_MEDIAL_LA
    bIGATING_RAlRAyDIGIT_EIGHTfFIVEdOUReNINEeONEdSEVENeIXdTHREEeWOdZEROkLETTER_AaLTERNATE_BAcGAcTA
    mBAbHAdCAbHAdDAbDAbHAdHAdGAbHAdHAcJAbHAdKAbHAdLAbLAdMAcNAbGAcNAcYAdPAbHAdRAcSAcTAbHAcTAbHA
    lNUMBER_TENcWENTYnSIGN_KILLERgRULAIfSECTIONgMALL_SECTIONrYMBOL_VIjVOWEL_SIGN_AaAbIbMbWcEbIaIcO
    bUaUrIRPLANEa_ARRIVINGiDEPARTURErKTIESELSKABlLARM_CLOCKjCHEMICAL_SYMBOL_FOR_AIRcLEMBICfKALIa-2
    gUMdMALGAMgNTIMONY_ORElQUA_REGIAa-2hVITAEa-2iFORTISjRSENICgSHESeURIPIGMENTlBATH_OF_MARYeVAPOURS
    oISMUTH_OREkLACK_SULFURlORAXa-2b3gRICKfCADUCEUSgLXcPUT_MORTUUMmINNABARhOPPER_ANTIMONIATElORE
    jROCUS_OF_COPPERa-2iIRONmUCIBLEa-2b3b4b5kDAY-NIGHTiISSOLVEa-2hTILLhEARTHfFIREeGOLDdUMdHALF_DRAM
    eOUNCEjORSE_DUNGiUReIRON_OREa-2g-COPPER_OREpLEAD_OREhODESTONEjMARCASITEiERCURY_SUBLIMATEa-2b3
    sONTHfNIGHTdTREfOILdPHILOSOPHERS_SULFURsOT_ASHEShWDERaED_BRICKnRECIPITATEkURIFYeTREFACTION
    mQUICK_LIMEhNTESSENCEmREALGARa-2hGULUSa_OF_ANTIMONYa-2kIRONi-2b3b4hTORTfOCK_SALTa-2
    lSAL-AMMONIACjTa_OF_ANTIMONYiCOPPER_ANTIMONIATEzCEPTER_OF_JOVEoILVERfOAPdPIRITfTARRED_TRIDENT
    nRATUM_SUPER_STRATUMa-2wUBLIMATE_OF_ANTIMONYiCOPPERgSALT_OF_ANTIMONYiCOPPERtIONjLFURgTARTARa-2
    hIN_OREeCTUREhRIDENTgUTTYfURINEfVERDIGRISiINEGARa_OF_ANTIMONYm-2b3hTRIOLa-2jWATERdXxEF_SYMBOL
    iMBICeRTdIEN_MONSTERlL_AROUND-PROFILEoEQUAL_TOkMaOST_EQUAL_OR_EQUAL_TOlTO
    a_WITH_CIRCUMFLEX_ACCENTzlTERNATE_ONE-WAY_LEFT_WAY_TRAFFICzbIVE_KEY_SYMBOL
    vMALGAMATION_OR_COPRODUCTxBULANCEhERICAN_FOOTBALLpPERSANDgHORAgNATOLIAN_HIEROGLYPH_A001b2b3b4b5
    b6b7b8b9c10aAc1b2b3b4b5b6b7b8b9c20b1b2b3b4b5b6aAc7b8b9c30b1b2b3b4b5b6b7b8b9aAd40b1aAc2b3b4b5aA
    c6aAbBc7b8b9c50b1b2b3b4b5b6b7b8b9c60b1b2b3b4b5b6aAbBbCc7b8b9c70b1b2b3b4b5b6b7b8b9c80b1b2b3b4b5
    b6b7b8b9c90b1b2b3b4b5b6b7aAc8aAc9d100aAc1aAc2aAc3b4aAbBbCc5aAbBc6b7aAbBbCc8b9c10aAbBc1b2b3b4b5
    aAc6b7b8b9c20b1b2b3b4b5aAc6b7b8b9c30b1b2b3b4b5aAc6b7b8b9c40b1b2b3b4b5b6b7b8b9c50b1b2b3b4b5b6b7
    b8b9c60b1b2b3b4b5b6b7b8b9c70b1b2b3b4b5b6b7b8b9c80b1b2b3b4b5b6b7b8b9c90b1b2b3b4b5b6b7b8b9d200b1
    b2aAbBc3b4b5b6b7aAc8b9aAd10b1b2b3b4b5aAc6aAc7b8b9c20b1b2b3b4b5b6b7aAc8b9c30b1b2b3b4b5b6b7b8b9
    c40b1b2b3b4b5b6b7b8b9c50b1b2b3b4b5b6b7b8b9c60b1b2b3b4b5b6b7aAc8b9c70b1b2b3b4b5b6b7b8b9c80b1b2b3
    b4b5b6b7b8b9aAd90b1b2b3b4aAc5b6b7b8b9aAe300b1b2b3b4b5b6b7b8b9aAd10b1b2b3b4b5b6b7b8b9c20b1b2b3b4
    b5b6b7b8b9aAd30b1b2AbBbCc3b4b5b6aAbBbCc7b8b9c40b1b2b3b4b5b6b7b8b9c50b1b2b3b4b5b6b7b8b9aAd60b1b2
    b3b4aAc5b6b7b8aAc9c70b1aAc2b3b4b5b6b7b8b9c80b1aAc2b3_RA_OR_RIjAc4b5b6aAc7b8b9c90b1b2b3_EIGHTh4
    b5b6b7b8b9d400b1b2b3b4b5b6b7b8b9c10_BEGIN_LOGOGRAM_MARKuA_END_LOGOGRAM_MARKu1b2b3b4b5b6b7b8b9
    c20b1b2b3b4b5b6b7b8b9c30b1b2b3b4b5b6b7b8b9c40b1b2b3b4b5b6b7b8b9c50aAc1b2b3b4b5b6b7aAc8b9c60b1b2
    b3b4b5b6b7b8b9c70b1b2b3b4b5b6b7b8b9c80b1b2b3b4b5b6b7b8b9c90b1b2b3b4b5b6b7d501b2b3b4b5b6b7b8b9
    c10b1b2b3b4b5b6b7b8b9c20b1b2b3b4b5b6b7b8b9c30uMICAL_HEARToCHOReD_WITH_DOTkGER_SYMBOLjLE
    a_WITH_S_INSIDEiUNDERBARqRY_FACEhSTROM_SIGNkUISHED_FACEmKHcTaENNA_WITH_BARS
    oICLOCKWISE_CLOSED_CIRCLE_ARROWsONTOUR_INTEGRALqDOWNWARDS_AND_UPWARDS_OPEN_CIRCLE_ARROWS
    zpGAPPED_CIRCLE_ARROWtINTEGRATIONlOPEN_CIRCLE_ARROWrTOP_SEMICIRCLE_ARROW
    tRIANGLE-HEADED_BOTTOM_U-SHAPED_ARROWvLEFT_U-SHAPED_ARROWtOPEN_CIRCLE_ARROW
    rRIGHT_U-SHAPED_ARROWuTOP_U-SHAPED_ARROWzwPCbL_FUNCTIONAL_SYMBOL_ALPHAa_UNDERBARoBACKSLASH_BAR
    nCIRCLE_BACKSLASHjDIAERESISjJOTdSTARcILEfUNDERBARoOMMA_BARjDEL_DIAERESISjSTILEfTILDEgTA_STILE
    fUNDERBARnIAMOND_UNDERBARpOWN_CARET_TILDElSHOE_STILEkTACK_JOTdUNDERBARoWARDS_VANE
    oEPSILON_UNDERBARqGREATER-THAN_DIAERESISwI-BEAMfOTAa_UNDERBARnJOT_DIAERESISjUNDERBAR
    mLEFT_SHOE_STILElWARDS_VANEoOMEGAa_UNDERBARoQUADa_BACKSLASHjCIRCLEfOLONfDELaTAeIAMONDfVIDE
    fOWN_CARETgWARDS_ARROWpEQUALfGREATER-THANmJOTdLEFTWARDS_ARROWnSS-THANjNOT_EQUALjQUESTION
    iRIGHTWARDS_ARROWqSLASHfUP_CARETgWARDS_ARROWqOTE_QUADeUNDERBARoRHOcIGHTWARDS_VANE
    pSEMICOLON_UNDERBARrLASH_BARiQUISH_QUADkTAR_DIAERESISmILE_TILDElTILDE_DIAERESISpUP_CARET_TILDE
    lSHOE_JOTiTACK_DIAERESISjJOTdOVERBARnWARDS_VANEmZILDEzOLLONeSTROPHEiPLICATION_PROGRAM_COMMAND
    yROACHES_THE_LIMITpXIMATELY_BUT_NOT_ACTUALLY_EQUAL_TOzEQUAL_OR_EQUAL_TOlTOa_OR_THE_IMAGE_OF
    zmQUARIUShRABIC_BASELINE_ROUND_DOTsCOMMAeURLY_DAMMAaTANiFATHAaTANiKASRAaTANoDAMMA
    a_ISOLATED_FORMnMEDIAL_FORMlWITH_DOTjTANa_ISOLATED_FORMuTE_SEPARATORnECIMAL_SEPARATOR
    qISPUTED_END_OF_AYAHtOUBLE_RIGHT_ARROWHEAD_ABOVEa_WITH_DOTzgD_MADDAnEMPTY_CENTRE_HIGH_STOP
    jLOW_STOPuND_OF_AYAHeTEXT_MARKqFATHAa_ISOLATED_FORMnMEDIAL_FORMlWITH_DOT_ABOVEjRINGeTWO_DOTS
    oTANa_ISOLATED_FORMvIVE_POINTED_STARqOOTNOTE_MARKERoULL_STOPjHALF_MADDA_OVER_MADDAtMZA_ABOVE
    fBELOWlINVERTED_DAMMAoKASRAa_ISOLATED_FORMnMEDIAL_FORMlWITH_DOT_BELOWpTANa_ISOLATED_FORM
    wLARGE_CIRCLE_BELOWmROUND_DOT_ABOVEfBELOWfINSIDE_CIRCLE_BELOWzjEFT_ARROWHEAD_ABOVEfBELOW
    sTTER_AEbFRICAN_FEHdNOONeQAFa_WITH_THREE_DOTS_ABOVEzhINa_FINAL_FORMkINITIAL_FORMlSOLATED_FORM
    nMEDIAL_FORMlWITH_THREE_DOTS_ABOVEfBELOWfPOINTING_DOWNWARDS_ABOVEzjWO_DOTS_ABOVE
    fVERTICALLY_ABOVEziLEFa_FINAL_FORMkISOLATED_FORMnMAKSURAa_FINAL_FORMkISOLATED_FORMvWASLA
    a_FINAL_FORMkISOLATED_FORMsITH_ATTACHED_BOTTOM_RIGHT_KASRAa_AND_DOT_ABOVEjLEFT_RINGzhFATHA
    fKASRAfLEFT_HAMZAfROUND_DOToRIGHT_HAMZAfROUND_DOToOUND_DOT_ABOVEfBELOWpTOP_RIGHT_FATHA
    a_AND_DOT_ABOVEjLEFT_RINGznDOT_ABOVEjEXTENDED_ARABIC-INDIC_DIGIT_THREE_ABOVEkWO_ABOVE
    zmHAMZA_ABOVEa_FINAL_FORMkISOLATED_FORMtBELOWa_FINAL_FORMkISOLATED_FORMzLEFT_MIDDLE_STROKE
    sMADDA_ABOVEa_FINAL_FORMkISOLATED_FORMzRIGHT_MIDDLE_STROKEa_AND_DOT_ABOVEjLEFT_RING
    ziWAVY_HAMZA_ABOVEfBELOWzbBEEHa_FINAL_FORMkINITIAL_FORMlSOLATED_FORMnMEDIAL_FORMoHa_FINAL_FORM
    kINITIAL_FORMlSOLATED_FORMnMEDIAL_FORMlWITH_DOT_BELOW_AND_THREE_DOTS_ABOVEzfHAMZA_ABOVE
    lINVERTED_SMALL_V_BELOWwSMALL_MEEM_ABOVEkVa_BELOWnTHREE_DOTS_HORIZONTALLY_BELOW
    sPOINTING_UPWARDS_BELOWa_AND_TWO_DOTS_ABOVEzzbWO_DOTS_BELOW_AND_DOT_ABOVEzjEHa_FINAL_FORM
    kINITIAL_FORMlSOLATED_FORMnMEDIAL_FORMrDADa_FINAL_FORMkINITIAL_FORMlSOLATED_FORMnMEDIAL_FORM
    lWITH_DOT_BELOWqHALa_FINAL_FORMkISOLATED_FORMrLa_FINAL_FORMkISOLATED_FORMnWITH_DOT_BELOW
    a_AND_SMALL_TAHxFOUR_DOTS_ABOVEpINVERTED_SMALL_V_BELOWnVkRINGeTHREE_DOTS_ABOVE_DOWNWARDSpBELOW
    pWO_DOTS_VERTICALLY_BELOW_AND_SMALL_TAHzwDAHALa_FINAL_FORMkISOLATED_FORMrLa_FINAL_FORM
    kISOLATED_FORMrOTLESS_BEHdFEHdQAFkULa_FINAL_FORMkISOLATED_FORMqYEHa_FINAL_FORMkINITIAL_FORM
    lSOLATED_FORMnMEDIAL_FORMqEa_FINAL_FORMkINITIAL_FORMlSOLATED_FORMnMEDIAL_FORMnFARSI_YEH
    a_FINAL_FORMkINITIAL_FORMlSOLATED_FORMnMEDIAL_FORMlWITH_EXTENDED_ARABIC-INDIC_DIGIT_FOUR_BELOW
    kTHREE_ABOVEkWO_ABOVEzmINVERTED_VkTHREE_DOTS_ABOVEpWO_DOTS_ABOVEzdEHa_FINAL_FORMkINITIAL_FORM
    lSOLATED_FORMnMEDIAL_FORMlWITH_DOT_BELOWa_AND_THREE_DOTS_ABOVEzbMOVED_BELOWpTHREE_DOTS_BELOW
    fPOINTING_UPWARDS_BELOWzhWO_DOTS_BELOWxGAFa_FINAL_FORMkINITIAL_FORMlSOLATED_FORMnMEDIAL_FORM
    lWITH_INVERTED_STROKEpRINGeTHREE_DOTS_ABOVEpWO_DOTS_BELOWwHAINa_FINAL_FORMkINITIAL_FORM
    lSOLATED_FORMnMEDIAL_FORMlWITH_DOT_BELOWjTHREE_DOTS_ABOVEzbRAFdUEHa_FINAL_FORMkINITIAL_FORM
    lSOLATED_FORMnMEDIAL_FORMqHAHa_FINAL_FORMkINITIAL_FORMlSOLATED_FORMnMEDIAL_FORM
    lWITH_EXTENDED_ARABIC-INDIC_DIGIT_FOUR_BELOWznHAMZA_ABOVElINVERTED_SMALL_V_BELOW
    wSMALL_ARABIC_LETTER_TAH_ABOVEeND_TWO_DOTSmBELOWzeTHREE_DOTS_ABOVEfPOINTING_UPWARDS_BELOW
    zhWO_DOTS_ABOVEfVERTICAL_ABOVEzfMZAa_ISOLATED_FORMsEHa_DOACHASHMEEa_FINAL_FORMkINITIAL_FORM
    lSOLATED_FORMnMEDIAL_FORMxFINAL_FORMkGOALa_FINAL_FORMkINITIAL_FORMlSOLATED_FORMnMEDIAL_FORM
    lWITH_HAMZA_ABOVEvINITIAL_FORMlSOLATED_FORMnMEDIAL_FORMlWITH_INVERTED_VkYEH_ABOVEa_FINAL_FORM
    kISOLATED_FORMzgIGH_HAMZAa_ALEFeWAWdYEHoJEEMa_FINAL_FORMkINITIAL_FORMlSOLATED_FORMnMEDIAL_FORM
    lWITH_THREE_DOTS_ABOVEfBELOWpWO_DOTS_ABOVEwHa_FINAL_FORMkISOLATED_FORMrKAFa_FINAL_FORM
    kINITIAL_FORMlSOLATED_FORMnMEDIAL_FORMlWITH_DOT_ABOVEfBELOWjRINGeTHREE_DOTS_BELOWpWO_DOTS_ABOVE
    vSHMIRI_YEHlEHEHa_FINAL_FORMkINITIAL_FORMlSOLATED_FORMnMEDIAL_FORMlWITH_DOT_ABOVEjSMALL_V
    hTHREE_DOTS_ABOVEfBELOWfPOINTING_UPWARDS_BELOWzhWO_DOTS_ABOVEfVERTICALLY_BELOWzkHAHa_FINAL_FORM
    kINITIAL_FORMlSOLATED_FORMnMEDIAL_FORMpIRGHIZ_OEa_FINAL_FORMkISOLATED_FORMqYUa_FINAL_FORM
    kISOLATED_FORMyLAMa_FINAL_FORMkINITIAL_FORMlSOLATED_FORMnMEDIAL_FORMlWITH_BARdDOT_ABOVE
    hUBLE_BARkSMALL_ARABIC_LETTER_TAH_ABOVExVhTHREE_DOTS_ABOVEfBELOWyOW_ALEFiMARKdEEMa_FINAL_FORM
    kINITIAL_FORMlSOLATED_FORMnMEDIAL_FORMlWITH_DOT_ABOVEfBELOWjTHREE_DOTS_ABOVEzbNGa_FINAL_FORM
    kINITIAL_FORMlSOLATED_FORMnMEDIAL_FORMmOEHa_FINAL_FORMkINITIAL_FORMlSOLATED_FORMnMEDIAL_FORM
    qOONa_FINAL_FORMkGHUNNAa_FINAL_FORMkISOLATED_FORMuINITIAL_FORMlSOLATED_FORMnMEDIAL_FORM
    lWITH_DOT_BELOWjINVERTED_SMALL_VqRINGeSMALL_TAHdVhTHREE_DOTS_ABOVEpWO_DOTS_BELOWxYEH
    a_FINAL_FORMkINITIAL_FORMlSOLATED_FORMnMEDIAL_FORMqOEa_FINAL_FORMkISOLATED_FORMqPEHa_FINAL_FORM
    kINITIAL_FORMlSOLATED_FORMnMEDIAL_FORMlWITH_SMALL_MEEM_ABOVEkVnEHa_FINAL_FORMkINITIAL_FORM
    lSOLATED_FORMnMEDIAL_FORMrQAFa_FINAL_FORMkINITIAL_FORMlSOLATED_FORMnMEDIAL_FORMlWITH_DOT_ABOVE
    fBELOWa_AND_NO_DOTS_ABOVEzcTHREE_DOTS_ABOVEzREHa_FINAL_FORMkISOLATED_FORMnWITH_DOT_BELOW
    a_AND_DOT_ABOVExFOUR_DOTS_ABOVEpHAMZA_ABOVElINVERTED_VkLOOPeRING
    eSMALL_ARABIC_LETTER_TAH_AND_TWO_DOTSzfNOON_ABOVEkVa_BELOWmTROKEgTWO_DOTS_ABOVE
    fVERTICALLY_ABOVEziNOONa_FINAL_FORMkINITIAL_FORMlSOLATED_FORMnMEDIAL_FORMqOHINGYA_YEHlREH
    a_FINAL_FORMkISOLATED_FORMsSADa_FINAL_FORMkINITIAL_FORMlSOLATED_FORMnMEDIAL_FORM
    lWITH_THREE_DOTS_ABOVEfBELOWpWO_DOTS_BELOWwEENa_FINAL_FORMkINITIAL_FORMlSOLATED_FORM
    nMEDIAL_FORMlWITH_DOT_BELOW_AND_DOT_ABOVExEXTENDED_ARABIC-INDIC_DIGIT_FOUR_ABOVE
    znFOUR_DOTS_ABOVEpINVERTED_VkSMALL_ARABIC_LETTER_TAH_AND_TWO_DOTSzlTHREE_DOTS_BELOW
    a_AND_THREE_DOTS_ABOVEzlWO_DOTS_VERTICALLY_ABOVEzjHEENa_FINAL_FORMkINITIAL_FORMlSOLATED_FORM
    nMEDIAL_FORMlWITH_DOT_BELOWtTRAIGHT_WAWlUPERSCRIPT_ALEFpWASH_KAFjTAHa_FINAL_FORMkINITIAL_FORM
    lSOLATED_FORMnMEDIAL_FORMlWITH_DOT_BELOWjTHREE_DOTS_ABOVEfBELOWpWO_DOTS_ABOVEwCHEHa_FINAL_FORM
    kINITIAL_FORMlSOLATED_FORMnMEDIAL_FORMlWITH_DOT_ABOVEjSMALL_VnEHa_FINAL_FORMkINITIAL_FORM
    lSOLATED_FORMnMEDIAL_FORMsEHa_FINAL_FORMkINITIAL_FORMlSOLATED_FORMnMARBUTAa_FINAL_FORMkGOAL
    eISOLATED_FORMuEDIAL_FORMlWITH_RINGeSMALL_TEH_ABOVEjVhTHREE_DOTS_ABOVE_DOWNWARDSzhEH
    a_FINAL_FORMkINITIAL_FORMlSOLATED_FORMnMEDIAL_FORMqHALa_FINAL_FORMkISOLATED_FORMqEHa_FINAL_FORM
    kINITIAL_FORMlSOLATED_FORMnMEDIAL_FORMoIN_YEHhTEHa_FINAL_FORMkINITIAL_FORMlSOLATED_FORM
    nMEDIAL_FORMlWITH_SMALL_VnEHa_FINAL_FORMkINITIAL_FORMlSOLATED_FORMnMEDIAL_FORMsUa_FINAL_FORM
    kISOLATED_FORMnWITH_HAMZA_ABOVEa_ISOLATED_FORMzgIGHUR_KAZAKH_KIRGHIZ_ALEF_MAKSURA_INITIAL_FORM
    mMEDIAL_FORMzvVEa_FINAL_FORMkISOLATED_FORMoHa_FINAL_FORMkINITIAL_FORMlSOLATED_FORMnMEDIAL_FORM
    pWAWa_FINAL_FORMkISOLATED_FORMnWITH_DOT_ABOVEfWITHINkEXTENDED_ARABIC-INDIC_DIGIT_THREE_ABOVE
    kWO_ABOVEzmHAMZA_ABOVEa_FINAL_FORMkISOLATED_FORMzRINGeTWO_DOTS_ABOVExYEHa_BARREEa_FINAL_FORM
    kISOLATED_FORMnWITH_EXTENDED_ARABIC-INDIC_DIGIT_THREE_ABOVEkWO_ABOVEzmHAMZA_ABOVEa_FINAL_FORM
    kISOLATED_FORMzmFINAL_FORMkINITIAL_FORMlSOLATED_FORMnMEDIAL_FORMlWITH_HAMZA_ABOVEa_FINAL_FORM
    kINITIAL_FORMlSOLATED_FORMnMEDIAL_FORMxSMALL_VhTAILdHREE_DOTS_BELOWpWO_DOTS_BELOW_AND_DOT_ABOVE
    jHAMZA_ABOVElSMALL_NOON_ABOVEzsUa_FINAL_FORMkISOLATED_FORMqZAHa_FINAL_FORMkINITIAL_FORM
    lSOLATED_FORMnMEDIAL_FORMnINa_FINAL_FORMkISOLATED_FORMnWITH_INVERTED_V_ABOVE
    zhIGATURE_AIN_WITH_ALEF_MAKSURA_FINAL_FORMkISOLATED_FORMzbJEEM_INITIAL_FORMlSOLATED_FORM
    nWITH_MEEM_FINAL_FORMkINITIAL_FORMzcMEEM_INITIAL_FORMlSOLATED_FORMnWITH_ALEF_MAKSURA_FINAL_FORM
    xMEEM_FINAL_FORMkINITIAL_FORMrYEH_FINAL_FORMyYEH_FINAL_FORMkISOLATED_FORMzKBAR_ISOLATED_FORM
    sLAYHAA_AS-SALAAMmE_ISOLATED_FORMpI_AS-SALAAMbTU_WAS-SALAAMwM_AS-SALAAMkAA_AS-SALAAM
    rEF_MAKSURA_WITH_SUPERSCRIPT_ALEF_FINAL_FORMkISOLATED_FORMzsWITH_FATHATAN_FINAL_FORM
    kISOLATED_FORMzfLAH_ISOLATED_FORMsZZA_WA_JALLmBEH_WITH_ALEF_MAKSURA_FINAL_FORMkISOLATED_FORM
    zbHAH_INITIAL_FORMlSOLATED_FORMnWITH_YEH_FINAL_FORMwEH_INITIAL_FORMmMEDIAL_FORM
    pJEEM_INITIAL_FORMlSOLATED_FORMsKHAH_INITIAL_FORMlSOLATED_FORMnWITH_YEH_FINAL_FORM
    yMEEM_FINAL_FORMkINITIAL_FORMlSOLATED_FORMnMEDIAL_FORMqNOON_FINAL_FORMpREH_FINAL_FORM
    oYEH_FINAL_FORMkISOLATED_FORMrZAIN_FINAL_FORMxISMILLAH_AR-RAHMAN_AR-RAHEEM
    zeDAD_WITH_ALEF_MAKSURA_FINAL_FORMkISOLATED_FORMzbHAH_INITIAL_FORMlSOLATED_FORM
    nWITH_ALEF_MAKSURA_FINAL_FORMxYEH_FINAL_FORMxJEEM_INITIAL_FORMlSOLATED_FORMsKHAH_INITIAL_FORM
    lSOLATED_FORMnWITH_MEEM_FINAL_FORMkINITIAL_FORMzcMEEM_INITIAL_FORMlSOLATED_FORMsREH_FINAL_FORM
    kISOLATED_FORMrYEH_FINAL_FORMkISOLATED_FORMzbFEH_WITH_ALEF_MAKSURA_FINAL_FORMkISOLATED_FORM
    zbHAH_INITIAL_FORMlSOLATED_FORMrJEEM_INITIAL_FORMlSOLATED_FORMsKHAH_INITIAL_FORMlSOLATED_FORM
    nWITH_MEEM_FINAL_FORMkINITIAL_FORMzcMEEM_INITIAL_FORMlSOLATED_FORMnWITH_YEH_FINAL_FORM
    yYEH_FINAL_FORMkISOLATED_FORMzbGHAIN_WITH_ALEF_MAKSURA_FINAL_FORMkISOLATED_FORM
    zbJEEM_INITIAL_FORMlSOLATED_FORMsMEEM_INITIAL_FORMlSOLATED_FORMnWITH_ALEF_MAKSURA_FINAL_FORM
    xMEEM_FINAL_FORMpYEH_FINAL_FORMyYEH_FINAL_FORMkISOLATED_FORMzdHAH_WITH_ALEF_MAKSURA_FINAL_FORM
    kISOLATED_FORMzbJEEM_INITIAL_FORMlSOLATED_FORMnWITH_YEH_FINAL_FORMyMEEM_INITIAL_FORM
    lSOLATED_FORMnWITH_ALEF_MAKSURA_FINAL_FORMxYEH_FINAL_FORMyYEH_FINAL_FORMkISOLATED_FORM
    zEH_WITH_ALEF_MAKSURA_ISOLATED_FORMzbJEEM_INITIAL_FORMlSOLATED_FORMsMEEM_INITIAL_FORM
    lSOLATED_FORMnWITH_JEEM_INITIAL_FORMrMEEM_INITIAL_FORMzcSUPERSCRIPT_ALEF_INITIAL_FORM
    zeYEH_ISOLATED_FORMzbJALLAJALALOUHOUoEEM_WITH_ALEF_MAKSURA_FINAL_FORMkISOLATED_FORM
    zbHAH_INITIAL_FORMlSOLATED_FORMnWITH_ALEF_MAKSURA_FINAL_FORMxYEH_FINAL_FORMxMEEM_INITIAL_FORM
    lSOLATED_FORMnWITH_ALEF_MAKSURA_FINAL_FORMxHAH_FINAL_FORMkINITIAL_FORMqYEH_FINAL_FORM
    yYEH_FINAL_FORMkISOLATED_FORMzcKAF_WITH_ALEF_FINAL_FORMkISOLATED_FORMnMAKSURA_FINAL_FORM
    kISOLATED_FORMzbHAH_INITIAL_FORMlSOLATED_FORMrJEEM_INITIAL_FORMlSOLATED_FORMsKHAH_INITIAL_FORM
    lSOLATED_FORMsLAM_FINAL_FORMkINITIAL_FORMlSOLATED_FORMnMEDIAL_FORMpMEEM_FINAL_FORMkINITIAL_FORM
    lSOLATED_FORMnMEDIAL_FORMlWITH_MEEM_FINAL_FORMkINITIAL_FORMrYEH_FINAL_FORMyYEH_FINAL_FORM
    kISOLATED_FORMzHAH_WITH_ALEF_MAKSURA_FINAL_FORMkISOLATED_FORMzbHAH_ISOLATED_FORM
    rJEEM_INITIAL_FORMlSOLATED_FORMsMEEM_INITIAL_FORMlSOLATED_FORMsYEH_FINAL_FORMkISOLATED_FORM
    zcLAM_WITH_ALEF_FINAL_FORMkISOLATED_FORMnMAKSURA_FINAL_FORMkISOLATED_FORM
    vWITH_HAMZA_ABOVE_FINAL_FORMkISOLATED_FORMtBELOW_FINAL_FORMkISOLATED_FORM
    zMADDA_ABOVE_FINAL_FORMkISOLATED_FORMzkHAH_INITIAL_FORMlSOLATED_FORM
    nWITH_ALEF_MAKSURA_FINAL_FORMxMEEM_FINAL_FORMkINITIAL_FORMrYEH_FINAL_FORMwEH_INITIAL_FORM
    qJEEM_INITIAL_FORMlSOLATED_FORMnWITH_JEEM_FINAL_FORMkINITIAL_FORMrMEEM_FINAL_FORMkINITIAL_FORM
    rYEH_FINAL_FORMyKHAH_INITIAL_FORMlSOLATED_FORMnWITH_MEEM_FINAL_FORMkINITIAL_FORM
    zcMEEM_FINAL_FORMkINITIAL_FORMlSOLATED_FORMnMEDIAL_FORMlWITH_HAH_FINAL_FORMkINITIAL_FORM
    qYEH_FINAL_FORMyYEH_FINAL_FORMkISOLATED_FORMzbMEEM_WITH_ALEF_FINAL_FORMkMAKSURA_ISOLATED_FORM
    zbHAH_INITIAL_FORMlSOLATED_FORMnWITH_JEEM_INITIAL_FORMrMEEM_INITIAL_FORMrYEH_FINAL_FORM
    xJEEM_INITIAL_FORMlSOLATED_FORMnWITH_HAH_INITIAL_FORMqKHAH_INITIAL_FORMrMEEM_INITIAL_FORM
    rYEH_FINAL_FORMyKHAH_INITIAL_FORMlSOLATED_FORMnWITH_JEEM_INITIAL_FORMrMEEM_INITIAL_FORM
    rYEH_FINAL_FORMyMEEM_FINAL_FORMkINITIAL_FORMlSOLATED_FORMnWITH_YEH_FINAL_FORMyYEH_ISOLATED_FORM
    zbOHAMMAD_ISOLATED_FORMwNOON_WITH_ALEF_MAKSURA_FINAL_FORMkISOLATED_FORMzbHAH_INITIAL_FORM
    lSOLATED_FORMnWITH_ALEF_MAKSURA_FINAL_FORMxMEEM_INITIAL_FORMrYEH_FINAL_FORMwEH_INITIAL_FORM
    mMEDIAL_FORMpJEEM_INITIAL_FORMlSOLATED_FORMnWITH_ALEF_MAKSURA_FINAL_FORMxHAH_FINAL_FORM
    kINITIAL_FORMqMEEM_FINAL_FORMkINITIAL_FORMrYEH_FINAL_FORMyKHAH_INITIAL_FORMlSOLATED_FORM
    sMEEM_FINAL_FORMkINITIAL_FORMlSOLATED_FORMnMEDIAL_FORMlWITH_ALEF_MAKSURA_FINAL_FORM
    xYEH_FINAL_FORMyNOON_FINAL_FORMpREH_FINAL_FORMoYEH_FINAL_FORMkISOLATED_FORMrZAIN_FINAL_FORM
    zQAF_WITH_ALEF_MAKSURA_FINAL_FORMkISOLATED_FORMzbHAH_INITIAL_FORMlSOLATED_FORM
    rMEEM_INITIAL_FORMlSOLATED_FORMnWITH_HAH_FINAL_FORMkINITIAL_FORMqMEEM_FINAL_FORMpYEH_FINAL_FORM
    yYEH_FINAL_FORMkISOLATED_FORMyLA_USED_AS_KORANIC_STOP_SIGN_ISOLATED_FORMzsUDDISA_SIRRAH
    oRADI_ALLAAHU_ANHaAAcUMaAAdNNAsHIMAHU_ALLAAHhM_ALLAAHoSOUL_ISOLATED_FORM
    tEH_WITH_SUPERSCRIPT_ALEF_ISOLATED_FORMzoSAD_WITH_ALEF_MAKSURA_FINAL_FORMkISOLATED_FORM
    zbHAH_INITIAL_FORMlSOLATED_FORMnWITH_HAH_FINAL_FORMkINITIAL_FORMqYEH_FINAL_FORM
    xKHAH_INITIAL_FORMrMEEM_INITIAL_FORMlSOLATED_FORMnWITH_MEEM_FINAL_FORMkINITIAL_FORM
    zcREH_FINAL_FORMkISOLATED_FORMrYEH_FINAL_FORMkISOLATED_FORMyLAAMUHU_ALAYNAAnM_ISOLATED_FORM
    qLA_ISOLATED_FORMnUSED_AS_KORANIC_STOP_SIGN_ISOLATED_FORMzpLLAAHU_ALAYHI_WA-AALIH
    tHOU_ALAYHE_WASALLAMsU_ALAYHI_WAAALIHEE_WA-SALLAMzlEEN_WITH_ALEF_MAKSURA_FINAL_FORM
    kISOLATED_FORMzbHAH_INITIAL_FORMlSOLATED_FORMnMEDIAL_FORMlWITH_JEEM_INITIAL_FORM
    zEH_INITIAL_FORMmMEDIAL_FORMpJEEM_INITIAL_FORMlSOLATED_FORMnMEDIAL_FORM
    lWITH_ALEF_MAKSURA_FINAL_FORMxHAH_INITIAL_FORMzbKHAH_INITIAL_FORMlSOLATED_FORMnMEDIAL_FORM
    lWITH_ALEF_MAKSURA_FINAL_FORMxYEH_FINAL_FORMyMEEM_INITIAL_FORMlSOLATED_FORMnMEDIAL_FORM
    lWITH_HAH_FINAL_FORMkINITIAL_FORMqJEEM_INITIAL_FORMrMEEM_FINAL_FORMkINITIAL_FORM
    zcREH_FINAL_FORMkISOLATED_FORMrYEH_FINAL_FORMkISOLATED_FORMzbHADDA_WITH_DAMMA_ISOLATED_FORM
    nMEDIAL_FORMmTAN_ISOLATED_FORMwFATHA_ISOLATED_FORMnMEDIAL_FORMrKASRA_ISOLATED_FORMnMEDIAL_FORM
    mTAN_ISOLATED_FORMwSUPERSCRIPT_ALEF_ISOLATED_FORMzpEEN_WITH_ALEF_MAKSURA_FINAL_FORM
    kISOLATED_FORMzbHAH_FINAL_FORMkINITIAL_FORMlSOLATED_FORMnMEDIAL_FORMlWITH_MEEM_FINAL_FORM
    kINITIAL_FORMrYEH_FINAL_FORMwEH_INITIAL_FORMmMEDIAL_FORMpJEEM_FINAL_FORMkINITIAL_FORM
    lSOLATED_FORMnMEDIAL_FORMlWITH_YEH_FINAL_FORMyKHAH_FINAL_FORMkINITIAL_FORMlSOLATED_FORM
    nMEDIAL_FORMqMEEM_FINAL_FORMkINITIAL_FORMlSOLATED_FORMnMEDIAL_FORMlWITH_KHAH_FINAL_FORM
    kINITIAL_FORMrMEEM_FINAL_FORMkINITIAL_FORMzcREH_FINAL_FORMkISOLATED_FORMrYEH_FINAL_FORM
    kISOLATED_FORMzcUBHAANAHU_WA_TAAALAAvTABAARAKA_WA-TAAALAAsH_WITH_ALEF_MAKSURA_FINAL_FORM
    kISOLATED_FORMzbHAH_INITIAL_FORMlSOLATED_FORMrMEEM_INITIAL_FORMlSOLATED_FORMnMEDIAL_FORM
    lWITH_HAH_FINAL_FORMkINITIAL_FORMqMEEM_INITIAL_FORMrYEH_FINAL_FORMyYEH_FINAL_FORMkISOLATED_FORM
    zEH_WITH_ALEF_MAKSURA_FINAL_FORMkISOLATED_FORMzbHAH_INITIAL_FORMlSOLATED_FORM
    nWITH_JEEM_FINAL_FORMkINITIAL_FORMrMEEM_INITIAL_FORMzEH_INITIAL_FORMmMEDIAL_FORM
    pJEEM_INITIAL_FORMlSOLATED_FORMnWITH_ALEF_MAKSURA_FINAL_FORMxMEEM_INITIAL_FORMrYEH_FINAL_FORM
    yKHAH_INITIAL_FORMlSOLATED_FORMnWITH_ALEF_MAKSURA_FINAL_FORMxMEEM_INITIAL_FORMrYEH_FINAL_FORM
    yMEEM_FINAL_FORMkINITIAL_FORMlSOLATED_FORMnMEDIAL_FORMlWITH_ALEF_MAKSURA_FINAL_FORM
    xHAH_INITIAL_FORMqJEEM_INITIAL_FORMrKHAH_INITIAL_FORMrYEH_FINAL_FORMyNOON_FINAL_FORM
    pREH_FINAL_FORMoYEH_FINAL_FORMkISOLATED_FORMrZAIN_FINAL_FORM
    xHAL_WITH_SUPERSCRIPT_ALEF_ISOLATED_FORMznEH_WITH_ALEF_MAKSURA_FINAL_FORMkISOLATED_FORM
    zbHEH_MEDIAL_FORMpJEEM_ISOLATED_FORMsMEEM_FINAL_FORMkINITIAL_FORMlSOLATED_FORMnMEDIAL_FORM
    qNOON_FINAL_FORMpREH_FINAL_FORMoYEH_FINAL_FORMkISOLATED_FORMrZAIN_FINAL_FORM
    zUIGHUR_KIRGHIZ_YEH_WITH_HAMZA_ABOVE_WITH_ALEF_MAKSURA_FINAL_FORMkINITIAL_FORMlSOLATED_FORM
    zzrWASALLAM_ISOLATED_FORMwYEH_WITH_ALEF_MAKSURA_FINAL_FORMkISOLATED_FORMzbHAH_INITIAL_FORM
    lSOLATED_FORMnWITH_YEH_FINAL_FORMvMZA_ABOVE_WITH_AE_FINAL_FORMkISOLATED_FORMpLEF_FINAL_FORM
    kISOLATED_FORMnMAKSURA_FINAL_FORMkISOLATED_FORMzbE_FINAL_FORMkINITIAL_FORMlSOLATED_FORM
    pHAH_INITIAL_FORMlSOLATED_FORMqEH_INITIAL_FORMmMEDIAL_FORMpJEEM_INITIAL_FORMlSOLATED_FORM
    sKHAH_INITIAL_FORMrMEEM_FINAL_FORMkINITIAL_FORMlSOLATED_FORMnMEDIAL_FORMqNOON_FINAL_FORM
    pOE_FINAL_FORMkISOLATED_FORMqREH_FINAL_FORMoU_FINAL_FORMkISOLATED_FORMpWAW_FINAL_FORM
    kISOLATED_FORMrYEH_FINAL_FORMkISOLATED_FORMqU_FINAL_FORMkISOLATED_FORMqZAIN_FINAL_FORM
    zgEH_INITIAL_FORMmMEDIAL_FORMpJEEM_INITIAL_FORMlSOLATED_FORMnWITH_YEH_FINAL_FORM
    yKHAH_INITIAL_FORMlSOLATED_FORMsMEEM_FINAL_FORMkINITIAL_FORMlSOLATED_FORMnMEDIAL_FORM
    lWITH_MEEM_FINAL_FORMkINITIAL_FORMrYEH_FINAL_FORMyNOON_FINAL_FORMpREH_FINAL_FORMoYEH_FINAL_FORM
    kISOLATED_FORMrZAIN_FINAL_FORMyZAH_WITH_MEEM_INITIAL_FORMlSOLATED_FORMnMEDIAL_FORM
    zjMADDA_WAAJIBhH_ABOVEkRK_NOON_GHUNNAlSIDEWAYS_NOON_GHUNNAxTHEMATICAL_AINcLEFeBEHdDADbL
    cOTLESS_BEHdFEHdNOONeQAFjUBLE-STRUCK_AINdBEHdDADbLdFEHdGHAINfHAHdJEEMeKHAHeLAMdMEEMeNOONeQAF
    dREHdSADcEENdHEENfTAHcEHcHALcEHeWAWdYEHdZAHbINsFEHdGHAINfHAHdINITIAL_AINdBEHdDADdFEHdGHAINfHAH
    cEHdJEEMeKAFcHAHeLAMdMEEMeNOONeQAFdSADcEENdHEENfTEHcHEHeYEHlJEEMeKAFcHAHeLAMcOOPED_AINcLEFeBEH
    dDADbLdFEHdGHAINfHAHcEHdJEEMeKHAHeLAMdMEEMeNOONeQAFdREHdSADcEENdHEENfTAHcEHcHALcEHeWAWdYEHdZAH
    bINlMEEMeNOONeOPERATOR_HAH_WITH_DALmMEEM_WITH_HAH_WITH_TATWEELzkQAFdREHdSADcEENdHEEN
    eTRETCHED_AINdBEHdDADcOTLESS_BEHdFEHlFEHdGHAINfHAHcEHdJEEMeKAFcHAHeMEEMeNOONeQAFdSADcEENdHEEN
    fTAHcEHcHEHeYEHdZAHnTAHbILED_AINdDADcOTLESS_NOONeQAFlGHAINfHAHdJEEMeKHAHeLAMdNOONeQAFdSADcEEN
    dHEENfYEHjEHcHALcEHeWAWdYEHdZAHbINrNUMBER_MARK_ABOVEkSIGNlOPEN_DAMMATANiFATHATANiKASRATAN
    nPERCENT_SIGNlIASTRE_MARK_ABOVErLACE_OF_SAJDAHoOETIC_VERSE_SIGNpUND_MARK_ABOVEqQUESTION_MARK
    nRAISED_ROUND_DOToYcEVERSED_DAMMAnIGHT_ARROWHEAD_ABOVEa_WITH_DOToBELOW
    uOUNDED_HIGH_STOP_WITH_FILLED_CENTREzlSEMICOLONiHADDAa_ISOLATED_FORMnMEDIAL_FORM
    rIGN_ALAYHE_ASSALLAMpMISRAfRADI_ALLAHOU_ANHUpHMATULLAH_ALAYHEsSAFHAdLLALLAHOU_ALAYHE_WASSALLAM
    zbMVATeNAHeINDHI_AMPERSANDjPOSTPOSITION_MENxTAKHALLUSnMALL_DAMMAfFARSI_YEHhTHAfHIGH_AIN
    dDOTLESS_HEAD_OF_KHAHuFARSI_YEHiOOTNOTE_MARKERpJEEMeLAM_ALEFhIGATURE_ALEF_WITH_LAM_WITH_YEH
    wQAF_WITH_LAM_WITH_ALEF_MAKSURAzfSAD_WITH_LAM_WITH_ALEF_MAKSURAzoMADDAeEEM_INITIAL_FORM
    lSOLATED_FORMsNOONa_WITH_KASRApQAFdROUNDED_ZEROmSADcEENdIGN_SAFHAkTAHcHREE_DOTS
    kUPRIGHT_RECTANGULAR_ZEROyWAWcORD_AL-JUZfN-NISFgR-RUBfS-SAJDAhTH-THALATHAmQIFdSAHbKTAfWAQFAkYEH
    a_BARREE_WITH_TWO_DOTS_BELOWzfZAHbINjKASRAfLOW_MEEMeNOON_WITH_KASRApSEENeWAWcORD_IMAALAfSHMAAM
    hTASHEELqWAWdYEHiTART_OF_RUB_EL_HIZBtUBSCRIPT_ALEFmKUNa_BELOWfISOLATED_FORMnMEDIAL_FORM
    pPERSCRIPT_ALEF_MOKHASSASzYMBOL_DOT_ABOVEfBELOWhUBLE_VERTICAL_BAR_BELOWzFOUR_DOTS_ABOVEfBELOW
    pRINGeSMALL_TAH_ABOVEfBELOWpTHREE_DOTS_ABOVEfBELOWfPOINTING_DOWNWARDS_ABOVEfBELOW
    zjWO_DOTS_ABOVEfBELOWfVERTICALLY_ABOVEfBELOWzWASLA_ABOVEsTAIL_FRAGMENTlTWEEL
    a_WITH_FATHATAN_ABOVEoOVERSTRUCK_HAMZAfWAWoTWO_DOTS_BELOWzbHOUSANDS_SEPARATORsONE_LOOP_ABOVE
    fBELOWkONE_DOT_ABOVEfBELOWnTWO_DOTS_ABOVEfBELOWsRIPLE_DOT_PUNCTUATION_MARKzbURNED_DAMMA_BELOW
    sVERTICAL_TAILmOWEL_SIGN_DOT_BELOWjINVERTED_SMALL_V_ABOVEwSMALL_V_ABOVEyWAVY_HAMZA_BELOW
    qZWARAKAYj-INDIC_CUBE_ROOTjDIGIT_EIGHTfFIVEdOUReNINEeONEdSEVENeIXdTHREEeWOdZEROkFOURTH_ROOT
    lPER_MILLE_SIGNkTEN_THOUSAND_SIGNzhCbIESdMENIAN_ABBREVIATION_MARKqPOSTROPHEkCAPITAL_LETTER_AYB
    dBENdCAbHAbEHdOcDAcECHcHbTcFEHdGHADdIMdHOcINIdJAbHEHeKEHbNdLIWNeMENdNOWdOHcPEHcIWReRAbEHdSEHcHA
    dTIWNdOcVEWcOcXEHdYIaWNeZAbHErOMMAfDRAM_SIGNjEMPHASIS_MARKmXCLAMATION_MARKqFULL_STOPjHYPHEN
    gMODIFIER_LETTER_LEFT_HALF_RINGzfQUESTION_MARKnSMALL_LETTER_AYBdBENdCAbHAbEHdOcDAcECHcHbTcFEH
    dGHADdIMdHOcINIdJAbHEHeKEHbNdLIWNeMENdNOWdOHcPEHcIWReRAbEHdSEHcHAdTIWNdObURNED_AYBkVEWcOcXEHdYI
    a_WITH_STROKEmWNeZAbHEjIGATURE_ECH_YIWNiMEN_ECHdINIdNOWdXEHhVEW_NOW
    zeROW_POINTING_DOWNWARDS_THEN_CURVING_LEFTWARDSjRIGHTWARDSziRIGHTWARDS_THEN_CURVING_DOWNWARDS
    jSOUTH_WESTkUPWARDSzgUPWARDS_THEN_NORTH_WESTziHEAD-SHAPED_POINTERwTICULATED_LORRYnST_PALETTE
    nSCENDING_NODElIA_SYMBOLkSERTIONhTERISKa_OPERATORkMfONISHED_FACEmRAEA
    dONOMICAL_SYMBOL_FOR_URANUSzdYMPTOTICALLY_EQUAL_TOwTHLETIC_SHOElOM_SYMBOLkUBERGINEhSTRAL_SIGN
    kTO_RICKSHAWjMATED_TELLER_MACHINEtOBILEjVESTAN_ABBREVIATION_MARKrLETTER_AaAaNbOcEaEcNbOcBEbHE
    dCEcDEbHEdEaEcFEcGEbGEcHEdHEbMEdIaIcJEcKEcLEcMEcNEbGEbVEcYEdNEcYEdOaOcPEcREcSEbHEbYEdSHEeTEbHE
    cTEdUaUcVEcXEbVEcYEdYEbYEdZEbHEqOCADOgXEdBABYa_ANGELfBOTTLEgCHICKfSYMBOLjCK_OF_ENVELOPE
    lWITH_LEFTWARDS_ARROW_ABOVEzc-TILTED_SHADOWED_WHITE_RIGHTWARDS_ARROW
    zoSLANTED_SOUTH_ARROW_WITH_HOOKED_TAILjRIZONTAL_TAILzoPACEgONcTRIAN_CAMELmDGER
    dMINTON_RACQUET_AND_SHUTTLECOCKzgGELcGAGE_CLAIMkUETTE_BREADmLINESE_ADEG_ADEGjCARIK_PAMUNGKAH
    hRERENhSIKIkDIGIT_EIGHTfFIVEdOUReNINEeONEdSEVENeIXdTHREEeWOdZEROkLETTER_AIKARAfKARAa_TEDUNG
    lRCHAIC_JNYAlSYURA_SASAKmBAa_KEMBANGkCAa_LACAhDAa_MADUdURDA_ALPAPRANAjMAHAPRANAsEF_SASAKhKARA
    fGAa_GORAhHAcIKARAa_TEDUNGmJAa_JERAhKAa_MAHAPRANAkF_SASAKiHOT_SASAKkLAa_LENGAa_TEDUNGpMAcNA
    a_RAMBATiGAcYAdOKARAa_TEDUNGmPAa_KAPALiRAa_REPAa_TEDUNGoSAa_SAGAcPAhTAa_LATIKfMURDA_MAHAPRANA
    pTAWAgZIR_SASAKkUKARAa_TEDUNGmVE_SASAKiWAcYAcZAL_SASAKqMUSICAL_SYMBOL_COMBINING_BENDEfENDEP
    fGONGeJEGOGANhKEMPLIa_WITH_JEGOGANpULa_WITH_JEGOGANtTEGEHpDAENGdINGdNGa_GEDEeSURANGkENGcUNGeING
    dONGdUNGeLEFT-HAND_CLOSED_PLAKcUKlOPEN_PANGdINGdUNGtRIGHT-HAND_CLOSED_TAKcUKkOPEN_DAGcUG
    zjPAMADAa_LANTANGlENENGgNTIa_LANTANGnSIGN_BISAHfCECEKfREREKANhSURANGgULU_CANDRAgRICEM
    oVOWEL_SIGN_LA_LENGAa_TEDUNGpPEPETa_TEDUNGmRA_REPAa_TEDUNGoSUKUa_ILUTjTALINGa_REPAa_TEDUNG
    lTEDUNGmEDUNGgULUa_SARItWINDUlL_OF_YARNiET_SHOESiOONa-SPOKED_ASTERISKsT_BOLD_SCRIPT_XlX
    a_WITH_BALLOTfOLD_CHECKfSCRIPT_XnCHECKfLIGHT_XhSCRIPT_XiXkSCRIPT_XiXgMUM_COLON
    dMBINING_MARK_KOQNDONhTUKWENTISvMAfFULL_STOPjLETTER_AbEEcFAAMAEfEEcOMcUcIbKAbENbTbUXdIbOaGHOM
    eVUUePAcUbYEEeLAbEEEEeIbOQcUcMaAbBAAcENdEEEEdNcIbObUcNAbDAAdGAbGAcKWAENgIbJAEMdEEcUAEeSHAdTEE
    cUUdUaAEdYIdObPAbEEbUXdHASE-A_FIRIeGBIEE_FONiHEUAEGHEUAEgRAEjKAFAcQcETbUKEUTNDAjPOQdUOQeLAPAQ
    eET_KUTgOMMAEfUaAEPfMAEKEUPeMaBGBIEEgKPENeVEUXfNYIdSIdNSUAEfP_PIEETiBANYIdQdEUNJOMNDEUQlGBASA
    fON_NGGEUAETkOMEUTdPUQgVEUAENGAMkNAA_MFONgQcDA_LEERAEWAjANGGEUAETlENcGANGUeGENdKUE_MFONfNZEUM
    jIKAdJAMdKAARAEfINDIfSHAbIEEfTAPa_MFAAeNTAAhOQPENgYETcIaT_MONGKEUAEQoZA_MFONgUN_MEUT
    jPA_LEERAEWAjAMbRAEeMSHAEfSHAEfETcON_MFON_PIPAEMBAcGBIEEqPA_NJI_PIPAEMBAcGBIEEvUPdROMdSEUNYAM
    gHINDA_PA_NJIkRAEeOQ_NSHUT_YUMmUENSHUEThMdISAdONJAMeQbTcUUdTEUAENdTEUWENiITA_MFONiU_MAEMBAhAEP
    fU_YUQ_NAEiNKNOWNhVEEfB_FEEbUXeGHEUGHENbUAEMlKAMcEUAEMdPUQdYEUXgIEEMdQdLAANAEeM_NSHUT_NYAMnET
    cOM_NTEUMjMAa_NJEUAENAgUQAhBA_MAELEEhARAEfEURIeIT_MBAAKETkUOQeEUQbT_NGGEETkFIYAQeON_TEUAEQ
    kONTIEENiNDU_NJAAhGGAAMdEU_MBUgUOQa_LARGEkKINDI_MVOPkOMdSENcHUETfTIEE_SHEUOQlYAEMAEfI_NTEUM
    jPARUMeEESHIfITcUNGAAMhSAKEUAEgET_TUfHET_NJAQgUAEQTUiIEEdUEdTAAMdU_MAEMGBIEEjNSIEEiVEUMeWUAET
    fYAFU_LEERAEWAmEURAEiC_BUNGeFUEdGBAYIeHAPbRAEgKAAcEN_FATIGUEhLAWfTbUKAQdMbSEUXdHEUAEPjPARAQ
    fUOP_NKAARAEkTdLAMbPcIQcUcMA_KEUAERIhNSIEEgEMBAdSIeBAA_CABBAGE-TREEmPICKETiNYIeEEKEETfRAEdUMbX
    dIaRIEENfTcUAEMdEdGBASAQgIEEdUAEeNANSANAQgQcDAMbPcEUAEREEfTdIDAdOMBUfGAQcGENcUaAEN_NYAMiEETdM
    bONeKAQcUE_MAEMBAkOMdJAEMcMcEEEEdUXdUEQeSAbEUAENfHAQdOMcUNbOT_NGOMjTAAcENbUNGBAgU_MBIT
    hYIR_MKPARAQ_MEUNqZAbEUMfPENcINbRIEENhRUcSETFONeUXdHIQcUEQeUAETfTAASHAEgETbUTEUXgITA_YUEfUAEP
    hVEUAEPENfXeWANGKUOQhUPdYAAcEUQdU_MUOMAEhMbWOQhD_FAAcEUFEUAETjGHAAcEUAEgKETbUAETMEUNhMbOT_MBUAE
    iPdUaNbOMcQcWAETeYEEeLEEEEdTbUAEPdMdIEEdOQcUMdMaAENJETfLEERIgBAAa_SEVENiUOdEEEEdUNbTdFEUAEcT
    dIEEdOaNdGBEUNdIEEdOFUMgONIdUbVOPeNDAMcEEbUXdONdGGAAMaAEePcEUXdUOMdWAENfKAPcEUAEQdRIeIEEdUNcYEE
    fIbJAPcEUAEMdTdIaEEdUEQeSHEEcUTdIEEPbTeUMdTEEbUMdUUdUbYAMcETcIbUEePAPcEEbUTAEfIPcUQbUTeRAEM
    dEN_MUCHeOLDgIIdSAPbQcEUAEQfHEEbUAEcXdIIcOQcUcOTcUAEcEbUdTAEcEEEEdUAENdNbTdIbOQcUaOTeWAPcUAEN
    fYAEMMAEgENcUOMbPcWOQhE_AbFAaQcEEcOMcU_CALLeIbREMEDYhEaTeGBETbUXeHAAMAEfETbUAEcNbXdOMeIbKETbUAE
    cXdIbObPEUXeUETcOPcTdLAAMcPbQcEUAEMfOMbONbTcQcUcMAaEaMcPbQcBEEbUMeENcFEUQeGBAbENeIaEEdONcUAEdVI
    dNAaEcDAA_MY_HOUSEiSOFTNESSkPcIAQcQcUNdGAbEUREUTgGEEEEdUAEaTfUAESHAE_NYAMlPbRAEfKAaAMIeEUAEMdX
    dUMbPdOPbQcUAEaTfJAEMLIfEEa_EPOCHhUXeKOMdSHIEEdUEbOPfTAPcUMdYI_BETWEENhCLEAVERkZAQcUQeO
    bPA_PEOPLEfLURALhAaMdEEMcUTbXdIaEEQcTdOaONdUaAEbQcEbMdRAEbQcEUXdIMGBAgSAAcEEbTcHEUAEQfIQcOaQdOM
    cUAENfTAAaQcEN_NTEUMiMbQcENbUaAEQfOOaNcQcUAEcMaAEfVEEbUAEeOMdWEUXdUEbOdYAPcEUAEaTdMbXdIEEcT
    cOQ_COVERfSWIMMINGlUAENdEQcNbQfF_EEcFOMdKAbENbTcObPAcUbYEEeLAbIbOQdMaAbBAAcENdEEEEeOcNDAAdGGA
    cKWAENgIbJAEMdUAEeSHAdTEEdUaAEdYIdPEEbUXdUAEeREEbNbUXdIEEcIcUcSAMBAeEUXdHIIcObUcIbUUdTAAbEcETdU
    bVUEQeWAbUEdYAbOQkIbUAEcEdRAEcEEbNbUXdIEEcIcUcSAMBAeEUXdHEUXdIIcObUcIbUUdTAAbEcENbTcIcUbWAbUE
    dYAbOQcUQkNJAEMLIhQUESTION_MARKnSEMICOLONnNANAdJOcKaNOTE_WITH_DOLLAR_SIGNlEURO_SIGNjPOUND_SIGN
    kYEN_SIGNuR_CHARTfOF_SOAPiBER_POLEjSEBALLfKETaBALL_AND_HOOPqSA_VAH_COMBINING_HIGH_TONE
    f-LOW_TONEnLOW_TONEf-MID_TONEmMID_TONEsFULL_STOPjLETTER_AbBAcCEcDHIIdOcEaEbNNIeFAcGAHcBUdHWAHeI
    bJOcKAbPAHeMBEdOaOcPAcSEcTOcUaWUdVUcWAaDDAfYEINdIEdZOrTaAK_CONSONANT_SIGN_HbNGrLETTER_AbBAcCA
    cDAcGAcHAcIbJAcKARO_BAhLAcMAaNDAILING_HAcNAcSAmBAdNAbDAcGAcORTHERN_TAkYAdPAaKPAK_WAjRAcSA
    bIMALUNGUN_AbGAcHAcLAcMAcPAcRAcSAcWAcYAmOUTHERN_TAlUbWAcYAjPANGOLATfONGONANkSIGN_TOMPI
    jYMBOL_BINDU_JUDULfNA_METEKiPANGOLAThINARBORASxVOWEL_SIGN_EaEcIbKARO_IbOgObPAKPAK_EiU
    a_FOR_SIMALUNGUN_SAziHaTUBeTERYgEACH_WITH_UMBRELLAqMED_ASCENDING_MUSICAL_NOTES
    xDESCENDING_MUSICAL_NOTESyEIGHTH_NOTESmSIXTEENTH_NOTEStNScR_FACEfDED_PERSONlTING_HEARTkVER
    eCAUSEfDbER_MUGfTLEeLaLa_PEPPERgSYMBOLgWITH_CANCELLATION_STROKEzHOP_BELL
    kNGALI_ABBREVIATION_SIGNqNJIdU_LENGTH_MARKoCURRENCY_DENOMINATOR_SIXTEENtNUMERATOR_FOUReONE
    a_LESS_THAN_THE_DENOMINATORzeTHREEeWOwDIGIT_EIGHTfFIVEdOUReNINEeONEdSEVENeIXdTHREEeWOdZERO
    kGANDA_MARKkISSHARgLETTER_AaAbIbUcBAbHAdCAbHAdDAbDAbHAdHAdEbGAbHAdHAcIaIcJAbHAdKAbHAaNDA_TAjLA
    cMAcNAbGAcNAcYAdObPAbHAdRAa_WITH_LOWER_DIAGONALoMIDDLE_DIAGONALwHAcRAdSAbHAcSAdTAbHAcTAbHAeUaU
    cVEDIC_ANUSVARAnOCALIC_LaLcRaRkYAbYAkRUPEE_MARKeSIGNkSANDHI_MARKkIGN_ANUSVARAhVAGRAHA
    iCANDRABINDUlNUKTAfVIRAMAeSARGAmVOWEL_SIGN_AAbIbUcEbIaIcObUaUcVOCALIC_LaLcRaR
    zbT_ARROW_POINTING_DOWNWARDS_THEN_NORTH_EASTzqO_BOXgZENE_RINGa_WITH_CIRCLEwT_SYMBOLhWEEN
    fVERAGE_BOXlHAIKSUKI_DANDAeIGIT_EIGHTfFIVEdOUReNINEeONEdSEVENeIXdTHREEeWOdZEROjOUBLE_DANDA
    mGAP_FILLER-1b2mHUNDREDS_UNIT_MARKsLETTER_AaAbIbUcBAbHAdCAbHAdDAbDAbHAdHAdEbGAbHAdHAcIaIcJAbHA
    dKAbHAdLAcMAcNAbGAcNAcYAdObPAbHAdRAcSAbHAcSAdTAbHAcTAbHAeUaUcVAbOCALIC_LbRaRkYAjNUMBER_EIGHTaY
    gFIFTYdVEdORTYdUReNINEaTYgONEdSEVENaTYgIXaTYfTENcHIRTYeREEeWENTYeOkSIGN_ANUSVARAhVAGRAHA
    iCANDRABINDUlVIRAMAeSARGAmVOWEL_SIGN_AAbIbUcEbIaIcObUaUcVOCALIC_LbRaRvWORD_SEPARATORxICYCLEbIST
    hG_REVERSE_SOLIDUSpSOLIDUSjKINIeLLED_CAPgIARDShOHAZARD_SIGNmRDbTHDAY_CAKElSONdTCOIN_SIGN
    jING_LIPjLACK_BOWTIEgCENTRE_WHITE_STARqHESS_BISHOPa_ROTATED_NINETY_DEGREES
    oTWO_HUNDRED_SEVENTY_DEGREESzrEQUIHOPPERa_ROTATED_NINETY_DEGREESziKINGa_ROTATED_NINETY_DEGREES
    oTWO_HUNDRED_SEVENTY_DEGREESzoNIGHTa_ROTATED_FORTY-FIVE_DEGREESsNINETY_DEGREES
    oONE_HUNDRED_THIRTY-FIVE_DEGREESzgTHREE_HUNDRED_FIFTEEN_DEGREESzdWO_HUNDRED_SEVENTY_DEGREES
    pTWENTY-FIVE_DEGREESzp-BISHOPgQUEENfROOKlPAWNa_ROTATED_NINETY_DEGREES
    oTWO_HUNDRED_SEVENTY_DEGREESzpQUEENa_ROTATED_NINETY_DEGREESoTWO_HUNDRED_SEVENTY_DEGREESzqROOK
    a_ROTATED_NINETY_DEGREESoTWO_HUNDRED_SEVENTY_DEGREESzpTURNED_BISHOPgKINGdNIGHTgPAWNeQUEENfROOK
    qIRCLEa_FOR_RECORDkWITH_DOWN_ARROWkTWO_WHITE_DOTSoWHITE_DOT_RIGHTzbLUB_SUITiROSS_ON_SHIELD
    oURVED_DOWNWARDS_AND_LEFTWARDS_ARROWpRIGHTWARDS_ARROWzfLEFTWARDS_AND_DOWNWARDS_ARROW
    pUPWARDS_ARROWzcRIGHTWARDS_AND_DOWNWARDS_ARROWpUPWARDS_ARROWzdUPWARDS_AND_LEFTWARDS_ARROW
    pRIGHTWARDS_ARROWzkDIAMONDa_CENTREDhMINUS_WHITE_XnON_CROSSiSUITeWITH_DOWN_ARROW
    wOWN_POINTING_BACKHAND_INDEXy-POINTING_DOUBLE_TRIANGLEpISOSCELES_RIGHT_TRIANGLEySMALL_TRIANGLE
    oTRIANGLEsWARDS_EQUILATERAL_ARROWHEADzfRAUGHTS_KINGeMANkOPLEThFLAGcORETTEhOLDEReUR_POINTED_STAR
    rHARD_SHELL_FLOPPY_DISKvEARTa_SUITiXAGONgORIZONTAL_ELLIPSEqURGLASSjLARGE_CIRCLEgSQUARE
    lEFT_LANE_MERGEkPOINTING_BACKHAND_INDEXoINDEXp-POINTING_DOUBLE_TRIANGLEa_WITH_VERTICAL_BAR
    ziISOSCELES_RIGHT_TRIANGLEyPOINTERhSMALL_TRIANGLEoTRIANGLEsWARDS_BULLETgEQUILATERAL_ARROWHEAD
    zfOWER_LEFT_TRIANGLEnRIGHT_TRIANGLEsZENGEhMEDIUM_DIAMONDgOWN-POINTING_TRIANGLEa_CENTRED
    zfLEFT-POINTING_TRIANGLEa_CENTREDzeOZENGEhRIGHT-POINTING_TRIANGLEa_CENTREDzgSMALL_DIAMOND
    hLOZENGEhSQUARElQUAREgUP-POINTING_TRIANGLEa_CENTREDzjOON_LILITHlNIBdOCTAGONhPARALLELOGRAM
    mENNANTeTAGONhUSHPINhQUESTION_MARK_ORNAMENTwRECTANGLEiIGHT_POINTING_BACKHAND_INDEXoINDEX
    p-POINTING_DOUBLE_TRIANGLEa_WITH_VERTICAL_BARziISOSCELES_RIGHT_TRIANGLEyPENTAGONhOINTER
    hSMALL_TRIANGLEoTRIANGLEa_WITH_DOUBLE_VERTICAL_BARzsWARDS_ARROWaHEADjBULLET
    gEQUILATERAL_ARROWHEADzgOSETTEhSAFETY_SCISSORSoCISSORShHOGI_PIECEkKULL_AND_CROSSBONES
    tLIGHTLY_SMALL_CIRCLEgSQUAREuMALL_DIAMONDhLOZENGEhSQUAREfTARiILING_FACElNOWMANgPADE_SUITjQUARE
    a_BUTTONgCENTREDhFOR_STOPoTARdUN_WITH_RAYSnTELEPHONEiINY_DIAMONDhLOZENGEhSQUARE
    kOUCHTONE_TELEPHONEsRUCKeWO-WAY_LEFT_WAY_TRAFFICyUNIVERSAL_RECYCLING_SYMBOL
    zP_POINTING_BACKHAND_INDEXy-POINTING_DOUBLE_TRIANGLEpISOSCELES_RIGHT_TRIANGLEySMALL_TRIANGLE
    oTRIANGLEsPER_LEFT_TRIANGLEnRIGHT_TRIANGLEsWARDS_EQUILATERAL_ARROWHEADzeVERTICAL_ELLIPSE
    hRECTANGLEpY_SMALL_DIAMONDhLOZENGEhSQUAREs-FEATHERED_NORTH_EAST_ARROWqRIGHTWARDS_ARROW
    qSOUTH_EAST_ARROWzbLETTER_CAPITAL_CbHbIbRbZtNK_SYMBOLkOCK_SEXTANT-1a2a3a4a5b6c5a6c6c4a5a6c6c5a6
    c6c3a4a5a6c6c56c6c4a5a6c6c5a6c6c2a3a4a5a6c6c5a6c6c4a5a6d5a6c6c3a4a5a6c6c5a6c6c4a5a6c6c5a6c6
    mSSOMeWFISHgUE_BOOKeHEARTgBERRIESkOARcLD_EIGHT_SPOKED_ASTERISKvFIVE_SPOKED_ASTERISKuGREEK_CROSS
    lSALTIREgIX_SPOKED_ASTERISKtWHITE_CIRCLEgSQUAREpMaBcNEcOKaMARKa_TABSjScMERANG
    hPOMOFO_FINAL_LETTER_GbHbKbPbToLETTER_AaHbIaNNdMbNaGbNcUaNNeBaUcCaHcDbEaEbHbIbNaGbNcRcFbGaHbNbU
    bWcHbIaHbMbNNaNdRbUcJaIcKaWcLaHcMbNaGaGcNcOa_WITH_DOT_ABOVEpEbMbNGbNcObUcPbQbRbSaHcTbUaNNdVbXbZ
    aHbIbYqTTLE_WITH_POPPING_CORKuOM_ARC_ANTICLOCKWISE_ARROWxCURLY_BRACKETnHALF_BLACK_CIRCLE
    mINTEGRALiLEFT_PARENTHESISqRIGHT_PARENTHESISwLEFT_CORNERfROPeHALF_BRACKETrPARENTHESIS
    lRIGHT_CORNERfROPeHALF_BRACKETsSQUARE_BRACKETa_OVER_TOP_SQUARE_BRACKETznTORTOISE_SHELL_BRACKET
    zcUQUETa_OF_FLOWERSqW_AND_ARROWkL_OF_HYGIEIAkWITH_SPOONlINGeTIEa_WITH_LEFT_HALF_BLACK
    pRIGHT_HALF_BLACKzbX_DRAWINGS_DOUBLE_DOWN_AND_HORIZONTALkLEFTeRIGHToHORIZONTAL
    kUP_AND_HORIZONTALkLEFTeRIGHTmVERTICALa_AND_HORIZONTALkLEFTeRIGHT
    xWN_DOUBLE_AND_HORIZONTAL_SINGLErLEFT_SINGLElRIGHT_SINGLExHEAVY_AND_HORIZONTAL_LIGHTqLEFT_LIGHT
    fUP_LIGHTnRIGHT_LIGHTfUP_LIGHToUP_HORIZONTAL_LIGHTzeLIGHT_AND_HORIZONTAL_HEAVYqLEFT_HEAVY
    fUP_HEAVYnRIGHT_HEAVYfUP_HEAVYoUP_HORIZONTAL_HEAVYzeSINGLE_AND_HORIZONTAL_DOUBLErLEFT_DOUBLE
    lRIGHT_DOUBLEzdHEAVY_DOUBLE_DASH_HORIZONTALkVERTICALsWNa_AND_HORIZONTALkLEFTeRIGHToHORIZONTAL
    kLEFTa_AND_LIGHT_RIGHTuQUADRUPLE_DASH_HORIZONTALkVERTICALxRIGHTfTRIPLE_DASH_HORIZONTALkVERTICAL
    uUPa_AND_HORIZONTALkLEFTdIGHT_DOWNkRIGHTmVERTICALa_AND_HORIZONTALkLEFTeRIGHT
    yLEFT_DOWN_HEAVY_AND_RIGHT_UP_LIGHTzeHEAVY_AND_RIGHT_DOWN_LIGHTkUP_LIGHTiVERTICAL_LIGHT
    zfLIGHT_AND_RIGHT_DOWN_HEAVYkUP_HEAVYiVERTICAL_HEAVYzfUP_HEAVY_AND_RIGHT_DOWN_LIGHT
    ziIGHT_ARC_DOWN_AND_LEFTeRIGHToUP_AND_LEFTeRIGHTqDIAGONAL_CROSSfDIAMOND
    hMIDDLE_LEFT_TO_LOWER_CENTREa_TO_MIDDLE_RIGHTzdUPPER_CENTRE_TO_MIDDLE_RIGHTa_TO_LOWER_CENTRE
    zzcRIGHT_TO_LOWER_CENTREmUPPER_CENTRE_TO_MIDDLE_LEFT_TO_LOWER_CENTRE
    zzjUPPER_CENTRE_TO_MIDDLE_LEFTa_AND_MIDDLE_RIGHT_TO_LOWER_CENTREzhTO_LOWER_CENTRE
    a_TO_MIDDLE_RIGHTzlRIGHTa_AND_MIDDLE_LEFT_TO_LOWER_CENTREzgTO_LOWER_CENTREa_TO_MIDDLE_LEFT
    zzdLEFT_TO_LOWER_RIGHTtRIGHT_TO_LOWER_LEFTziOUBLE_DASH_HORIZONTALkVERTICALsWNa_AND_HORIZONTAL
    kLEFTeRIGHToHORIZONTALa_WITH_VERTICAL_STROKEzgLEFTa_AND_HEAVY_RIGHTuQUADRUPLE_DASH_HORIZONTAL
    kVERTICALxRIGHTfTRIPLE_DASH_HORIZONTALkVERTICALuUPa_AND_HEAVY_DOWNjORIZONTALkLEFTeRIGHT
    mVERTICALa_AND_HORIZONTALkLEFTeRIGHTyRIGHT_DOWN_HEAVY_AND_LEFT_UP_LIGHT
    zdHEAVY_AND_LEFT_DOWN_LIGHTkUP_LIGHTiVERTICAL_LIGHTzeLIGHT_AND_LEFT_DOWN_HEAVYkUP_HEAVY
    iVERTICAL_HEAVYzeUP_HEAVY_AND_LEFT_DOWN_LIGHTzjUP_DOUBLE_AND_HORIZONTAL_SINGLErLEFT_SINGLE
    lRIGHT_SINGLExHEAVY_AND_DOWN_HORIZONTAL_LIGHTvHORIZONTAL_LIGHTqLEFT_DOWN_LIGHTkLIGHT
    kRIGHT_DOWN_LIGHTkLIGHTvLIGHT_AND_DOWN_HORIZONTAL_HEAVYvHORIZONTAL_HEAVYqLEFT_DOWN_HEAVYkHEAVY
    kRIGHT_DOWN_HEAVYkHEAVYvSINGLE_AND_HORIZONTAL_DOUBLErLEFT_DOUBLElRIGHT_DOUBLE
    zbVERTICAL_DOUBLE_AND_HORIZONTAL_SINGLErLEFT_SINGLElRIGHT_SINGLExHEAVY_AND_HORIZONTAL_LIGHT
    qLEFT_LIGHTkRIGHT_LIGHTvLIGHT_AND_HORIZONTAL_HEAVYqLEFT_HEAVYkRIGHT_HEAVY
    vSINGLE_AND_HORIZONTAL_DOUBLErLEFT_DOUBLElRIGHT_DOUBLEzrING_GLOVEkYaS_SYMBOLkPHcRAHMI_DANDA
    eIGIT_EIGHTfFIVEdOUReNINEeONEdSEVENeIXdTHREEeWOdZEROjOUBLE_DANDAmLETTER_AaAbIbUcBAbHAdCAbHAdDA
    bDAbHAdHAdEbGAbHAdHAcIaIcJAbHAdKAbHAdLAbLAdMAcNAbGAcNAcYAdOaLD_TAMIL_LLAbLAeNNNAeRRAdSHORT_EbO
    rPAbHAdRAcSAbHAcSAdTAbHAcTAbHAeUaUcVAbOCALIC_LaLcRaRkYAjNUMBER_EIGHTaYgFIFTYdVEdORTYdUReJOINER
    gNINEaTYgONEa_HUNDREDhTHOUSANDmSEVENaTYgIXaTYfTENcHIRTYeREEeWENTYeOkPUNCTUATION_CRESCENT_BAR
    mDOTbUBLE_DOTkLINEdOTUSrSIGN_ANUSVARAiCANDRABINDUlJIHVAMULIYAlOLD_TAMIL_VIRAMAqUPADHMANIYA
    lVISARGAmVIRAMAfOWEL_SIGN_AAbIbUcBHATTIPROLU_AAoEbIaIcOaLD_TAMIL_SHORT_EbOrUaUcVOCALIC_LaLcRaR
    zILLE_PATTERN_BLANKfDOTS-1a2a3a4a5a6a7a8c8c7a8c8c6a7a8c8c7a8c8c5a6a7a8c8c7a8c8c6a7a8c8c7a8c8c4
    a5a6a7a8c8c7a8c8c6a7a8c8c7a8c8c5a6a7a8c8c7a8c8c6a7a8c8c7a8c8c3a4a5a6a7a8c8c7a8c8c6a7a8c8c7a8c8
    c5a6a7a8c8c7a8c8c6a7a8c8c7a8c8c4a5a6a7a8c8c7a8c8c6a7a8c8c7a8c8c5a6a7a8c8c7a8c8c6a7a8c8c7a8c8c2
    a3a4a5a6a7a8c8c7a8c8c6a7a8c8c7a8c8c5a6a7a8c8c7a8c8c6a7a8c8c7a8c8c4a5a6a7a8c8c7a8c8c6a7a8c8c7a8
    c8c5a6a7a8c8c7a8c8c6a7a8c8c7a8c8c3a4a5a6a7a8c8c7a8c8c6a7a8c8c7a8c8c5a6a7a8c8c7a8c8c6a7a8c8c7a8
    c8c4a5a6a7a8c8c7a8c8c6a7a8c8c7a8c8c5a6a7a8c8c7a8c8c6a7a8c8c7a8c8sNdEADbK_PERMITTED_HERE
    qST-FEEDINGlVEdICKcDE_WITH_VEILlGE_AT_NIGHTmEFCASEeSeOCCOLIfKEN_BARdCIRCLE_WITH_NORTHWEST_ARROW
    zcHEARTjOMcWN_HEARTkSbUBBLE_TEAeSfCKETeGaINESE_END_OF_SECTIONoLETTER_AbBAcCAcDAcGAcHAcJAcKAcLA
    cMAbPAdNAbGAbKAdRAcYAbCAePAcRAcSAcTAcVAcYAjPALLAWAhVOWEL_SIGN_AEcEbIbObUtHID_LETTER_AbBAcDAcGA
    cHAcIbKAcLAcMAcNAbGAdPAcRAcSAcTAcUbWAcYAjVOWEL_SIGN_IbUqILDING_CONSTRUCTIONtLLETa_OPERATORlHORN
    a_WITH_SOUND_WAVESvSEYEgRRITOfSa_STOPfT_IN_SILHOUETTEoS_IN_SILHOUETTErTTERaFLYiYTE_ORDER_MARK
    nZANTINE_MUSICAL_SYMBOL_AGOGI_ARGIbOTERIiGORGIbOTERIjMESIcTRIAgPOLI_ARGIeGORGIpNATRICHISMA
    kTIKENOKYLISMAhMAjPESO_EKFONITIKONkXO_NEOlLIcODERMA_ARCHAIONiNEOjSTROFOI_SYNDESMOS_NEO
    nTELOUS_ICHIMATOSsSa_DIPLIfNEOlTHEMAhRGONbSYNTHETONlKTIKO_DIcGAcKEcNIcPAcVOUdZOkCHAMILIbON
    gOREVMA_ARCHAIONiNEOkROA_KLITONgSPATHIgZYGOSlDASEIAfIARGONeSTOLI_APLI_MEGALIfIKRIkDIPLIfTHESEOS
    oESIS_APLI_DYO_DODEKATArDIGRAMMOS_EX_DODEKATAvMONOGRAMMOS_TESSERA_DODEKATAzdTETARTIMORION
    mRIGRAMMOS_OKTO_DODEKATAvTIMORIONqFTOGGOS_OUkGORGONa_PARESTIGMENON_ARISTERA_ANOdKATOnDEXIA
    zRAMMA_GGjPLIa_ARCHAIONnYOdEKSTREPTONjLAFRONgNARXIS_KAI_FTHORA_VOUuDOFONONiPEGERMA
    hTERON_ARGOSYNTHETONnPARAKALESMArXO_EKFONITIKONpFANEROSIS_DIFONIASiMONOFONIASkTETRAFONIAS
    uHTORA_SKLIRON_CHROMA_VASISzbTHORA_ARCHAIONa_DEYTEROU_ICHOUxDIATONIKI_DIcKEcNANAdI_ANOdKATOhPA
    cZOmENARMONIOS_ANTIFONIAuI_YFESIS_TETARTIMORIONwMALAKON_CHROMA_DIFONIASiMONOFONIASzNAOS_ICHOS
    jENANOgSKLIRON_CHROMA_SYNAFIgVASISmDIATONON_DIzbGENIKI_DIESISgYFESISmORGON_ARCHAIONiNEO_ANO
    dKATOiPARESTIGMENON_ARISTERAiDEXIAvSYNTHETONlTHMIKON_N_APLOUNgDIPLOUNtRONTHISMATAmICHADIN
    gMIDIARGONhFONONeTHORAbONjSAKIA_TELOUS_ICHIMATOSvON_ARCHAIONiNEOiKATAVA_TROMIKONjSMAgHISTI
    hENTIMA_ARCHAIONiNEO_ANOdKATOeMESOjTAa_ARCHAIONiNEO_ANOdKATOeMESOrLASMAa_ANOdKATOkONTEVMAa_ALLO
    lRONISfUFISMAhRATIMA_ALLOdRCHAIONiNEOeTAdOKOUFISMAiYPORROONnEMASTIhYLISMAhLEIMMA_DYO_CHRONON
    lENOS_CHRONOUmIMISEOS_CHRONOUpTESSARON_CHRONONpRION_CHRONONsMOIeYGISMA
    hMARTYRIA_ALLI_DEYTEROS_ICHOSoPROTOS_ICHOSrDEYTEROS_ICHOSoLEGETOS_ICHOSnPLAGIOS_ICHOS
    fTETARTOS_ICHOSvROTOS_ICHOShVARYS_ICHOSqTETARTOS_ICHOSfLEGETOS_ICHOSvRIFONIASgTOS_ICHOS
    mVARYS_ICHOStIKRON_ISONlNANAeOLIGON_ARCHAIONiNEOjMALONfXEIA_DIPLIfEKFONITIKONlNEOeI_ARCHAION
    oYRANISMA_ARCHAIONiNEOnPARAKALESMA_ARCHAIONiNEOkLITIKIa_ARCHAIONiNEOmICHONhELASTONa_NEO
    kRISPOMENIjTASMAcTIbOKOUFISMAoIASMA_ARCHAIONiNEOjSIFISTOLYGISMAhNa_NEOfPARAKALESMAlSYNAGMAmLI
    bONgRAPISMAgEVMAfSAXIMATAhEISMAa_NEOjIMANSIS_ARSEOSa_DISIMOUhTETRASIMOUjRISIMOUpTHESEOS
    a_DISIMOUhTETRASIMOUjRISIMOUyTAVROSa_APODEXIAoIGMAeRAGGISMATAlYNAGMA_ARCHAIONiMETA_STAVROUmNEO
    iEVMAfRMAaTIKIjTELEIAeSSERAfTRAPLIhHEMAa_APLOUNhTISMOS_ESOcXOmS_KAI_APOTHESoITAeINAGMAgRIA
    bGORGONgPLIeOMIKOLYGISMAhN_ALLOdRCHAIONiNEOfPARAKALESMAkSIFISTONjSYNAGMAoVAREIA_DIPLI
    fEKFONITIKONlNEOeI_ARCHAIONoTHYfXIRON_KLASMAmYFEN_ANOdKATOgSIS_APLI_DYO_DODEKATA
    rDIGRAMMOS_EX_DODEKATAvMONOGRAMMOS_TESSERA_DODEKATAzdTRIGRAMMOS_OKTO_DODEKATAvTIMORIONrPOKRISIS
    a_DIPLImRROIfSILIzgCACTUSeDA_UNAfUCEUSgLENDARfL_ME_HANDkMERAa_WITH_FLASHoPINGfN
    aADIAN_SYLLABICS_AaAaIbYcIaVILIK_BiNbTHAPASCAN_MbSlYcBEAVER_DENE_LbRmIBLE-CREE_YlLACKFOOT_AbEbI
    bKAbEbIbOcNAbEbIbOcObSbWaAbEbIbOmCaAaAaIcRRIER_CHAbEaEcIbObUdDEEbNE_GEEfTAL_ShIbLAbEaEcIbObUcZA
    bEaEcIbObUdEEcGAaAcEaEcHAbEaEcIbObUcIbObUbWAbUdHaEEcIbWAbEaEcIbObUdIaNITIAL_ZjJAbEaEcIbJAbEaEcI
    bObUcObUbWAdKHAbEaEcIbObUcKaAbEaEcIbObUdLAbEaEcHAbEaEcIbObUcIbObUcMAbEaEcIbObUcNAbEaEcGbIbObUcP
    aAbEaEcIbObUcRAbEaEcIbObUcSAbEaEcHaAbEaEcIbObUcIbObUcTHAbEaEcIbObUcLAbEaEcHAbEaEcIbObUcIbObUcSA
    bEaEcIbObUcTAbEaEcIbObSAbEaEcIbObUcUdWAbEaEcIbObUcYAbEaEcIbObUcZaAbEaEcIbObUjEbHI_SIGNhIaIcOaO
    cWAaAcEbIaIcOaOeEaASTERN_WiNcFaAaAaIdEbIaIbNAL_ACUTEfBOTTOM_HALF_RINGqDOUBLE_ACUTE
    fSHORT_VERTICAL_STROKESzcWN_TACKjGRAVEfMIDDLE_DOTkPLUSeRAISED_DOTjIGHT_HALF_RINGnNG
    eSHORT_HORIZONTAL_STROKEwMALL_RINGkTOP_HALF_RINGsOaOcULL_STOPiWAAeGLOTTAL_STOPmHKbYPHENgIaIbNcK
    aAaAaIcYcEbIaIcOaOcWaAaAbYcEbIaIcOaOeLaAaAaIcYcEbHaAaAcIaIcOaOdIaIcOaOcWAaAcEbIaIcOaOeMaAaAaIcY
    cEaDIAL_LbRhHbIaIcOaOaSE-CREE_SKmWAaAcEbIaIcOaOeNa-CREE_THEbIaIkAaAaIcSKAPI_CWAAeKWAAeMWAAeNWAA
    eS-WcCWAdKWaAdPWAdTWAdWAAeTWAAeWAAcOOdYWAAkTTILIK_HAaAcIaIcOaOdSHRAaAcIaIcOaOmYcEbGaAaAaIcIcIaI
    cOaOdHbIaIcNGaAaAcIaIcOaOeOaObYcUNAVIK_HaAaAcEbIaIcOaOgUT_HiWAaAcEbIaIcOaOeOaJIBWAY_CbKbMbNaWI
    aIcOaOePbSaHcTiNbObYcPaAaAaIcYcEbIaIcOaObYcWAaAcEbIaIcOaObYeQaAaAaIcIcIaIcOaOdRa-CREE_REbWEjAaA
    aIcYcEbIaIcOaOcWAaAcEEcIaIcOaOeSaAaAaIcYaISI_HAbEbIbOaOdJIbUaUdMbSHAbEbIbOaOcWEeTHcYIiEbHaAaAbY
    cEbIaIcOaObYcWAaAcEbIaIcOaObYeIaIcOaObUTH-SLAVEY_KAHcEHcIHcOHoYcPAbEbIbOcWaAaAcEbIaIcOaOeTaAaA
    aIcYcEbHa-CREE_THaAaAcEbIaIcOaOkAaAcEbIaIcOaOcWAaAcEdIaIcLHAbEbIbOaOcWEeOaOcTAbEbHaAaAcEbIbOaO
    cWEdIbOcWAaAcEbIaIcOaOdYAbEbIbOdWAaAbYcEaST-CREE_CWAaAcEbIaIcOaOeFWAAeKWAaAcEbIaIcOaOeLaAaAcEbO
    aOcWAaAcEbIaIcOaOeMaWAaAcEbIaIcOaOeNWAaAcEdPaWAaAcEbIaIcOaOeRaAbEbIbObWAAeSHWAaAcEbIaIcOaOeWAaA
    cEbIaIcOaOeTHWAAeWAaAcEbIaIcOaOeWAaAcEbIaIcOaOdYaWAaAcEbIaIcOaOkERN_WiIaIcOaOaDS-CREE_FINAL_TH
    iTHaAbEbIbObWAaAcEEcIaIcOaOqYa-CREE_COOdKOOdLOOdMOOdNOOdOOcPOOcWAAeSOOdTOOdWbYOOjAaAaIcYcEbIaI
    cOaObYcWAaAcEbIaIcOaOuCELa_CHARACTERjTAGeLATION_XjRdDLEcYcNED_FOODiOEdPITULUMgRICORNhR_SLIDING
    iD_FILE_BOXiINDEXa_DIVIDERSqE_OFdTa_INSERTION_POINTsIAN_LETTER_Aa2cBbC-18c39eDa2cEa2cGa2cIaIcK
    a2cLaDa2dMaBa2b3b4dNaDbGbNcObPa2cQbRaRcSaHa2cSbTa2dTaTa2dUaUaUa2b3bUeXmONbUSEL_HORSElP_STREAMER
    jENTRY_SAWkRIAGE_RETURNlOTeSTLEeTa_FACEa_WITH_TEARS_OF_JOYmWRY_SMILE
    vUCASIAN_ALBANIAN_CITATION_MARKnLETTER_ALTcORdBETdCARbYNdHAaTcIbOYdYAWbYeDATcYANdZAYcYAYfEBbYN
    dFAMdGHEYSeIMdHEYTeINYAdRBcWNdJAYNdHOXeKARcIWdLANcYITeMAQdNOWCeONcPENcIWReQARbYdRATdSEYKdHAaK
    cOYeTAScIWRdYAYeVEYZeXEYNeYAYDdOWDeZARLdHAbILzcTION_SIGNlCHcEDI_SIGNfLLAfLTIC_CROSSkNT_SIGN
    fRE_LINE_SYMBOLmLINE_LOW_LINEiOVERLINErRESeGJcHAINScRcKMA_AU_MARKhDANDAeIGIT_EIGHTfFIVEdOUR
    eNINEeONEdSEVENeIXdTHREEeWOdZEROjOUBLE_DANDAmLETTER_AAcBAAcHAAeCAAcHAAeDAAcDAAcHAAeHAAeEbGAA
    cHAAeHAAdIbJAAcHAAeKAAcHAAeLAAcHAAeMAAdNAAcGAAdNAAdYAAePAAcHAAeRAAdSAAdTAAcHAAdTAAcHAAfUbVAA
    dWAAdYAAcYAAlMAAYYAAhO_MARKgQUESTION_MARKnSECTION_MARKlIGN_ANUSVARAiCANDRABINDUlVISARGAmVIRAMA
    fOWEL_SIGN_AaAbIbUcEaIcIaIcOaIcUaUrM_CONSONANT_SIGN_FINAL_HbMbNGiLAcRAcWAcYArDIGIT_EIGHTfFIVE
    dOUReNINEeONEdSEVENeIXdTHREEeWOdZEROkLETTER_AaIcBAbBAcHAdCHAbHAeDAbDAcHAdEbFINAL_CHcGbKbLbNaGcP
    bRbSScTbYhGAbHAdHAcIbJAbHAdKAbHAdLAcMAbUEdNAbGAbUEdHAbJAcUEdUEdObPAbHAcPAdRAcSAbSAdTAbHAdUbVA
    cYAjPUNCTUATION_DANDAeOUBLE_DANDAmSPIRALgTRIPLE_DANDAyVOWEL_SIGN_AAbIbUcEIcIaIcOaEcUaE
    pRACTER_TABULATIONa_SETdWITH_JUSTIFICATIONzdIEjT_WITH_DOWNWARDS_TRENDpUPWARDS_TREND
    a_AND_YEN_SIGNzkECK_MARKfER_BOARDa_FILLpERING_MEGAPHONEoSE_WEDGEjQUERED_FLAGlROKEE_LETTER_AbDA
    bEbIbLAcObUbVcEbGAbEbIbObUbVcHAbEbIbNAcObUbVcIbKAcLAbEbIbObUbVcMAbEbIbObUbVcNAaHcEbIbObUbVcO
    bQUAbEbIbObUbVdSaAbEbIbObUbVcTAbEbIbLAbEbIbObUbVcSAbEbIbObUbVdUbVbWAbEbIbObUbVcYAbEbIbObUbV
    jSMALL_LETTER_AbDAbEbIbLAcObUbVcEbGAbEbIbObUbVcHAbEbIbNAcObUbVcIbKAcLAbEbIbObUbVcMAbEbIbObUbV
    cNAaHcEbIbObUbVcObQUAbEbIbObUbVdSaAbEbIbObUbVcTAbEbIbLAbEbIbObUbVcSAbEbIbObUbVdUbVbWAbEbIbObUbV
    cYAbEbIbObUbVuRIESdY_BLOSSOMlSTNUTgI_RHOeCKENeLDaREN_CROSSINGoPMUNKfRONeOCOLATE_BARkPSTICKS
    hRASMIAN_LETTER_ALEPHeYINeBETHeCURLED_WAWkDALETHgGIMELfHEaTHeKAPHeLAMEDHgMEMdNUNdPEcRESHeSAMEKH
    fHINdMALL_ALEPHlTAWdWAWdYODHeZAYINmNUMBER_FOUReONEa_HUNDREDlTENcHREEeWENTYeOtRISTMAS_TREEmURCH
    fINEMAeRCLE_DIVIDED_BY_HORIZONTAL_BAR_AND_TOP_HALF_DIVIDED_BY_VERTICAL_BAR
    zzmWITH_ALL_BUT_UPPER_LEFT_QUADRANT_BLACKziHORIZONTAL_BARoLEFT_HALF_BLACKoOWER_HALF_BLACK
    qRIGHT_HALF_BLACKqSMALL_CIRCLE_TO_THE_RIGHTyUPERIMPOSED_XoTWO_HORIZONTAL_STROKES_TO_THE_RIGHT
    zkUPPER_HALF_BLACKkRIGHT_QUADRANT_BLACKzbVERTICAL_FILLtD_ANTICLOCKWISE_ARROW
    g-ROTATED_DIVISION_SIGNzjSTERISK_OPERATORrBOLD_XfULLETgC_WITH_OVERLAID_BACKSLASHyCbD
    bROSS_FORMEEa_WITH_FOUR_DOTSjTWO_DOTSuPOMMEEhING_LANESoDASHdIGIT_EIGHTfFIVEdOUReNINEeONEdSEVEN
    eIXdTHREEeWOdZEROiVISION_SIGNdLASHnOLLAR_SIGN_WITH_OVERLAID_BACKSLASHziT_OPERATORmEQUALS
    gGREATER-THANmHANGUL_CHIEUCHa_AiIEUCa_AhHIEUHa_AhIEUNGa_AbUhKHIEUKHa_AiIYEOKa_AiMIEUMa_AhNIEUN
    a_AhPHIEUPHa_AiIEUPa_AhRIEULa_AhSIOSa_AgTHIEUTHa_AiIKEUTa_AoEAVY_WHITE_RIGHTWARDS_ARROW
    zcORIZONTAL_BAR_WITH_NOTCHyUMAN_FIGUREmIDEOGRAPH_ACCEPTfDVANTAGEiLLIANCEhTTENTIONjCENTRE
    fONGRATULATIONmPYcRRECThEARTHeIGHTeNTERPRISEjXCELLENTjFEMALEfINANCIALhREcVEdOUReHAVEdIGHeITEM
    eKINDERGARTENlOTOeLABOReEFTdOWdMALEdEDICINEgTALeOONeNAMEdIGHTdNEeONEdPRINTfQUESTIONiRELIGION
    gSOURCEfTdIGHTfSCHOOLfECRETeVENeIXcOCIETYgPECIALgTOCKdUDYeUITABLEgNbPERVISEjTENcHREEeWOdWATER
    eOODnNFORMATION_SOURCErTALIC_LATIN_CAPITAL_LETTER_CbRzeKATAKANA_AbEbHAbEbIbObUcIbKAbEbIbObUcMA
    bEbIbObUcNAbEbIbObUcObRAbEbIbObUcSAbEbIbObUcTAbEbIbObUcUbWAbEbIbOcYAbObUkOREAN_CHARACTER_CHAMKO
    gJUEUIwLATIN_CAPITAL_LETTER_AbBbCbDbEbFbGbHbIbJbKbLbMbNbObPbQbRbSbTbUbVbWbXbYbZqSMALL_LETTER_A
    bBbCbDbEbFbGbHbIbJbKbLbMbNbObPbQbRbSbTbUbVbWbXbYbZtESS-THANjMINUS
    eULTIPLICATION_SIGN_WITH_CIRCUMFLEX_ACCENTzrNUMBER_EIGHTEENdY_ON_BLACK_SQUAREvLEVENgFIFTEENdY
    a_ON_BLACK_SQUAREuORTYa_EIGHTfFIVEdOUReNINEeON_BLACK_SQUAREnEdSEVENeIXdTHREEeWOhURTEENiNINETEEN
    iSEVENTEENdY_ON_BLACK_SQUAREwIXTEENdY_ON_BLACK_SQUAREvTENa_ON_BLACK_SQUAREsHIRTEENdYa_EIGHT
    fFIVEdOUReNINEeON_BLACK_SQUAREnEdSEVENeIXdTHREEeWOjWELVEdNTYa_EIGHTfFIVEdOUReNINE
    eON_BLACK_SQUAREnEdSEVENeIXdTHREEeWOrOPEN_CENTRE_EIGHT_POINTED_STARzfPARALLELhERPENDICULARmLUS
    dOSTAL_MARKlREVERSE_SOLIDUSoING_OPERATORnSQUAREgTIMESeRIANGLEa_DOWNnVERTICAL_BARmWHITE_BULLET
    gSTARjZcXbZERO_WITH_SLASHtULATION_FUNCTIONpMFLEX_ACCENTmS_TENTjTYSCAPEa_AT_DUSK
    qJK_COMPATIBILITY_IDEOGRAPH-2F800b1b2b3b4b5b6b7b8b9bAbBbCbDbEbFc10b1b2b3b4b5b6b7b8b9bAbBbCbDbE
    bFc20b1b2b3b4b5b6b7b8b9bAbBbCbDbEbFc30b1b2b3b4b5b6b7b8b9bAbBbCbDbEbFc40b1b2b3b4b5b6b7b8b9bAbBbC
    bDbEbFc50b1b2b3b4b5b6b7b8b9bAbBbCbDbEbFc60b1b2b3b4b5b6b7b8b9bAbBbCbDbEbFc70b1b2b3b4b5b6b7b8b9bA
    bBbCbDbEbFc80b1b2b3b4b5b6b7b8b9bAbBbCbDbEbFc90b1b2b3b4b5b6b7b8b9bAbBbCbDbEbFcA0b1b2b3b4b5b6b7b8
    b9bAbBbCbDbEbFcB0b1b2b3b4b5b6b7b8b9bAbBbCbDbEbFcC0b1b2b3b4b5b6b7b8b9bAbBbCbDbEbFcD0b1b2b3b4b5b6
    b7b8b9bAbBbCbDbEbFcE0b1b2b3b4b5b6b7b8b9bAbBbCbDbEbFcF0b1b2b3b4b5b6b7b8b9bAbBbCbDbEbFd900b1b2b3
    b4b5b6b7b8b9bAbBbCbDbEbFc10b1b2b3b4b5b6b7b8b9bAbBbCbDbEbFc20b1b2b3b4b5b6b7b8b9bAbBbCbDbEbFc30b1
    b2b3b4b5b6b7b8b9bAbBbCbDbEbFc40b1b2b3b4b5b6b7b8b9bAbBbCbDbEbFc50b1b2b3b4b5b6b7b8b9bAbBbCbDbEbF
    c60b1b2b3b4b5b6b7b8b9bAbBbCbDbEbFc70b1b2b3b4b5b6b7b8b9bAbBbCbDbEbFc80b1b2b3b4b5b6b7b8b9bAbBbCbD
    bEbFc90b1b2b3b4b5b6b7b8b9bAbBbCbDbEbFcA0b1b2b3b4b5b6b7b8b9bAbBbCbDbEbFcB0b1b2b3b4b5b6b7b8b9bAbB
    bCbDbEbFcC0b1b2b3b4b5b6b7b8b9bAbBbCbDbEbFcD0b1b2b3b4b5b6b7b8b9bAbBbCbDbEbFcE0b1b2b3b4b5b6b7b8b9
    bAbBbCbDbEbFcF0b1b2b3b4b5b6b7b8b9bAbBbCbDbEbFdA00b1b2b3b4b5b6b7b8b9bAbBbCbDbEbFc10b1b2b3b4b5b6
    b7b8b9bAbBbCbDfF900b1b2b3b4b5b6b7b8b9bAbBbCbDbEbFc10b1b2b3b4b5b6b7b8b9bAbBbCbDbEbFc20b1b2b3b4b5
    b6b7b8b9bAbBbCbDbEbFc30b1b2b3b4b5b6b7b8b9bAbBbCbDbEbFc40b1b2b3b4b5b6b7b8b9bAbBbCbDbEbFc50b1b2b3
    b4b5b6b7b8b9bAbBbCbDbEbFc60b1b2b3b4b5b6b7b8b9bAbBbCbDbEbFc70b1b2b3b4b5b6b7b8b9bAbBbCbDbEbFc80b1
    b2b3b4b5b6b7b8b9bAbBbCbDbEbFc90b1b2b3b4b5b6b7b8b9bAbBbCbDbEbFcA0b1b2b3b4b5b6b7b8b9bAbBbCbDbEbF
    cB0b1b2b3b4b5b6b7b8b9bAbBbCbDbEbFcC0b1b2b3b4b5b6b7b8b9bAbBbCbDbEbFcD0b1b2b3b4b5b6b7b8b9bAbBbCbD
    bEbFcE0b1b2b3b4b5b6b7b8b9bAbBbCbDbEbFcF0b1b2b3b4b5b6b7b8b9bAbBbCbDbEbFdA00b1b2b3b4b5b6b7b8b9bA
    bBbCbDbEbFc10b1b2b3b4b5b6b7b8b9bAbBbCbDbEbFc20b1b2b3b4b5b6b7b8b9bAbBbCbDbEbFc30b1b2b3b4b5b6b7b8
    b9bAbBbCbDbEbFc40b1b2b3b4b5b6b7b8b9bAbBbCbDbEbFc50b1b2b3b4b5b6b7b8b9bAbBbCbDbEbFc60b1b2b3b4b5b6
    b7b8b9bAbBbCbDc70b1b2b3b4b5b6b7b8b9bAbBbCbDbEbFc80b1b2b3b4b5b6b7b8b9bAbBbCbDbEbFc90b1b2b3b4b5b6
    b7b8b9bAbBbCbDbEbFcA0b1b2b3b4b5b6b7b8b9bAbBbCbDbEbFcB0b1b2b3b4b5b6b7b8b9bAbBbCbDbEbFcC0b1b2b3b4
    b5b6b7b8b9bAbBbCbDbEbFcD0b1b2b3b4b5b6b7b8b9zdRADICAL_BAMBOOfLUEdOLT_OF_CLOTHlNEcXcRUSH_ONEdTWO
    jC-SIMPLIFIED_BIRDeCARTeDRAGONgEATcVENeFISHdLYcROGeGATEdOLDeHORSEfLEAFdONGeSALTdEEcHELLeILK
    dPEECHgTANNED_LEATHERnOOTHeURTLEgWINDqHOKEeITYcVILIANhLIFFdOTHESgOWdDEATHeIVINATIONjOGdEAT_ONE
    dTHREEeWOgWEcYEdFIREdOOTeGHOSTeRASS_ONEdTHREEeWOjHANDdEADbRT_ONEdTWOiORNeJ-SIMPLIFIED_DRAGON
    gEVENeTOOTHeURTLEsADEeKNIFE_ONEdTWOjLAME_FOUReONEdTHREEeWOhONG_ONEdTWOiMEATcSHdOONcRTAReTHER
    eUND_ONEdTWOjNET_FOUReONEdTHREEeWOhOLDdPAW_ONEdTWOgERSONgRAINcMbPcEPEATgSEALcCOND_ONEdTHREEeWO
    jHEEPeILKcMPLIFIED_HALF_TREE_TRUNKoORNeWALKdHEATfYELLOWqMALL_ONEdTWOiNAKEdOUT_ONEdTWOiPIRIT_ONE
    dTWOjUNdTABLEeHREADfIGEReURTLEgWALK_ONEdTWOgTER_ONEdTWOiEST_ONEdTWOqSTROKE_BXGdDbHaGbPaWGdXWGdZ
    aGbTbWaGcZaPbZaGfNbPaDbGbZcQbSaGbPbTbWaGbZcZaWGcZdTaNcWGcXGmLAMSHELL_MOBILE_PHONEtPPER_BOARD
    iING_HANDS_SIGNqSSICAL_BUILDINGqEAR_SCREEN_SYMBOLrINKING_BEER_MUGSjGLASSESnPBOARD
    hOCK_FACE_EIGHT_OCLOCKh-THIRTYlLEVEN_OCLOCKh-THIRTYnFIVE_OCLOCKh-THIRTYkOUR_OCLOCKh-THIRTY
    lNINE_OCLOCKh-THIRTYlONE_OCLOCKh-THIRTYkSEVEN_OCLOCKh-THIRTYlIX_OCLOCKh-THIRTYkTEN_OCLOCK
    h-THIRTYjHREE_OCLOCKh-THIRTYlWELVE_OCLOCKh-THIRTYlO_OCLOCKh-THIRTYqWISE_CLOSED_CIRCLE_ARROW
    sONTOUR_INTEGRALqDOWNWARDS_AND_UPWARDS_OPEN_CIRCLE_ARROWSzpGAPPED_CIRCLE_ARROWtINTEGRAL
    iOPEN_CIRCLE_ARROWrRIGHT_AND_LEFT_SEMICIRCLE_ARROWSzcWARDS_AND_LEFTWARDS_OPEN_CIRCLE_ARROWS
    a_WITH_CIRCLED_ONE_OVERLAYzzsTOP_SEMICIRCLE_ARROWtRIANGLE-HEADED_OPEN_CIRCLE_ARROWzpSE_UP
    dD_BOOKeINTERSECTION_WITH_SERIFSyLOCK_WITH_KEYnMAILBOX_WITH_LOWERED_FLAGmRAISED_FLAGySUBSET
    a_OR_EQUAL_TOqPERSETa_OR_EQUAL_TOuUMBRELLAhNION_WITH_SERIFSa_AND_SMASH_PRODUCTzoUD
    a_WITH_LIGHTNINGjRAINeSNOWeTORNADOpWN_FACEjOATcCKROACHfTAIL_GLASSlONUTfFFINeINcLLISION_SYMBOL
    nONa_EQUALSgSIGNiMBINING_ACUTE_ACCENTa_BELOWmTONE_MARKk-GRAVE-ACUTElMACRONlLMOST_EQUAL_TO_ABOVE
    fBELOWuNNUITY_SYMBOLmTICLOCKWISE_ARROW_ABOVElRING_OVERLAYzSTERISK_ABOVEfBELOWoBINDU_BELOWkREVE
    a_BELOWg-MACRONkIDGE_ABOVEfBELOWmCANDRABINDUjRONa_BELOWkEDILLAgIRCUMFLEX_ACCENTa_BELOW
    wLOCKWISE_ARROW_ABOVElRING_OVERLAYvOMMA_ABOVEa_RIGHTlBELOWjNJOINING_MACRONa_BELOW
    wYRILLIC_DASIA_PNEUMATAoHUNDRED_MILLIONS_SIGNnTHOUSANDS_SIGNwKAVYKAgLETTER_AbBEbIG_YUShCHEdDE
    bJERVfEFbLbMbNbRbSa-TEfFITAeGHEdHAaRD_SIGNjIaEbOTIFIED_AbBIG_YUShEkKAcLITTLE_YUSkMONOGRAPH_UKmO
    aMEGAfPEcSHAbCHAeOFT_SIGNjTEbSEdUaKRAINIAN_IEmVEcYATcERUdIbUcZEbHEkMILLIONS_SIGNnPALATALIZATION
    mYEROKgOKRYTIEhSILI_PNEUMATAoTEN_MILLIONS_SIGNqHOUSAND_MILLIONS_SIGNvITLOa_LEFT_HALFjRIGHT_HALF
    qVZMEToDELETION_MARKlVANAGARI_DIGIT_EIGHTfFIVEdOUReNINEeONEdSEVENeIXdTHREEeWOdZEROkLETTER_AbKA
    cNAcPAcRAcUbVIjSIGN_AVAGRAHAxIAERESISa_BELOWg-RINGnOT_ABOVEa_LEFTeRIGHTlBELOWa_LEFT
    lTED_ACUTE_ACCENTmGRAVE_ACCENTrUBLE_ACUTE_ACCENTmBREVEa_BELOWlCIRCUMFLEX_ABOVEqGRAVE_ACCENT
    mINVERTED_BREVEa_BELOWuLOW_LINEiMACRONa_BELOWmOPEN_MARK_BELOWoVERLINEiPARENTHESES_ABOVE
    qLUS_SIGN_ABOVEfBELOWpRIGHTWARDS_ARROW_BELOWuNG_BELOWkTILDEa_LEFT_HALFjRIGHT_HALF
    qVERTICAL_LINE_ABOVEfBELOWkSTROKE_OVERLAYyD_CIRCUMFLEX_ACCENTxWN_TACK_BELOWlWARDS_ARROW
    pENCLOSING_CIRCLEa_BACKSLASHqDIAMONDhKEYCAPgSCREENfQUAREgUPWARD_POINTING_TRIANGLE
    ziQUALS_SIGN_BELOWrFERMATAgOUR_DOTS_ABOVEpGLAGOLITIC_LETTER_AZUdBIG_YUSgUKYeCHRIVIgDJERVIfOBRO
    fFITAdRITUfGLAGOLIhHERUeIaNITIAL_IZHElOTATED_BIG_YUShSMALL_YUSqZHEeKAKOeLJUDIJEhMYSLITEhNASHI
    fONUdPOKOJIgRITSIfSHAbTAdLOVOeMALL_YUSjTSIcVRIDOgUKUdVEDEeYATIdERIbUcSTUeObUcZEMLJAfHIVETE
    yRANTHA_DIGIT_FIVEdOUReONEdSIXdTHREEeWOdZEROkLETTER_AbKAcNAcPAcVIoPHEME_JOINERmVE_ACCENTa_BELOW
    mTONE_MARKk-ACUTE-GRAVElMACRONkEEK_DIALYTIKA_TONOSpKORONIShMUSICAL_PENTASEMEjTETRASEMEiRISEME
    pPERISPOMENIlYPOGEGRAMMENItHOMOTHETIC_ABOVEoOK_ABOVEiRNeINFINITYgVERTED_BREVEa_BELOWjIDGE_BELOW
    mDOUBLE_ARCH_ABOVEfBELOWzS_BELOWiKATAKANA-HIRAGANA_SEMI-VOICED_SOUND_MARKwVOICED_SOUND_MARK
    ziVYKA_ABOVE_LEFTeRIGHTsLATIN_LETTER_SMALL_CAPITAL_GbLbMbNbRwSMALL_LETTER_Aa_WITH_DIAERESISpE
    bLPHAeObVcBaETAeCa_CEDILLAjDbEaSHcTHdFaLATTENED_OPEN_A_ABOVEwGbHbIaNSULAR_DbGbRbTjKbL
    a_WITH_DOUBLE_MIDDLE_TILDEzONG_SgMbNbOa_WITH_DIAERESISjLIGHT_CENTRALIZATION_STROKEzjPbRa_BELOW
    fROTUNDAjSaCHWAfTaURNED_W_BELOWoUa_WITH_DIAERESISjLIGHT_CENTRALIZATION_STROKEzjVbWa_BELOWhXbZ
    tEFT_ANGLE_ABOVEfBELOWkRROW_ABOVEfBELOWgHEAD_ABOVEfBELOWpHALF_RING_ABOVEfBELOWnRPOON_ABOVE
    nPARENTHESIS_ABOVE_LEFTkBELOW_LEFTwRIGHT_ARROW_ABOVEfBELOWrTACK_BELOWlWARDS_ARROW_OVERLAY
    nHARPOON_WITH_BARB_DOWNWARDSzlIGATURE_LEFT_HALFa_BELOWpRIGHT_HALFa_BELOW
    wHT_CENTRALIZATION_STROKE_BELOWzhONG_DOUBLE_SOLIDUS_OVERLAYwSOLIDUS_OVERLAYoTROKE_OVERLAY
    oVERTICAL_LINE_OVERLAYyW_LINEiMACRONa_BELOWfLEFT_HALFa_BELOWpRIGHT_HALFa_BELOWr-ACUTEfBREVE
    fGRAVElINUS_SIGN_BELOWqNOT_TILDE_ABOVEoUMBER_SIGN_ABOVErOGONEKa_ABOVElLD_PERMIC_LETTER_ANcDOI
    dNENOEfSIIdZATAvPEN_MARK_BELOWoVERLINEiPALATALIZED_HOOK_BELOWuRENTHESES_ABOVEfBELOWfOVERLAY
    sLUS_SIGN_ABOVEfBELOWpRETROFLEX_HOOK_BELOWsVERSE_SOLIDUS_OVERLAYqD_COMMA_ABOVEtIGHT_ARROW_ABOVE
    fBELOWgHEAD_ABOVEeND_DOWN_ARROWHEAD_BELOWuUP_ARROWHEAD_BELOWwBELOWpHALF_RING_ABOVEfBELOW
    nRPOON_ABOVEnPARENTHESIS_ABOVE_RIGHTlBELOW_RIGHTxTACK_BELOWlWARDS_HARPOON_WITH_BARB_DOWNWARDS
    zlNG_ABOVEfBELOWfOVERLAYmSEAGULL_BELOWmHORT_SOLIDUS_OVERLAYoTROKE_OVERLAYoVERTICAL_LINE_OVERLAY
    zbNAKE_BELOWkQUARE_BELOWeRACKETS_ABOVEuTRONG_CENTRALIZATION_STROKE_BELOWziUSPENSION_MARK
    pTHREE_DOTS_ABOVEpILDEa_BELOWfLEFT_HALF_BELOWpOVERLAYhRIGHT_HALF_BELOWvRIPLE_ACUTE_ACCENTmDOT
    dUNDERDOToURNED_COMMA_ABOVEsUP_TACK_ABOVEfBELOWlWARDS_ARROW_BELOWsR_ABOVEhS_ABOVE
    iVERTICAL_LINE_ABOVEfBELOWkTILDEoWIDE_BRIDGE_ABOVEmINVERTED_BRIDGE_BELOWyGGLY_LINE_BELOW
    rX_ABOVEfBELOWg-X_BELOWjZIGZAG_ABOVEfBELOWtETcMAbERCIAL_ATcMINUS_SIGNsPASSdLEMENT
    gOSITION_SYMBOLoRESSIONjNFETTI_BALLjOUNDED_FACElUSED_FACEkGRUENT_WITH_DOT_ABOVEvICAL_TAPER
    kJUNCTIONiSTRUCTION_SIGNeWORKERqTAINS_AS_MEMBERgNORMAL_SUBGROUPa_OR_EQUAL_TO
    zfWITH_LONG_HORIZONTAL_STROKEwOVERBARhVERTICAL_BAR_AT_END_OF_HORIZONTAL_STROKE
    zzINUOUS_UNDERLINE_SYMBOLxOUR_INTEGRALmROL_KNOBSfSEQUENCE_INTRODUCERyVENIENCE_STOREpOKED_RICE
    hIEbNGfPTIC_CAPITAL_LETTER_AKHMIMIC_KHEImLFAeBOHAIRIC_KHEInCROSSED_SHEIkYPTOGRAMMIC_EIEdGANGIA
    gNIcSHEIsDALDAeEIcIALECT-P_ALEFeHORIeKAPAeNImEIEdFEIcIcGAMMAdNGIAgHATEdORIeIAUDAfKAPAdHEIcIcSI
    dL-SHAPED_HAkAULAfMIcNIcOaLD_COPTIC_AINdDJAdESHdGANGIAgHAaTcEIcORIeOOUdSHEIcIMAmNUBIAN_NGIcYI
    dSHIMAfWAUnOUdPIbSIdROcSAMPIeHEIcIMAeIMAdOUdTAUcHETHEgUAcVIDAeZATAsOMBINING_NI_ABOVE
    iSPIRITUS_ASPERfLENISyEPACT_DIGIT_EIGHTfFIVEdOUReNINEeONEdSEVENeIXdTHREEeWO
    jNUMBER_EIGHT_HUNDREDiYgFIFTYdVE_HUNDREDlORTYdUR_HUNDREDmNINE_HUNDREDiTYgONE_HUNDRED
    lSEVEN_HUNDREDiTYgIX_HUNDREDiTYfTENcHIRTYeREE_HUNDREDmWENTYeO_HUNDREDsTHOUSANDS_MARK
    uFRACTION_ONE_HALFqULL_STOPjMORPHOLOGICAL_DIVIDERvOLD_NUBIAN_DIRECT_QUESTION_MARKuFULL_STOP
    jINDIRECT_QUESTION_MARKwVERSE_DIVIDERySMALL_LETTER_AKHMIMIC_KHEImLFAeBOHAIRIC_KHEInCROSSED_SHEI
    kYPTOGRAMMIC_EIEdGANGIAgNIcSHEIsDALDAeEIcIALECT-P_ALEFeHORIeKAPAeNImEIEdFEIcIcGAMMAdNGIAgHATE
    dORIeIAUDAfKAPAdHEIcIcSIdL-SHAPED_HAkAULAfMIcNIcOaLD_COPTIC_AINdDJAdESHdGANGIAgHAaTcEIcORIeOOU
    dSHEIcIMAmNUBIAN_NGIcYIdSHIMAfWAUnOUdPIbSIdROcSAMPIeHEIcIMAeIMAdOUdTAUcHETHEgUAcVIDAeZATA
    qYMBOL_KAIcHI_ROgMI_ROfPI_ROfSHIMA_SIMAjTAUROShTAU_ROrYLEFT_SYMBOLlRIGHT_SIGNmRAL
    cNISH_VERSE_DIVIDERsRESPONDS_TOmUCH_AND_LAMPlNTERBOREeSINKgING_ROD_TENS_DIGIT_EIGHTfFIVEdOUR
    eNINEeONEdSEVENeIXdTHREEeWOoUNIT_DIGIT_EIGHTfFIVEdOUReNINEeONEdSEVENeIXdTHREEeWOyPLE_WITH_HEART
    pWa_FACEhRaABcEDIT_CARDiSCENT_MOONlICKETa_BAT_AND_BALLsOCODILEgISSANTgSS_MARKeOF_JERUSALEM
    jLORRAINElPATTY_WITH_LEFT_CROSSBARnRIGHT_CROSSBARyOMMEEa_WITH_HALF-CIRCLE_BELOWzfED_FLAGS
    fNEGATIVE_SQUARED_LATIN_CAPITAL_LETTER_PzoSWORDSjING_LANESlWNdUTCHdZEIRO_SIGNlYING_CAT_FACE
    iFACEiSTAL_BALLlSIcUBE_ROOThCUMBERgNEIFORM_NUMERIC_SIGN_EIGHT_ASHdDISHeGESH2fSHAR2fU
    a_VARIANT_FORMoVARIANT_FORM_USSUa3xLAMITE_FIFTYeORTYfONE_THIRDjTWO_THIRDSsFIVE_ASHa_TENUiBAN2
    a_VARIANT_FORMqURUeDISHeGESH2bUfSHAR2bUeIXTHS_DISHlUa_VARIANT_FORMsOUR_ASHa_TENUiBAN2
    a_VARIANT_FORMqURUeDISHeGESH2bUfSHAR2bUfUa_VARIANT_FORMoVARIANT_FORM_LIMMUa_AbBc4yNIGIDAESHdMIN
    hNE_ASHdDISHeGESH2fSHAR2fUa_VARIANT_FORMoVARIANT_FORM_ILIMMUa_Ac3b4zOLD_ASSYRIAN_ONE_QUARTER
    hSIXTHvNE_BAN2dURUeEIGHTH_ASHjSHE3fGESH2bUfHALF_GURiQUARTER_ASHdGURlSHARUfTHIRD_DISH
    eVARIANT_FORM_AySEVEN_ASHdDISHeGESH2fSHAR2fUa_VARIANT_FORMoVARIANT_FORM_IMIN_AbBc3
    xHAR2_TIMES_GAL_PLUS_DISHeMINxIX_ASHa_TENUiDISHeGESH2fSHAR2fUa_VARIANT_FORMoVARIANT_FORM_ASH9
    vTHREE_ASHa_TENUiBAN2dURUa_VARIANT_FORMrDISHeGESH2bUfSHAR2a_VARIANT_FORMoUa_VARIANT_FORM
    sVARIANT_FORM_ESH16c21xWO_ASHa_TENUiBAN2dURUeESHE3fGESH2bUfSHAR2bUfTHIRDS_DISHeVARIANT_FORM_A
    znPUNCTUATION_SIGN_DIAGONAL_COLONfQUADCOLONjTRICOLONrOLD_ASSYRIAN_WORD_DIVIDERzVERTICAL_COLON
    zgSIGN_Aa_TIMES_AbBADdGAN2_TENUjHAcIGIdLAGAR_GUNUkMUSHeSAGk2bBa_GUNUeTIMES_ASH2eDUN3_GUNUjGAL
    bN2_TENUjHAcIGI_GUNUhMINeLAGABfNUNa_TENUiSHESHdU2eU_PLUS_U_PLUS_Uw2a_TIMES_AbBALAGfGAN2_TENU
    jME_PLUS_ENkSHA3eTAK4nDa_TIMES_ESH2mKa_TIMES_ERIN2fSHITA_PLUS_GISHxLa_TIMES_ALcDIM2eGISHeHA
    cKAD3dIcSHEdUSHkANcEPHeMARa_TIMES_KUGdSHEnNa_OVER_ANhPLUS_NAGA_OPPOSING_AN_PLUS_NAGAvSQUARED
    rTHREE_TIMESmSHEePINdRADa_TIMES_KURmKABeSAL2dHa_KABA_TENUjOVER_ASH_OVER_ASH
    a_CROSSING_ASH_OVER_ASH_OVER_ASHzoTUG2_OVER_TUG2_TUG2_OVER_TUG2_PAPzrZIDA_TENUk2bGABgBAaD
    a_TIMES_DISH_TENUrG3cHAR2a_TIMES_AB2dNIcZAnLa_OVER_BALjAGdRaA2eIa_TIMES_AbGARdIGI_GUNUqU
    a_CROSSING_BUlOVER_BU_ABcTIMES_NA2jUNlLUGa_OVER_BULUGoRa2eDAa_TIMES_TAK4lG
    a_KISIM5_TIMES_A_PLUS_MASHkMAReBALAGeIcGAa_PLUS_MASHlIaR2dUDdHAcIRa_PLUS_LUkKAKdLAbU
    a_PLUS_MASH2lMdNEcPAP_PLUS_PAPmSIcTAK4eU2_PLUS_GIR2eMASHlSHqTIMES_KURk3cMbRaA3b4eIaBbM
    a_TIMES_IGIdSHEdU_U_Um2a_TIMES_UDlNa_KASKAL_U_GUNU_DISHuSHa_PLUS_SHUmUa_GUNUeOVER_DUhSHESHIGiB
    a_TIMES_ESH2eSHEk2cGa_TIMES_ANSHEeSHa_AT_LEFTlDINcUNdERIN2fGAbIaR2_GUNUhSHeHAbIcIGI_GUNUiKASKAL
    fURbSHU2a_PLUS_KASKALsLAK-020fMa_TIMES_KURmUH_PLUS_GISHnMASHdEScIcNIcPIcSHEcI_GUNUoUDdHbNa3
    a_GUNUa_GUNUl4cR2eEa_OVER_E_NUN_OVER_NUNtTIMES_PAPk2a_TIMES_A_PLUS_HA_PLUS_DArGARdKURdMIcPAP
    dSALcHEdUjDINdGIRdLbNa_CROSSING_ENlOPPOSING_ENlSQUAREDhTIMES_GAN2a_TENUjMEkRENcIN2a_XgSH2
    a_CROSSING_ESH2rZENa_SHESHIG_TIMES_ASHdHIcIGI_GUNUiLAaLdMEaSdSUqTIMES_Aa_PLUS_LALa_TIMES_LALtN
    cBADdDUN3_GUNUa_GUNUoGUDdHAa_GUNUhIGI_GUNUiKASKALa_SQUAREDnU3dLAaL_TIMES_LALmIbUcSHEcUcU2bDnGA
    a_GUNUf2a_OVER_GA2iTIMES_A_PLUS_DA_PLUS_HAkHAcIGIjB2_TENU_PLUS_TABqNa_PLUS_KAK_PLUS_ArSHa2
    a_PLUS_GALnBADbHAR2eR_PLUS_RAkURa_PLUS_RAlDAbIaM_GUNUeTIMES_SHEmUBbG_TIMES_IGI_GUNUiKASKALqEL
    a_PLUS_LAjNa_TIMES_GAN2_TENUrRENeGAaN2_TENUhRa_PLUS_DIcNEkIa4a_PLUS_AiR2_PLUS_SUmHA_PLUS_A
    bLU_PLUS_ESH2sLa_PLUS_LAkI_PLUS_LIjUB2eIGI_GUNUhSH_PLUS_HU_PLUS_ASHuKAKbSKALfIDa_PLUS_LAL
    lU3_PLUS_ANjSHU2_PLUS_KASKALsLAaMa_TIMES_KURmUHdME_PLUS_ENjIbUSHeNEa_PLUS_E2cGIjUNa_OVER_NUNmPA
    cSALbRcHEa_PLUS_TURkIDbMdUMdTAK4eUaDa_PLUS_DUkZIZ2mBAa_CROSSING_GABAnROTATED_NINETY_DEGREESzD
    a_OVER_GAD_GAR_OVER_GARxLa_GAD_OVER_GAD_GAR_OVER_GARzbAMdMbNa2a_CROSSING_GAN2nOVER_GAN2jTENUhR
    a3cSHANfE22cSHTINa_TIMES_KURdUoIa_CROSSING_GIlTIMES_EbUi4a_CROSSING_GI4mOVER_GI4kDIMdGbR2a_GUNU
    g3a_TIMES_A_PLUS_IGIkGAN2_TENUjIGIdLU_PLUS_IGIlPAlSALcHa_CROSSING_GISHnTENUdIMES_BAD
    dGISH_CROSSING_GISHsTAK4oUa_CROSSING_GUm2a_GUNUeTIMES_IGI_GUNUiKAKa_TIMES_IGI_GUNUsNUN
    dSAL_PLUS_TUG2vDa_OVER_GUD_LUGALoPLUS_GISH_TIMES_TAK4uTIMES_A_PLUS_KURkKURlLbMa_TIMES_SHElRa7
    bUNbSHgHAa_GUNUeTENUa_GUNUkLcIa_TIMES_ASHa_OVER_HI_TIMES_ASHs2eBADdDISHeGADdKINdNUNdSHEdUjUaB2
    a_TIMES_ANcHALdKASKALgLISHeUDlL2cSHeIa_AcBbDIMa_OVER_IDIM_BURdSQUAREDvGaIa_DIBdGUNU
    eOVER_IGI_SHIR_OVER_SHIR_UD_OVER_UDzjRIfLa_TIMES_GAN2_TENUq2cMa_CROSSING_IMlOPPOSING_IMlSQUARED
    hTIMES_TAK4lINdNbRbSHdKAa_TIMES_AaDa_PLUS_KU3kNSHEeSH2b3eBADbLAGdRcIbUcERIN2eSH2eGAaLbN2_TENUhR
    a_PLUS_SHA3_PLUS_AtIaR2cSHa_CROSSING_GISHnPLUS_SARmUaDbR7eHI_TIMES_ASH2nIGIcMcKAaKcIaDdLIbUaM
    dMEa_PLUS_DUcGIcTEjIa_PLUS_NUNUZnNEbUNdPAbIcRUcSAaRcHAbEbIDcUaLdIGcUHURfTARcUcUa_U_Ue2bD
    bMUM_TIMES_PAmRa2cSHdZIj2a_CROSSING_KA2oBbD2b3b4b5a_OVER_KAD5mKa_TIMES_IGI_GUNUqLa_CROSSING_KAL
    mTIMES_BADlM2b4cP_ELAMITEjSKALa_LAGAB_TIMES_U_OVER_LAGAB_TIMES_U
    zhOVER_KASKAL_LAGAB_TIMES_U_OVER_LAGAB_TIMES_UzzESH2eIa_TIMES_BADdUaDjDbNbSALcHbIM5
    a_OVER_KISIM5rUa_OVER_HI_TIMES_ASH2_KU_OVER_HI_TIMES_ASH2zq3b4a_VARIANT_FORMo7bLa_GUNUgNbR
    a_OPPOSING_KURoSHU2fWU318gLAaGABa_SQUAREDhTIMES_Aa_PLUS_DA_PLUS_HAkGARdLALjLbNbSH_ZIDA_TENUnBAD
    cIcDARdENcGAaRcIbUDa_PLUS_GUDmHAaLcI_TIMES_NUNmIGI_GUNUhMa_PLUS_HAcLUkKIaNcU3bLa_PLUS_HI_PLUS_A
    sLAGABeISHdUaLdMEa_PLUS_ENjUSHeNEcSHE_PLUS_SUMkITA_PLUS_GISH_PLUS_ERIN2kTENUsU2a_PLUS_SHU2nUM
    dTAGbK4dE_PLUS_A_PLUS_SU_PLUS_NAzUa_PLUS_AbU_PLUS_Uo2_PLUS_ASHkDbSHdZU_OVER_ZUsRa_GUNU
    a_OVER_LAGAR_GUNU_SHEyTIMES_SHEa_PLUS_SUMwHSHUeK-003c21b5c30c50b1c62c79_OVER_LAK-079_GUNUu80
    b1_OVER_LAK-081p92d130c42d210b9c20b5b8c38c65b6d343b7b8c83b4c90d441b9a_TIMES_GUcIGIdPAP_PLUS_LU3
    dPAP_PLUS_LU3vU2_PLUS_BAt50b7c70c83c90b2b3b5d550d608c17a_TIMES_ASHdBADdDUN3_GUNU_GUNUoKU3dLA
    cTARcEcU2bDbRUDAo36c48a_TIMES_DUBdGAcIGIa_GUNUiNIcPAP_PLUS_PAP_PLUS_LU3vSHESH_PLUS_KInUDbRUDA
    p724c49fLa_TIMES_LALlMa_TIMES_KURa_PLUS_RUuIaLbMMU2eSHdUa_TIMES_BADk2a_CROSSING_LU2
    mGUNU_TIMES_ASHoOPPOSING_LU2mSHESHIGa_TIMES_BADqQUAREDhTENUdIMES_ALcBADdDISHeESH2a_PLUS_LAL
    iTENUjGAN2_TENUjHALcI_TIMES_BADmIMcKAD2b3a_PLUS_ASHmIcLA_PLUS_ASHjGABfME_PLUS_ENkNEbUcPAP
    a_PLUS_PAP_PLUS_LU3vSHUcI_PLUS_ASHjK2_PLUS_BUmTAK4dUG2m3bGALa_OPPOSING_LUGALnVER_LUGALkSHESHIG
    lHbLbMa_OVER_LUMa_GAR_OVER_GARzMAa_GUNUeTIMES_TAK4l2bHbRbSHa2eEaSaHdIa_PLUS_ZA7jNcUa_OVER_MUiG
    a_GUNUgNSUBeRGU2eSHa_CROSSING_MUSHnOVER_MUSHa_TIMES_A_PLUS_NAjGAcKAKtTIMES_AbKURdZAj3a_GUNU
    eTIMES_Aa_PLUS_DIjDIcZAoNAa2b4bGAa_INVERTEDiOPPOSING_NAGAnTIMES_SHU_TENUpRdMa_NUTILLUi2dE
    a_SHESHIGhTIMES_AbUDkIa_TIMES_Ei2bMa_TIMES_GAN2_TENUhR_PLUS_GAN2_TENUzbNa9bDA2a_TIMES_ANbSH
    a_PLUS_ASHmBALdDIM_GUNUiGIaSHdUDbLdHIcKESH2fLAK-050hMASHdE_PLUS_GAN2_TENUrNEbUNdPAP_PLUS_PAP
    mSHEa_PLUS_A_ANdSHa_PLUS_ASHvUa_PLUS_Uh2_PLUS_ASHkRUDAeSHoSAGeUa11a_OVER_NU11_BUR_OVER_BUR
    wROTATED_NINETY_DEGREESwTENUhNa_CROSSING_NUNa_LAGAR_OVER_LAGARzeLAGAR_TIMES_GARdMASHeSAL
    a_OVER_NUN_LAGAR_TIMES_SALzdUSHpOVER_NUNiTENUfUZa_AB2_TIMES_ASHGABgBIcDUGdGUDdIGI_GUNUiKAD3eLA
    cNEcSILA3fU2mKISIM5_TIMES_BIa_UxPAaDbNbPcESH2a_ASTERISKnIa_CROSSING_PIlTIMES_AaBcBIbUcEbIaBcUa2
    jR2bIGa_OPPOSING_PIRIGoTIMES_KALdUDcZAoRAaBcIbUcSAaGa_GUNUa_TIMES_HAnNUTILLUhOVER_SAGiTIMES_A
    bDUaBdENcHAcIGI_GUNUiKAKcURdLUMdMIcNUNdSALcHE_AT_LEFTjIDeTABbK4eU2bBbMbRbSHlLa_LAGAB_TIMES_ASH2
    sNGA2eRcHAa3a_TIMES_AbBADdGISHeNEcSHU2eTURdUa_PLUS_Aq6a_TENUgB6cR2dEa_HUcOVER_SHE
    a_GAD_OVER_GAD_GAR_OVER_GARzTAB_OVER_TAB_GAR_OVER_GARzjPLUS_HUB2eNAM2eSARjG9cNbSHa2bLAMgID
    a_TIMES_AbIMkMa_TIMES_AbBALcULUGfDINdGARdIGIa_GUNUiKUSHU2gLULdMUGdSALlNIGdR
    a_OVER_SHIR_BUR_OVER_BURwTENUgTAdUa_OVER_INVERTED_SHUs2a_PLUS_DUG_TIMES_NImE2_TIMES_ANsBURfI
    a_GUNUeTIMES_TAK4lGa4a_OVER_SIG4_SHU2rK2cLA3eUa_OVER_SUiDa2cHURdMaASHeRa9eTAa_ASTERISKiGUNU
    eTIMES_HIcMIjBa_OVER_TAB_NI_OVER_NI_DISH_OVER_DISHzjSQUAREDjGa_TIMES_BIcGUDdSHEbUdTUG2eUDkK4
    a_PLUS_SAGlRcEa_GUNUgIa_TENUf2bLbRa_OVER_TIRa_GAD_OVER_GAD_GAR_OVER_GARzjTIMES_TAK4nUaG2cKbM
    a_TIMES_GAN2_TENUjTHREE_DISHsRa_OVER_TUR_ZA_OVER_ZAxUa_GUDdOVER_U_PA_OVER_PA_GAR_OVER_GAR
    xSUR_OVER_SURmU_REVERSED_OVER_U_REVERSEDziUa_Ue2bBbDa_GUNUeKUSHU2gSHESHIGa_TIMES_BADrTIMES_BAD
    dMIcU_PLUS_U_PLUS_Ua_GUNUzcUGdMa_TIMES_LAGABfMEa_PLUS_DAkSHA3eUiBINdUMa_TIMES_KASKALgPAmNa_GUNU
    gRa_CROSSING_URlSHESHIGi2a_INVERTEDiTIMES_A_PLUS_HAcNAiLcHAcNUNdU2a_PLUS_ASHdBIjDk4bIa3cU
    a_TIMES_AaSHGABgBARdDARA3eUNdGAaLbN2_TENUhRcUcHAcIGIcMbSHdKIcLAK-668gU3bMdMINdPAcSHEcIG4eTU
    cU_PLUS_GUDjDbRUDAmDAa_TIMES_UmSHa_TIMES_AbKUaRdTAK4l2bUMXdXdTUKIeZ3a_TIMES_KASKALoUdZA
    a_SQUARED_TIMES_KURrTENUf7bGbMXdE2cIa_OVER_ZIi3bBa_KABA_TENUlGbZ2dUa_OVER_ZU_PLUS_SARr5
    a_TIMES_AbTHREE_DISH_TENUxBURdMqP_ON_BLACK_SQUAREpWITH_STRAWlCAKEeIDOeRLING_STONE
    jY_BRACKET_EXTENSIONrLOGICAL_ANDdORiOPhRENCY_EXCHANGEiSIGNjY_AND_RICE
    lVED_STEM_PARAGRAPH_SIGN_ORNAMENTziSTARDdOMSfT_OF_MEATkYCLONEfLINDRICITYkPRIOT_SYLLABLE_AbEbI
    bJAbOcKAbEbIbObUcLAbEbIbObUcMAbEbIbObUcNAbEbIbObUcObPAbEbIbObUcRAbEbIbObUcSAbEbIbObUcTAbEbIbObU
    cUbWAbEbIbOcXAbEcZAbOpO-MINOAN_SIGN_CM001b2b4b5b6b7b8b9c10b1b2aBc3b5b7b9c21b3b4b5b6b7b8b9c30b3
    b4b5b6b7b8b9c40b1b4b6b7b9c50b1b2b3b4b5b6b8b9c60b1b2b3b4b6b7b8b9c70b1b2b3b4b5aBc6b8b9c80b1b2b3b4
    b5b6b7b8b9c90b1b2b4b5b6b7b8b9d100b1b2b3b4b5b7b8b9c10b2b4d301b2vRILLIC_CAPITAL_LETTER_A
    a_WITH_BREVEfDIAERESISpBKHASIAN_CHEa_WITH_DESCENDERsDZEdHAlLEUT_KAiBARRED_Oa_WITH_DIAERESIS
    vSHKIR_KAjEbIG_YUSfNOCULAR_OkLENDED_YUSkROAD_OMEGAkYELORUSSIAN-UKRAINIAN_IyCCHEdHE
    a_WITH_DESCENDERiIAERESISjVERTICAL_STROKExLOSED_LITTLE_YUSqROSSED_OjDCHEdEbJEaRV
    eOUBLE_MONOCULAR_OlOhWEcZEaLOdHEcWEcZEbHEfEa_WITH_DIAERESISpFbLa_WITH_DESCENDERjHOOK
    eMIDDLE_HOOKlTAILlMa_WITH_TAILlNa_WITH_DESCENDERjHOOKeLEFT_HOOKjMIDDLE_HOOKlTAILlRa_WITH_TICKlS
    a_WITH_DESCENDERrFITAeGHEa_WITH_DESCENDERjMIDDLE_HOOKlSTROKEa_AND_HOOKpUPTURNoJEdHA
    a_WITH_DESCENDERjHOOKeSTROKEmRD_SIGNiWEdIa_WITH_DIAERESISjGRAVEfMACRONmEa_WITH_BREVEfGRAVEmOaTA
    bIFIED_AbBIG_YUShCLOSED_LITTLE_YUSrEbLITTLE_YUSkYATlZHITSAa_WITH_DOUBLE_GRAVE_ACCENTzhJEcKA
    a_WITH_DESCENDERjHOOKeSTROKEgVERTICAL_STROKEwHAKASSIAN_CHEnJEcOMI_DEbJEcZJEeLJEdNJEdSJEdTJEdZJE
    gPPAeSIdLHAcITTLE_YUSjJEdMONOCULAR_OhGRAPH_UKmNEUTRAL_YERkJEdOa_WITH_DIAERESISpMEGAa_WITH_TITLO
    pTcPEa_WITH_DESCENDERjMIDDLE_HOOKsSIdQAcREVERSED_DZEdTSEdYUcZEkHAcOUND_OMEGAlSCHWA
    a_WITH_DIAERESIStEMISOFT_SIGNmHAbCHAdHAa_WITH_DESCENDERrORT_Ia_WITH_TAILlUfWEdOFT_DEcELbMcSIGN
    iTRAIGHT_Ua_WITH_STROKEwTCHEdEa_WITH_DESCENDERjMIDDLE_HOOKsSEbHEcSEcWEdWEdUa_WITH_DIAERESIS
    iOUBLE_ACUTEmMACRONmKaRAINIAN_IEmVEcWEcYAaEbTcERUa_WITH_BACK_YERiDIAERESISsIbNbUcZE
    a_WITH_DESCENDERiIAERESISpMLYAfHEa_WITH_BREVEfDESCENDERiIAERESISqWEkIGATURE_A_IEeEN_GHEgTE_TSE
    xKAVYKAgLETTER_MULTIOCULAR_OnPALOCHKAiSMALL_CAPITAL_ELxPAYEROKhSMALL_LETTER_Aa_WITH_BREVE
    fDIAERESISpBKHASIAN_CHEa_WITH_DESCENDERsDZEdHAlLEUT_KAiBARRED_Oa_WITH_DIAERESISvSHKIR_KAjE
    bIG_YUSfNOCULAR_OkLENDED_YUSkROAD_OMEGAkYELORUSSIAN-UKRAINIAN_IyCCHEdHEa_WITH_DESCENDER
    iIAERESISjVERTICAL_STROKExLOSED_LITTLE_YUSqROSSED_OjDCHEdEbJEaRVeOUBLE_MONOCULAR_OlOhWEcZEaLO
    dHEcWEcZEbHEfEa_WITH_DIAERESISpFbLa_WITH_DESCENDERjHOOKeMIDDLE_HOOKlTAILlMa_WITH_TAILlN
    a_WITH_DESCENDERjHOOKeLEFT_HOOKjMIDDLE_HOOKlTAILlRa_WITH_TICKlSa_WITH_DESCENDERrFITAeGHE
    a_WITH_DESCENDERjMIDDLE_HOOKlSTROKEa_AND_HOOKpUPTURNoJEdHAa_WITH_DESCENDERjHOOKeSTROKEmRD_SIGN
    iWEdIa_WITH_DIAERESISjGRAVEfMACRONmEa_WITH_BREVEfGRAVEmOaTAbIFIED_AbBIG_YUShCLOSED_LITTLE_YUSrE
    bLITTLE_YUSkYATlZHITSAa_WITH_DOUBLE_GRAVE_ACCENTzhJEcKAa_WITH_DESCENDERjHOOKeSTROKE
    gVERTICAL_STROKEwHAKASSIAN_CHEnJEcOMI_DEbJEcZJEeLJEdNJEdSJEdTJEdZJEgPPAeSIdLHAcITTLE_YUSjJE
    cONG-LEGGED_DEoMONOCULAR_OhGRAPH_UKmNARROW_OhEUTRAL_YERkJEdOa_WITH_DIAERESISpMEGAa_WITH_TITLOpT
    cPALOCHKAhEa_WITH_DESCENDERjMIDDLE_HOOKsSIdQAcREVERSED_DZEdTSEdYUcZEkHAcOUND_OMEGAgED_VEkSCHWA
    a_WITH_DIAERESIStEMISOFT_SIGNmHAbCHAdHAa_WITH_DESCENDERrORT_Ia_WITH_TAILlUfWEdOFT_DEcELbMcSIGN
    iTRAIGHT_Ua_WITH_STROKEwTALL_HARD_SIGNjTEcYAThCHEdEa_WITH_DESCENDERjMIDDLE_HOOKsHREE-LEGGED_TE
    oSEbHEcSEcWEdWEdUa_WITH_DIAERESISiOUBLE_ACUTEmMACRONmKaRAINIAN_IElNBLENDED_UKmVEcWEbIDE_EShYAaE
    bTcERUa_WITH_BACK_YERiDIAERESISsIbNbUcZEa_WITH_DESCENDERiIAERESISpMLYAfHEa_WITH_BREVEfDESCENDER
    iIAERESISqWEkIGATURE_A_IEeEN_GHEgTE_TSEvTHOUSANDS_SIGNxDAGGERa_KNIFEfWITH_LEFT_GUARD
    kRIGHT_GUARDvLET_SYMBOLkNCERdGOdRK_SHADEeUNGLASSESnSH_SYMBOLgWITH_LEFT_UPTURNrED_LOW_LINE
    iOVERLINEiTRIANGLE-HEADED_RIGHTWARDS_ARROWzmTA_LINK_ESCAPEpC1b2b3b4bScEAF_PERSONjCIDUOUS_TREE
    kMAL_EXPONENT_SYMBOLpSEPARATOR_KEY_SYMBOLzREASE_FONT_SIZE_SYMBOLxERcGREE_CELSIUShFAHRENHEIT
    kSIGNjLaETEdIVERY_TRUCKlTA_EQUAL_TOmNTISTRY_SYMBOL_LIGHT_DOWN_AND_HORIZONTALa_WITH_CIRCLE
    gTRIANGLEiWAVEzeUP_AND_HORIZONTALa_WITH_CIRCLEgTRIANGLEiWAVEzcVERTICAL_AND_BOTTOM_LEFTeRIGHT
    mTOP_LEFTeRIGHTjWAVEiWITH_CIRCLEgTRIANGLEzsPARTMENT_STOREoRELICT_HOUSE_BUILDINGvSCENDING_NODE
    mERET_CAPITAL_LETTER_AYcBEEdCHEEeDEEdEFbLbMbNaGcRbSaHcTHcWcGAYdHbJEEdKAYdLONG_AaHcEbIbOaOhOIbW
    cPEEdSHORT_AaHcEbIbOaOiTEEcHEEeVEEdWUcYEEdZEEcHEEtSMALL_LETTER_AYcBEEdCHEEeDEEdEFbLbMbNaGcRbSaH
    cTHcWcGAYdHbJEEdKAYdLONG_AaHcEbIbOaOhOIbWcPEEdSHORT_AaHcEbIbOaOiTEEcHEEeVEEdWUcYEEdZEEcHEEuT
    a_ISLANDkKTOP_COMPUTERiWINDOWmVANAGARI_ABBREVIATION_SIGNqCUTE_ACCENTmCARETfDANDAeIGIT_EIGHT
    fFIVEdOUReNINEeONEdSEVENeIXdTHREEeWOdZEROjOUBLE_DANDAmGAP_FILLERjRAVE_ACCENTmHEADSTROKEkJAIN_OM
    hLETTER_AaAbIbUbWbYcBAbBAcHAdCAaNDRA_AbEbOhHAdDAbDAbDAbHAdHAdHAdEbFAcGAbGAcHAbHAdLOTTAL_STOPmHA
    bEAVY_YAiIaIcJAbHAcJAdKAbHAbHAeLAbLAbLAeMAaRWARI_DDAlNAbGAcNAbNAdYAdOaEbOEdPAbHAdQAcRAbHAcRAdSA
    bHAbORT_AbEbOgSAdTAbHAcTAbHAeUaEbUaEdVAbOCALIC_LaLcRaRkYAbYAdZAbHAkOMcSIGN_ANUSVARAhVAGRAHA
    iCANDRABINDUa_AVAGRAHAiTHREEeWOdVIRAMAsDOUBLE_CANDRABINDU_VIRAMAzHIGH_SPACING_DOT
    qINVERTED_CANDRABINDUuNUKTAfPUSHPIKAiSIDDHAMgPACING_CANDRABINDUtVIRAMAeSARGA
    lTRESS_SIGN_ANUDATTAiUDATTAsVOWEL_SIGN_AAbIbUbWbYcCANDRA_EbLONG_EgOiEbIaIcOaEbOE
    dPRISHTHAMATRA_EpSHORT_EbOhUaEbUaEdVOCALIC_LaLcRaRzeICE_CONTROL_FOUReONEdSTRINGgTHREEeWO
    rIAERESISgMETER_SIGNjOND_OPERATORiSHAPE_WITH_A_DOT_INSIDExTARGETgWITH_BOTTOM_HALF_BLACK
    rLEFT_HALF_BLACKpRIGHT_HALF_BLACKqTOP_HALF_BLACKzE_FACE-1b2b3b4b5b6hSEL_LOCOMOTIVE
    pFFERENCE_BETWEENqGIT_EIGHTa_COMMAfFULL_STOPpFIVEa_COMMAfFULL_STOPnOURa_COMMAfFULL_STOPoNINE
    a_COMMAfFULL_STOPoONEa_COMMAfFULL_STOPnSEVENa_COMMAfFULL_STOPoIXa_COMMAfFULL_STOPnTHREEa_COMMA
    fFULL_STOPoWOa_COMMAfFULL_STOPnZEROa_COMMAfFULL_STOPrRAM_FOR_EARTHaLY_HEAVENfUMANnGREATER_YANG
    dINlHEAVENLY_EARTHnUMAN_EARTHlLESSER_YANGdINtMENSION_ORIGIN
    oNGBAT_CIRCLED_SANS-SERIF_DIGIT_EIGHTfFIVEdOUReNINEeONEdSEVENeIXdTHREEeWOdZEROkNUMBER_TEN
    zeNEGATIVE_CIRCLED_DIGIT_EIGHTfFIVEdOUReNINEeONEdSEVENeIXdTHREEeWOjNUMBER_TEN
    kSANS-SERIF_DIGIT_EIGHTfFIVEdOUReNINEeONEdSEVENeIXdTHREEeWOdZEROkNUMBER_TEN
    ztRECT_CURRENT_SYMBOL_FORM_TWOxHITiSABLED_CARiPPOINTED_BUT_RELIEVED_FACErFACE
    oCONTINUOUS_UNDERLINE_SYMBOLzcGUISED_FACEmTTO_MARKiVES_AKURU_DIGIT_EIGHTfFIVEdOUReNINEeONE
    dSEVENeIXdTHREEeWOdZEROjOUBLE_DANDAmEND_OF_TEXT_MARKqGAP_FILLERkINITIAL_RAkLETTER_AaAcBAbHAdCA
    bHAdDAbDAbHAdHAdEbGAbHAdHAcIaIcJAcKAbHAdLAbLAdMAcNAbGAcNAcYAdObPAbHAdRAcSAbHAcSAdTAbHAcTAdUaU
    cVAcYAbYAdZAjMEDIAL_RAcYAjPREFIXED_NASAL_SIGNtSIGN_ANUSVARAiCANDRABINDUlHALANTAhNUKTAkVIRAMA
    fOWEL_SIGN_AAbIcEbIaIcObUaUwIDESdNG_MASKhSION_SIGNdLASHfTIMESlORCE_SYMBOLmYA_LAMPhZZY_FACE
    eSYMBOLlLEcNA_DOUBLE_HELIXpO_NOT_LITTER_SYMBOLsCUMENTa_WITH_PICTUREhTEXTa_AND_PICTUREzdDO
    cES_NOT_CONTAIN_AS_MEMBERgNORMAL_SUBGROUPa_OR_EQUALzkDIVIDEa_WITH_REVERSED_NEGATION_SLASH
    zkFORCEfPRECEDEa_OR_EQUALoOVEfSUCCEEDa_OR_EQUALxGa_FACEfRA_ABBREVIATION_SIGNrLETTER_AaAbIbUcBA
    bHAdCAbHAdDAbDAbHAdHAdEbGAbHAdHAcIaIcJAbHAdKAbHAdLAcMAcNAbGAcNAcYAdObPAbHAdRAbRAdSAbHAcSAdTAbHA
    cTAbHAeUaUcVAcYAjSIGN_ANUSVARAiNUKTAfVIRAMAeSARGAmVOWEL_SIGN_AAbIbUcEbIaIcObUaUcVOCALIC_RaR
    zLLAR_SIGNiPHINfMINO_TILE_HORIZONTAL_BACKf-00-00b1b2b3b4b5b6e1-00b1b2b3b4b5b6e2-00b1b2b3b4b5b6
    e3-00b1b2b3b4b5b6e4-00b1b2b3b4b5b6e5-00b1b2b3b4b5b6e6-00b1b2b3b4b5b6qVERTICAL_BACKf-00-00b1b2b3
    b4b5b6e1-00b1b2b3b4b5b6e2-00b1b2b3b4b5b6e3-00b1b2b3b4b5b6e4-00b1b2b3b4b5b6e5-00b1b2b3b4b5b6
    e6-00b1b2b3b4b5b6yNG_SIGNhORcT_ABOVEfMINUSfOPERATORiPLUSfTED_CIRCLEfROSSfFENCEfLINE_FACEjOBELOS
    gRIGHT-POINTING_ANGLEuSOLIDUSgQUAREgTRANSPOSITION_MARKERzUBLE_ACUTE_ACCENTmCIRCLED_DIGIT_EIGHT
    fFIVEdOUReNINEeONEdSEVENeIXdTHREEeWOjNUMBER_TENrOLON_EQUALkURLY_LOOPkDAGGERfOWN_TACK
    jEXCLAMATION_MARKqHIGH-REVERSED-9_QUOTATION_MARKzeYPHENgINTEGRALeRSECTION
    mLEFT_ARC_GREATER-THAN_BRACKETzdOGICAL_ANDdORiW_LINEf-9_QUOTATION_MARK
    qREVERSED-9_QUOTATION_MARKzeNESTED_GREATER-THANmLESS-THANa_WITH_UNDERBARzfOBLIQUE_HYPHENoPLUS
    dRECEDESgIMEa_QUOTATION_MARKuQUESTION_MARKnRIGHT_ARC_LESS-THAN_BRACKETzcSOLIDUS_OPERATOR
    pQUARE_INTERSECTIONmUNIONlTACKED_COMMAlROKE_NOT_SIGNoUBSETeCCEEDSgPERSETgSPENSION_MARKpUNION
    eP_TACKhVERTICAL_BARa_DOUBLE_LEFT_TURNSTILEoRIGHT_TURNSTILEwLEFT_TURNSTILEsLINEnWAVY_OVERLINE
    o-ENDED_MULTIMAPoLINE_EQUAL_TO_OR_GREATER-THANmLESS-THANvSLANTED_EQUAL_TO_OR_GREATER-THAN
    mLESS-THANvGREATER-THAN_OR_EQUAL_TOyLESS-THAN_OR_EQUAL_TOzjSTRUCK_CAPITAL_CbGAMMAfHbNbPaIcQbRbZ
    jITALIC_CAPITAL_DjSMALL_DbEbIbJoN-ARY_SUMMATIONpSMALL_GAMMAfPIqD_FEMALE_SIGNlMALE_SIGNjSYMBOL
    lGHNUTgVE_OF_PEACElWN_ARROWHEADjFISH_TAILjRIGHT_DIAGONAL_ELLIPSISxTACKa_WITH_CIRCLE_BELOW
    x-POINTING_RED_TRIANGLEmSMALL_RED_TRIANGLEsTRIANGLE_WITH_LEFT_HALF_BLACKpRIGHT_HALF_BLACK
    zpWARD_FACING_HOOKa_WITH_DOTnNOTCHED_HOOKa_WITH_DOTzeS_ANCORAfRROWa_AND_RIGHT_ONE_EIGHTH_BLOCK
    zbFROM_BARiLEFTWARDS_OF_UPWARDS_ARROWzbTO_BARgWITH_CORNER_LEFTWARDSqDOUBLE_STROKE
    nEQUILATERAL_ARROWHEADvHORIZONTAL_STROKErLARGE_TRIANGLE_ARROWHEADyMEDIUM_TRIANGLE_ARROWHEAD
    zNOTCHED_TAILmSMALL_EQUILATERAL_ARROWHEADvTRIANGLE_ARROWHEADyTIP_LEFTWARDSjRIGHTWARDS
    zBLACK_ARROWfCIRCLED_WHITE_ARROWzCOMPRESSED_ARROWqDASHED_ARROWlOUBLE_ARROWmFINGER-POST_ARROW
    rHARPOON_WITH_BARB_LEFT_BESIDE_DOWNWARDS_HARPOON_WITH_BARB_RIGHT
    ziUPWARDS_HARPOON_WITH_BARB_RIGHTznFROM_BARiTO_BARhWARDSjRIGHT_FROM_BARiTO_BARhWARDS
    zcEAVY_ARROWfCOMPRESSED_ARROWwPAIRED_ARROWSnQUADRUPLE_ARROWpROCKETgSANS-SERIF_ARROW
    pQUARED_ARROWnTRIANGLE_ARROWHEADk-HEADED_ARROWa_LEFTWARDS_OF_UPWARDS_TRIANGLE-HEADED_ARROW
    zrTO_BARgWITH_BOLD_SHAFTkDOUBLE_HORIZONTAL_STROKEyHEAVY_SHAFTlLONG_TIP_LEFTWARDSjRIGHTWARDS
    tMEDIUM_SHAFTmNARROW_SHAFTmVERY_HEAVY_SHAFTzcDASHED_ARROWmPAIRED_ARROWSnZIGZAG_ARROWzPLE_ARROW
    lWO_HEADED_ARROWn-HEADED_ARROW_WITH_TRIANGLE_ARROWHEADSzqWHITE_ARROWa_WITHIN_TRIANGLE_ARROWHEAD
    zmZIGZAG_ARROWvRACHMA_SIGNjFTING_POINT_RIGHTWARDS_ARROWzdGONa_FACEjESSdIVE_SLOW_SIGN
    nOMEDARY_CAMELmOLING_FACEkP_OF_BLOODjLETfUM_WITH_DRUMSTICKStUCKcMPLING
    gPLOYAN_AFFIX_ATTACHED_E_HOOKgI_HOOKgLEFT-TO-RIGHT_SECANTuSECANTgTAILcNGENTa_HOOKvHIGH_ACUTE
    fCIRCLEgDOTdGRAVEfLINEdONG_GRAVEkTIGHT_ACUTElVERTICALa_SECANTpWAVEjLEFT_HORIZONTAL_SECANT
    vOW_ACUTEeRROWfCIRCLEgDOTdGRAVEfLINEdONG_GRAVEkTIGHT_ACUTElVERTICALa_SECANTpWAVE
    iMID_HORIZONTAL_SECANTrVERTICAL_SECANTtRIGHT_HORIZONTAL_SECANTzeDOUBLE_MARKlLETTER_AaOUdBbDa_S
    cHcEaEbUcFa_NdGa_R_SfHaLcIaEcJa_Ma_SdNa_SdSa_WITH_DOTkWITH_DOTaS_INSIDE_AND_ABOVEzdKa_MbR_SeKcL
    aHbONG_IbUgMa_Na_SdSbWITH_DOTkNa_Ma_SdSbWITH_DOTjASAL_AbIbObUhOaAbOHcUbWcPa_NcERNIN_AMbNjRa_ScH
    bOMANIAN_IbUkSa_Ja_SdKa_RdMbNbPa_RdSbTa_RdWITH_DOTa_BELOWpHORT_IgLOAN_ANcDHcEEbHbNcJbONbWcUhT
    a_R_SdScHcUa_NcHbIcVaOCALIC_MjWa_RcAbEIcHbIbOaWdXaWcYEjPUNCTUATION_CHINOOK_FULL_STOP
    zeSIGN_O_WITH_CROSSrTHICK_LETTER_SELECTORzeVDdE-MAIL_SYMBOLmAGLEdRa_OF_MAIZEfRICE
    hWITH_HEARING_AIDrTHa_GLOBE_AMERICAShSIA-AUSTRALIAoEUROPE-AFRICAsROUNDkST_SYRIAC_CROSS
    qDITORIAL_CORONISqGGbYPTIAN_HIEROGLYPH_A001b2b3b4b5aAc6aAbBc7b8b9c10b1b2b3b4aAc5b6b7aAc8b9c20b1
    b2b3b4b5b6b7b8b9c30b1b2aAc3b4b5b6b7b8b9c40aAc1b2aAc3aAc4b5aAc6b7b8b9c50b1b2b3b4b5b6b7b8b9c60b1
    b2b3b4b5b6b7b8b9c70dA001b2b3b4b5b6b7aAbBc8b9c10b1b2b3b4b5b6b7b8b9c20b1b2b3b4b5b6b7b8b9c30b1b2
    fB001b2b3b4b5aAc6b7b8b9dEGIN_SEGMENTnC001b2aAbBbCc3b4b5b6b7b8b9c10aAc1b2b3b4b5b6b7b8b9c20b1b2b3
    b4eD001b2b3b4b5b6b7b8aAc9c10b1b2b3b4b5b6b7b8b9c20b1b2b3b4b5b6b7aAc8b9c30b1aAc2b3b4aAc5b6b7b8b9
    c40b1b2b3b4b5b6aAc7b8aAc9c50aAbBbCbDbEbFbGbHbIc1b2aAc3b4aAc5b6b7b8b9c60b1b2b3b4b5b6b7aAbBbCbDbE
    bFbGbHfE001b2b3b4b5b6b7b8aAc9aAd10b1b2b3b4b5b6aAc7aAc8b9c20aAc1b2b3b4b5b6b7b8aAc9c30b1b2b3b4aA
    c6b7b8dND_SEGMENTlF001aAc2b3b4b5b6b7b8b9c10b1b2b3aAc4b5b6b7b8b9c20b1aAc2b3b4b5b6b7b8b9c30b1aAc2
    b3b4b5b6b7aAc8aAc9c40b1b2b3b4b5aAc6aAc7aAc8b9c50b1aAbBbCc2b3eG001b2b3b4b5b6aAc7aAbBc8b9c10b1aA
    c2b3b4b5b6b7b8b9c20aAc1b2b3b4b5b6aAc7b8b9c30b1b2b3b4b5b6aAc7aAc8b9c40b1b2b3aAc4b5aAc6b7b8b9c50
    b1b2b3b4eH001b2b3b4b5b6aAc7b8dORIZONTAL_JOINERrI001b2b3b4b5aAc6b7b8b9aAd10aAc1aAc2b3b4b5
    dNSERT_AT_BOTTOM_ENDdSTARTmTOP_ENDdSTARTtK001b2b3b4b5b6b7b8eL001b2aAc3b4b5b6aAc7b8eM001aAbBc2b3
    aAc4b5b6b7b8b9c10aAc1b2aAbBbCbDbEbFbGbHc3b4b5aAc6aAc7aAc8b9c20b1b2aAc3b4aAc5b6b7b8aAc9c30b1aAc2
    b3aAbBc4b5b6b7b8b9c40aAc1b2b3b4eN001b2b3b4b5b6b7b8b9c10b1b2b3b4b5b6b7b8aAbBc9c20b1b2b3b4b5aAc6
    b7b8b9c30b1b2b3aAc4aAc5aAc6b7aAc8b9c40b1b2dL001b2b3b4b5aAc6b7b8b9c10b1b2b3b4b5b6b7aAc8b9c20
    eU001b2b3b4b5b6b7b8b9c10aAc1aAc2b3b4b5b6b7b8aAc9c20b1b2aAgO001aAc2b3b4b5aAc6aAbBbCbDbEbFc7b8b9
    c10aAbBbCc1b2b3b4b5b6b7b8b9aAd20aAc1b2b3b4aAc5aAc6b7b8b9aAd30aAc1b2b3aAc4b5b6aAbBbCbDc7b8b9c40
    b1b2b3b4b5b6b7b8b9c50aAbBc1dVERLAY_MIDDLEoP001aAc2b3aAc4b5b6b7b8b9c10b1eQ001b2b3b4b5b6b7eR001b2
    aAc3aAbBc4b5b6b7b8b9c10aAc1b2b3b4b5b6aAc7b8b9c20b1b2b3b4b5b6b7b8b9eS001b2aAc3b4b5b6aAc7b8b9c10
    b1b2b3b4aAbBc5b6b7aAc8b9c20b1b2b3b4b5b6aAbBc7b8b9c30b1b2b3b4b5aAc6b7b8b9c40b1b2b3b4b5b6eT001b2
    b3aAc4b5b6b7aAc8aAc9aAd10b1aAc2b3b4b5b6aAc7b8b9c20b1b2b3b4b5b6b7b8b9c30b1b2aAc3aAc4b5b6eU001b2
    b3b4b5b6aAbBc7b8b9c10b1b2b3b4b5b6b7b8b9c20b1b2b3aAc4b5b6b7b8b9aAd30b1b2aAc3b4b5b6b7b8b9c40b1b2
    eV001aAbBbCbDbEbFbGbHbIc2aAc3b4b5b6b7aAbBc8b9c10b1aAbBbCc2aAbBc3b4b5b6b7b8b9c20aAbBbCbDbEbFbGbH
    bIbJbKbLc1b2b3aAc4b5b6b7b8aAc9aAd30aAc1aAc2b3aAc4b5b6b7aAc8b9c40aAeERTICAL_JOINERpW001b2b3aAc4
    b5b6b7b8b9aAd10aAc1b2b3b4aAc5b6b7aAc8aAc9c20b1b2b3b4aAc5eX001b2b3b4aAbBc5b6aAc7b8aAfY001aAc2b3
    b4b5b6b7b8eZ001b2aAbBbCbDc3aAbBc4aAc5aAc6b7b8b9c10b1b2b3b4b5aAbBbCbDbEbFbGbHbIc6aAbBbCbDbEbFbG
    bHyIGHT_PETALLED_OUTLINED_BLACK_FLORETTEzgOINTED_BLACK_STARkPINWHEEL_STAR
    nRECTILINEAR_BLACK_STARzfSPOKED_ASTERISKpTEARDROP-SPOKED_PROPELLER_ASTERISKzkH_NOTEkJECT_SYMBOL
    lLBASAN_LETTER_AbBEcCEbHEdDEbHEdEaIcFEcGEbHAMMAeEcJEdHEcIbJEcKEbHEdLEbLEdMEcNAbDEcEbJEdObPEcQE
    cREbREdSEbHEdTEbHEdUbVEcXEcYbZEbHEqECTRIC_ARROWfLIGHT_BULBkPLUGeTORCHgAL_INTERSECTIONuMENT_OF
    a_OPENING_DOWNWARDSjUPWARDSpWITH_DOT_ABOVEjLONG_HORIZONTAL_STROKEwOVERBAR
    hTWO_HORIZONTAL_STROKESwUNDERBARiVERTICAL_BAR_AT_END_OF_HORIZONTAL_STROKEzzdPHANTfVATORgF
    bYMAIC_LETTER_ALEPHeYINeBETHeDALETHgGIMELfHEaTHeKAPHeLAMEDHgMEMdNUNdPEcQOPHeRESHeSADHEdMEKHfHIN
    eTAWcETHeWAWdYODHeZAYINlIGATURE_ZAYIN-YODHzbM_DASHeQUADeSPACEgOJI_COMPONENT_BALDeCURLY_HAIR
    kRED_HAIRiWHITE_HAIRuMODIFIER_FITZPATRICK_TYPE-1-2d3b4b5b6zgPHASIS_SYMBOLmTY_DOCUMENTiNESTdOTE
    a_PADbGEjPAGEaSfSETa_WITH_LEFT_ARROW_ABOVEqOVERBARhRIGHT_ARROW_ABOVErSMALL_CIRCLE_ABOVEzhN_DASH
    eQUADeSPACEgD_OF_GUARDED_AREAmLINEeMEDIUMgPROOFcTECTED_AREAoSELECTED_AREAnTEXTdRANSMISSION
    a_BLOCKvWITH_LEFTWARDS_ARROW_ABOVEzdQaUIRYfTER_SYMBOLkVELOPEa_WITH_DOWNWARDS_ARROW_ABOVE
    vLIGHTNINGwOLbMbTcPAcQUAL_AND_PARALLEL_TOpTO_BY_DEFINITIONnOR_GREATER-THANmLESS-THANjPRECEDES
    iSUCCEEDSpS_COLONfSIGNa_ABOVE_LEFTWARDS_ARROWpPLUS_SIGNjRIGHTWARDS_ARROWqTILDE_OPERATOR
    tND_SLANTED_PARALLELa_WITH_TILDE_ABOVEzmWITH_BUMPY_ABOVElDOT_BELOWjINFINITY_BELOW
    oTWO_DOTS_ABOVE_AND_TWO_DOTS_BELOWzsWITH_ASTERISKrIANGULAR_TOkVALENT_TOcWITH_FOUR_DOTS_ABOVE
    zfRASE_TO_THE_LEFTeRIGHTqIS_FORM_ONEdTWOlROR-BARRED_BLACK_CIRCLEgDIAMONDhSQUAREmWHITE_CIRCLE
    gDIAMONDhSQUAREySAbCaAPEeTIMATED_SYMBOLiSiTBbHIOPIC_COLON
    dMBINING_GEMINATION_AND_VOWEL_LENGTH_MARKvMARKpVOWEL_LENGTH_MARKyMAfDIGIT_EIGHTfFIVEdOUReNINE
    eONEdSEVENeIXdTHREEeWOjFULL_STOPjNUMBER_EIGHTYgFIFTYeORTYfHUNDREDhNINETYgSEVENTYgIXTYfTEN
    a_THOUSANDlHIRTYfWENTYnPARAGRAPH_SEPARATORsREFACE_COLONnQUESTION_MARKnSECTION_MARKkMICOLON
    iYLLABLE_BAaAcBAaAcEaEcIbObUcEaEcIbOaAcUbWAbEaEcIdCAaAcCAaAcEaEcHAaAcEaEcHAaAcEaEcIbObUcIbObUcI
    bObUcEaEcHAaAcEaEcIbOaAcUbWAdIbOaAcUbWAdDAaAcDAaAcEaEcHAAcEaEcIbObUcIbOaAcUbWAdEaEcIbOaAcUbWA
    cZAAcEaEcIbObUdFAaAcEaEcIbObUbWAbEaEcIcYAdGAaAcEaEcGAaAcEaEcIbObUbWAaAcEaEcIdIbLOTTAL_AaAcEaEcI
    bOaAcUbWAjOaAcUaRAGE_BWEEcIdFWEEcIdGWEaEcIdHHWAeKWEaEcIdMWEEcIdPWEEcIdQWEaEcIjWAaAcEaEcIcYAaAcE
    aEcIbObUdHAaAcEaEcHAaAcEaEcIbObUbWAbEaEcIcYAaAcEaEcIbObUdIbOaAcUcJAaAcEaEcIbOaAcUbWAdKAaAcEaEcI
    bOaAcUbWAaAcEaEcIcXAaAcEaEcIbObUbWAaAcEaEcIdYAaAcEaEcIbObUdLAaAcEaEcIbOaAcUbWAdMAaAcEaEcIbOaAcU
    bWAbEaEcIcYAdNAaAcEaEcIbOaAcUbWAcYAaAcEaEcIbOaAcUbWAePAaAcEaEcHAaAbRYNGEAL_AaAcEaEcIbObUkEaEcI
    bOaAcUbWAdIbOaAcUbWAbEaEcIdQAaAcEaEcHAaAcEaEcIbObUbWAaAcEaEcIdIbOaAcUbWAaAcEaEcIcYAaAcEaEcIbObU
    dRAaAcEaEcIbOaAcUbWAcYAdSAaAcEaBATBEIT_BWAdFWAdMWAdPWAlEcHAaAcEaEcIbOaAcUbWAdIbOaAcSAaAcEaEcIbO
    bUcUbWAcZAaAcEaEcIbObUbWAeTAaAcEaEcHAaAcEaEcIbOaAcUbWAdIbOaAcSAaAcEaEcIbObUbWAdTHAAcEaEcIbObUdU
    bWAcZAaAcEaEcIbOaAcUdVAaAcEaEcIbObUbWAdWAaAcEaEcIbOaAcUcXAaAcEaEcIbOaAcUbWAaAcEaEcIcYAaAcEaEcI
    bObUdYAaAcEaEcIbOaAcUcZAaAcEaEcHAaAcEaEcIbObUbWAdIbOaAcUbWAcZAaAcEaEcIbObUmTONAL_MARK_CHIRET
    gDERETa-HIDETkIFATfHIDETfKENATeURTeRIKRIKgSHORT_RIKRIKmYIZETqWORDSPACEqXcULER_CONSTANTmRO_SIGN
    f-CURRENCY_SIGNoPEAN_CASTLEgPOST_OFFICEtVERGREEN_TREEnXCESSdLAMATION_MARKeQUESTION_MARK
    xPRESSIONLESS_FACErTENDED_ARABIC-INDIC_DIGIT_EIGHTfFIVEdOUReNINEeONEdSEVENeIXdTHREEeWOdZERO
    zeRATERRESTRIAL_ALIENsEMELY_HEAVY_FIVE_SPOKED_ASTERISKuGREEK_CROSSlSALTIREgIX_SPOKED_ASTERISK
    tWHITE_CIRCLEgSQUAREzcYEaGLASSEShSeFACE_HOLDING_BACK_TEARSsMASSAGEhPALM
    eSAVOURING_DELICIOUS_FOODxCREAMING_IN_FEARrTHROWING_A_KISSpWITH_COLD_SWEATiWBOY_HAT
    kDIAGONAL_MOUTHoFINGER_COVERING_CLOSED_LIPSzcHEAD-BANDAGEmLOOK_OF_TRIUMPHpMEDICAL_MASKlONOCLE
    hNO_GOOD_GESTUREpOK_GESTUREjNE_EYEBROW_RAISEDrPEN_EYES_AND_HAND_OVER_MOUTHyMOUTH
    a_AND_COLD_SWEAToVOMITINGtPARTY_HORN_AND_PARTY_HATxEEKING_EYEkLEADING_EYESnROLLING_EYES
    mSTUCK-OUT_TONGUEa_AND_TIGHTLY-CLOSED_EYEStWINKING_EYEzhTEARS_OF_JOYlHERMOMETER
    lUNEVEN_EYES_AND_WAVY_MOUTHzcOUT_MOUTHpSIMILE_SIGNlTORYfIRYdLAFELeLEN_LEAF
    hING_DIAGONAL_CROSSING_NORTH_EAST_ARROWqRISING_DIAGONALyIN_WHITE_CIRCLE_IN_BLACK_SQUAREzvMILY
    eRSI_SYMBOLkTHER_CHRISTMASoX_ICONeMACHINEkEARFUL_FACEjTHERfMALE_SIGNiININE_ORDINAL_INDICATOR
    yNCEReRRIS_WHEELiYeFbIELD_HOCKEY_STICK_AND_BALLzGURE_DASHeSPACEkLE_CABINEThFOLDERgSEPARATOR
    lM_FRAMESgPROJECTORmNITE_PART_INTEGRALsREa_ENGINEfXTINGUISHERnCRACKERhWORK_SPARKLERjS
    gST_PLACE_MEDALlQUARTER_MOONa_SYMBOLgWITH_FACEwSTRONG_ISOLATEsSHa_CAKE_WITH_SWIRL_DESIGNxEYE
    dING_POLE_AND_FISHsTED_HAND_SIGNoVE_DOT_MARKePUNCTUATIONtLAG_IN_HOLEjMINGOfT_SHOEfBREADfNESS
    gEUR-DE-LISjXED_BICEPSlOPPY_DISKiRAL_HEARTjWERa_PLAYING_CARDSmUNCTUATION_MARKvUSHED_FACEkY
    aING_DISCeENVELOPEiSAUCERmOGaGYdLDEReNDUEeOTaPRINTSiR_ALLeCESdK_AND_KNIFEa_WITH_PLATE
    vED_PARAGRAPHOSoINGeM_FEEDgTUNE_COOKIEmUNTAINfR_BALLOON-SPOKED_ASTERISKxCLUB-SPOKED_ASTERISK
    tORNER_ARROWS_CIRCLING_ANTICLOCKWISEzlDOT_MARKePUNCTUATIONpLEAF_CLOVERlPOINTED_BLACK_STAR
    sTEARDROP-SPOKED_ASTERISKz-PER-EM_SPACEnTH_ROOTjX_FACEhRACTION_NUMERATOR_ONEnSLASHlME_WITH_AN_X
    ePICTUREhTILESoEEZING_FACEkNCH_FRANC_SIGNiIESkIED_SHRIMPkOG_FACEgNT-FACING_BABY_CHICK
    rTILTED_SHADOWED_WHITE_RIGHTWARDS_ARROWzqWNaING_FACE_WITH_OPEN_MOUTHzdSaIcUEL_PUMPhLL_BLOCK
    fMOON_SYMBOLgWITH_FACEoOUTER_JOINkSTOPfWIDTH_AMPERSANDiPOSTROPHEjSTERISKiBROKEN_BARkCENT_SIGN
    iIRCUMFLEX_ACCENTqOLONdMMAbERCIAL_ATnDIGIT_EIGHTfFIVEdOUReNINEeONEdSEVENeIXdTHREEeWOdZERO
    jOLLAR_SIGNlEQUALS_SIGNkXCLAMATION_MARKqFULL_STOPjGRAVE_ACCENTkEATER-THAN_SIGNrHYPHEN-MINUS
    mLATIN_CAPITAL_LETTER_AbBbCbDbEbFbGbHbIbJbKbLbMbNbObPbQbRbSbTbUbVbWbXbYbZqSMALL_LETTER_AbBbCbD
    bEbFbGbHbIbJbKbLbMbNbObPbQbRbSbTbUbVbWbXbYbZtEFT_CURLY_BRACKETnPARENTHESISlSQUARE_BRACKET
    oWHITE_PARENTHESISuSS-THAN_SIGNnOW_LINEiMACRONgNOT_SIGNhUMBER_SIGNlPERCENT_SIGNlLUS_SIGN
    iOUND_SIGNkQUESTION_MARKlOTATION_MARKoREVERSE_SOLIDUSoIGHT_CURLY_BRACKETnPARENTHESIS
    lSQUARE_BRACKEToWHITE_PARENTHESISxSEMICOLONiOLIDUShTILDEfVERTICAL_LINEnWON_SIGNiYEN_SIGN
    qNCTION_APPLICATIONrERAL_URNjSEdVS1b2b3b4eGAME_DIEgRLICfEARa_WITH_HANDLESiOUT_HUBoM_STONEgINI
    eNIEdOMETRIC_PROPORTIONlALLY_EQUAL_TOfIVALENT_TOyRGIAN_CAPITAL_LETTER_AENcNcBANdCANcHARcINdIL
    dDONdENcGANcHANeHAEbRcEbIEcOEdINcJHANdILdKANcHAReLASdMANdNARdONcPARcHAReQARdRAEdSANcHINeTANbR
    dUNcVINdWEcXANdYNcZENcHARtLETTER_AENcINcNcBANdCANcHARcINdILdDONdELIFIeNcFIcGANcHANeHAEbRaD_SIGN
    iEbIEcOEdINcJHANdILdKANcHAReLABIAL_SIGNjSdMANdNARdONcPARcHAReQARdRAEdSANcHINeTANbRcURNED_GANkUN
    cVINdWEcXANdYNcZENcHARlMTAVRULI_CAPITAL_LETTER_AENcINcNcBANdCANcHARcINdILdDONdELIFIeNcFIcGAN
    cHANeHAEbRaD_SIGNiEbIEcOEdINcJHANdILdKANcHAReLABIAL_SIGNjSdMANdNARdONcPARcHAReQARdRAEdSANcHIN
    eTANbRcURNED_GANkUNcVINdWEcXANdYNcZENcHARzdPARAGRAPH_SEPARATORtSMALL_LETTER_AENcNcBANdCANcHAR
    cINdILdDONdENcGANcHANeHAEbRcEbIEcOEdINcJHANdILdKANcHAReLASdMANdNARdONcPARcHAReQARdRAEdSANcHIN
    eTANbRdUNcVINdWEcXANdYNcZENcHARyRMAN_PENNY_SIGNpTA_MARKiHOSTeIMEL_SYMBOLkRAFFE_FACEjLaS_SYMBOL
    lLAGOLITIC_CAPITAL_LETTER_AZUdBIG_YUSgUKYeCAUDATE_CHRIVInHRIVIgDJERVIfOBROeZELOfFITAdRITU
    fGLAGOLIhHERUeIaNITIAL_IZHElOTATED_BIG_YUShSMALL_YUSqZHEbITSAhKAKOeLATINATE_MYSLITEpJUDIJE
    hMYSLITEhNASHIfONUcTUdPEbOKOJIgRITSIfSHAbTAaPICgLOVOeMALL_YUSa_WITH_TAILsPIDERY_HAkTROKUTASTI_A
    lSIcVRIDOgUKUdVEDEeYATIdERIbUcSTUeObUcZEMLJAfHIVETEwSMALL_LETTER_AZUdBIG_YUSgUKYeCAUDATE_CHRIVI
    nHRIVIgDJERVIfOBROeZELOfFITAdRITUfGLAGOLIhHERUeIaNITIAL_IZHElOTATED_BIG_YUShSMALL_YUSqZHEbITSA
    hKAKOeLATINATE_MYSLITEpJUDIJEhMYSLITEhNASHIfONUcTUdPEbOKOJIgRITSIfSHAbTAaPICgLOVOeMALL_YUS
    a_WITH_TAILsPIDERY_HAkTROKUTASTI_AlSIcVRIDOgUKUdVEDEeYATIdERIbUcSTUeObUcZEMLJAfHIVETE
    zdSS_OF_MILKlEICH_STARKkOBE_WITH_MERIDIANSrVESdWING_STARlOAL_NETfTcGGLESfLFEReRILLA
    fTHIC_LETTER_AHSAdIHVUSgBAIRKANhDAGSeEISdFAIHUfGIBAeHAGLdWAIRfIGGWSeUJAeJERdKUSMAfLAGUSfMANNA
    fNAUTHSfINE_HUNDREDiTYgOTHALfPAIRTHRAiQAIRTHRAiRAIDAfSAUILfTEIWSeHIUTHgURUSeWINJAsRADUATION_CAP
    lNTHA_AU_LENGTH_MARKoLETTER_AaAbIbUcBAbHAdCAbHAdDAbDAbHAdHAdEEcGAbHAdHAcIaIcJAbHAdKAbHAdLAbLA
    dMAcNAbGAcNAcYAdOOcPAbHAdRAcSAbHAcSAdTAbHAcTAbHAeUaUcVAbEDIC_ANUSVARAiDOUBLE_ANUSVARAuOCALIC_L
    aLcRaRkYAjOMcSIGN_ANUSVARAhVAGRAHAiCANDRABINDUkOMBINING_ANUSVARA_ABOVEyNUKTAfPLUTAfVIRAMAeSARGA
    mVOWEL_SIGN_AAbIbUcEEcIaIcOOcUaUcVOCALIC_LaLcRaRzbPESdVE_ACCENT
    kEATER-THAN_ABOVE_DOUBLE-LINE_EQUAL_ABOVE_LESS-THANziLESS-THAN_ABOVE_DOUBLE-LINE_EQUAL
    ziRIGHTWARDS_ARROWqSIMILAR_ABOVE_LESS-THANpOR_EQUAL
    pLANTED_EQUAL_ABOVE_LESS-THAN_ABOVE_SLANTED_EQUALzzeND_NOT_APPROXIMATEpSINGLE-LINE_NOT_EQUAL_TO
    zdBESIDE_LESS-THANpUT_NOT_EQUAL_TOfIVALENT_TOvCLOSED_BY_CURVEa_ABOVE_SLANTED_EQUAL
    zkEQUAL_TO_OR_LESS-THANvOR_APPROXIMATElEQUAL_TOfIVALENT_TOnLESS-THANjSLANTED_EQUAL_TO
    a_WITH_DOT_ABOVEa_LEFTkINSIDEzjVER_EQUAL_TOjLAPPING_LESS-THANvSIGNeWITH_CIRCLE_INSIDEnDOT
    dQUESTION_MARK_ABOVEzjEK_ACROPHONIC_ATTIC_FIFTYa_STATERShTALENTSgHOUSANDa_STATERSuVEa_HUNDRED
    a_STATERShTALENTSpSTATERShTALENTSgHOUSANDa_TALENTSvONE_DRACHMAhHALFdUNDRED_STATERShTALENTS
    pQUARTERhTHOUSAND_STATERShTALENTSuTEN_MNASeSTATERShTALENTSgHOUSAND_STATERS
    zbCARYSTIAN_FIVE_HUNDREDvYRENAIC_TWO_DRACHMASvDELPHIC_FIVE_MNASrEPIDAUREAN_FIVE_HUNDREDmTWO
    a_DRACHMASxHERAEUM_ONE_PLETHRONrMIONIAN_FIFTYfONEdTENoMESSENIAN_TENnNAXIAN_FIVE_HUNDRED
    tSTRATIAN_FIFTY_MNAStTHESPIAN_FIFTYdVE_HUNDREDhTHOUSANDnONEa_HUNDREDhTHOUSANDmTENcHIRTY
    eREE_HUNDREDmWOlROEZENIAN_FIFTYa_ALTERNATE_FORMsVEa_HUNDREDmTENa_ALTERNATE_FORMzoNO_TELEIA
    jROURA_SIGNjTABE_SIGNlBETA_SYMBOLlCAPITAL_DOTTED_LUNATE_SIGMA_SYMBOLzbKAI_SYMBOLkLETTER_ALPHA
    a_WITH_DASIAa_AND_OXIAa_AND_PROSGEGRAMMENIxPERISPOMENIa_AND_PROSGEGRAMMENIzeROSGEGRAMMENIoVARIA
    a_AND_PROSGEGRAMMENIzjMACRONgOXIAePROSGEGRAMMENInSILIa_AND_OXIAa_AND_PROSGEGRAMMENIxPERISPOMENI
    a_AND_PROSGEGRAMMENIzeROSGEGRAMMENIoVARIAa_AND_PROSGEGRAMMENIzjTONOSfVARIAeRACHYqRCHAIC_SAMPI
    nBETAeCHIdDELTAfEPSILONa_WITH_DASIAa_AND_OXIAeVARIApOXIAePSILIa_AND_OXIAeVARIApTONOSfVARIArTA
    a_WITH_DASIAa_AND_OXIAa_AND_PROSGEGRAMMENIxPERISPOMENIa_AND_PROSGEGRAMMENIzeROSGEGRAMMENIoVARIA
    a_AND_PROSGEGRAMMENIzjOXIAePROSGEGRAMMENInSILIa_AND_OXIAa_AND_PROSGEGRAMMENIxPERISPOMENI
    a_AND_PROSGEGRAMMENIzeROSGEGRAMMENIoVARIAa_AND_PROSGEGRAMMENIzjTONOSfVARIAoGAMMAfHETAeIOTA
    a_WITH_DASIAa_AND_OXIAePERISPOMENIlVARIAoIALYTIKAjMACRONgOXIAePSILIa_AND_OXIAePERISPOMENIlVARIA
    pTONOSfVARIAeRACHYqKAPPAfLAMDAfMUcNUcOMEGAa_WITH_DASIAa_AND_OXIAa_AND_PROSGEGRAMMENI
    xPERISPOMENIa_AND_PROSGEGRAMMENIzeROSGEGRAMMENIoVARIAa_AND_PROSGEGRAMMENIzjOXIAePROSGEGRAMMENI
    nSILIa_AND_OXIAa_AND_PROSGEGRAMMENIxPERISPOMENIa_AND_PROSGEGRAMMENIzeROSGEGRAMMENIoVARIA
    a_AND_PROSGEGRAMMENIzjTONOSfVARIAoICRONa_WITH_DASIAa_AND_OXIAeVARIApOXIAePSILIa_AND_OXIAeVARIA
    pTONOSfVARIAsPAMPHYLIAN_DIGAMMArHIcIbSIdRHOa_WITH_DASIAoSANcHOcIGMAfTAUcHETAfUPSILON
    a_WITH_DASIAa_AND_OXIAePERISPOMENIlVARIAoIALYTIKAjMACRONgOXIAeTONOSfVARIAeRACHYtXIcYOTdZETA
    kUNATE_SIGMA_SYMBOLtREVERSED_DOTTED_LUNATE_SIGMA_SYMBOLzbLUNATE_SIGMA_SYMBOLzdTHETA_SYMBOL
    uDASIAa_AND_OXIAePERISPOMENIlVARIAoIALYTIKA_AND_OXIAePERISPOMENIlVARIAjTONOSoRACHMA_SIGN
    mFIVE_OBOLS_SIGNoOUR_OBOLS_SIGNpGRAMMA_SIGNlINDICTION_SIGNmSTRUMENTAL_NOTATION_SYMBOL-1a1b2b3b4
    b7b8b9c2a3b4b5b6b7b9c30b2b6b7b8b9c4a0b2b3b5b7b8b9c5a0b1b2b3b4c7b8zfKAI_SYMBOLiPPA_SYMBOLlORONIS
    gYATHOS_BASE_SIGNrLETTER_ARCHAIC_KOPPAnDIGAMMAhKOPPAfSAMPIeMALL_CAPITAL_GAMMAfLAMDAfOMEGAfPIbSI
    dRHOqTIGMAgYOTjITRA_SIGNjOWER_NUMERAL_SIGNrUNATE_EPSILON_SYMBOLoSIGMA_SYMBOLtMETRETES_SIGN
    mUSICAL_LEIMMAoNUMERAL_SIGNmOBOL_SIGNiNE_HALF_SIGNa_ALTERNATE_FORMyQUARTER_SIGNpUNKIA_SIGNkXIA
    ePERISPOMENIkHI_SYMBOLjI_SYMBOLiROSGEGRAMMENInSILIa_AND_OXIAePERISPOMENIlVARIApQUESTION_MARK
    nREVERSED_LUNATE_EPSILON_SYMBOLzeHO_SYMBOLgWITH_STROKE_SYMBOLwSINUSOID_SIGN
    mMALL_DOTTED_LUNATE_SIGMA_SYMBOLzbLETTER_ALPHAa_WITH_DASIAa_AND_OXIAa_AND_YPOGEGRAMMENI
    wPERISPOMENIa_AND_YPOGEGRAMMENIzeVARIAa_AND_YPOGEGRAMMENIxYPOGEGRAMMENIxMACRONgOXIA
    a_AND_YPOGEGRAMMENIwPERISPOMENIa_AND_YPOGEGRAMMENIzdSILIa_AND_OXIAa_AND_YPOGEGRAMMENI
    wPERISPOMENIa_AND_YPOGEGRAMMENIzeVARIAa_AND_YPOGEGRAMMENIxYPOGEGRAMMENIxTONOSfVARIA
    a_AND_YPOGEGRAMMENIwRACHYgYPOGEGRAMMENIxRCHAIC_KOPPAfSAMPInBETAeCHIdDELTAeIGAMMAhEPSILON
    a_WITH_DASIAa_AND_OXIAeVARIApOXIAePSILIa_AND_OXIAeVARIApTONOSfVARIArTAa_WITH_DASIAa_AND_OXIA
    a_AND_YPOGEGRAMMENIwPERISPOMENIa_AND_YPOGEGRAMMENIzeVARIAa_AND_YPOGEGRAMMENIxYPOGEGRAMMENIxOXIA
    a_AND_YPOGEGRAMMENIwPERISPOMENIa_AND_YPOGEGRAMMENIzdSILIa_AND_OXIAa_AND_YPOGEGRAMMENI
    wPERISPOMENIa_AND_YPOGEGRAMMENIzeVARIAa_AND_YPOGEGRAMMENIxYPOGEGRAMMENIxTONOSfVARIA
    a_AND_YPOGEGRAMMENIxYPOGEGRAMMENIwFINAL_SIGMAlGAMMAfHETAeIOTAa_WITH_DASIAa_AND_OXIAePERISPOMENI
    lVARIAoIALYTIKAa_AND_OXIAePERISPOMENIlTONOSfVARIAtMACRONgOXIAePERISPOMENIkSILIa_AND_OXIA
    ePERISPOMENIlVARIApTONOSfVARIAeRACHYqKAPPAeOPPAfLAMDAfMUcNUcOMEGAa_WITH_DASIAa_AND_OXIA
    a_AND_YPOGEGRAMMENIwPERISPOMENIa_AND_YPOGEGRAMMENIzeVARIAa_AND_YPOGEGRAMMENIxYPOGEGRAMMENIxOXIA
    a_AND_YPOGEGRAMMENIwPERISPOMENIa_AND_YPOGEGRAMMENIzdSILIa_AND_OXIAa_AND_YPOGEGRAMMENI
    wPERISPOMENIa_AND_YPOGEGRAMMENIzeVARIAa_AND_YPOGEGRAMMENIxYPOGEGRAMMENIxTONOSfVARIA
    a_AND_YPOGEGRAMMENIxYPOGEGRAMMENIwICRONa_WITH_DASIAa_AND_OXIAeVARIApOXIAePSILIa_AND_OXIAeVARIA
    pTONOSfVARIAsPAMPHYLIAN_DIGAMMArHIcIbSIdRHOa_WITH_DASIAfPSILIoSAMPIdNcHOcIGMAeTIGMAgTAUcHETA
    fUPSILONa_WITH_DASIAa_AND_OXIAePERISPOMENIlVARIAoIALYTIKAa_AND_OXIAePERISPOMENIlTONOSfVARIA
    tMACRONgOXIAePERISPOMENIkSILIa_AND_OXIAePERISPOMENIlVARIApTONOSfVARIAeRACHYtXIcZETA
    lREVERSED_DOTTED_LUNATE_SIGMA_SYMBOLzbLUNATE_SIGMA_SYMBOLziUBSCRIPT_SMALL_LETTER_BETAeCHIdGAMMA
    fPHIdRHOzYMBOL_TAU_RHOoTALENT_SIGNkHETA_SYMBOLkREE_OBOLS_SIGNkQUARTERS_SIGNsONOS
    eRYBLION_BASE_SIGNrWO_OBOLS_SIGNkTHIRDS_SIGNpUPSILON_WITH_ACUTE_AND_HOOK_SYMBOL
    vDIAERESIS_AND_HOOK_SYMBOLzHOOK_SYMBOLyVARIAeOCAL_NOTATION_SYMBOL-1a0b1b2b3b4b5b6b7b8b9c2a0b1b2
    b3b4c3b4b5a0b1b2b3b4c6b7b8b9xXESTES_SIGNlYEAR_SIGNiPOGEGRAMMENInZERO_SIGNlN_APPLEfBOOKeHEART
    fSALADjIMACING_FACElNNING_CAT_FACE_WITH_SMILING_EYESzbFACEa_WITH_ONE_LARGE_AND_ONE_SMALL_EYE
    zcSMILING_EYESlTAR_EYESzbOUP_MARKeSEPARATORmWING_HEARTmSbUARANI_SIGNiDSMANhIDE_DOGgTAR
    eJARATI_ABBREVIATION_SIGNrDIGIT_EIGHTfFIVEdOUReNINEeONEdSEVENeIXdTHREEeWOdZEROkLETTER_AaAbIbU
    cBAbHAdCAbHAdDAbDAbHAdHAdEbGAbHAdHAcIaIcJAbHAdKAbHAdLAbLAdMAcNAbGAcNAcYAdObPAbHAdRAcSAbHAcSAdTA
    bHAcTAbHAeUaUcVAbOCALIC_LaLcRaRkYAcZHAkOMcRUPEE_SIGNkSIGN_ANUSVARAhVAGRAHAiCANDRABINDU
    kIRCLE_NUKTA_ABOVEsMADDAHgNUKTAfSHADDAfUKUNfTHREE-DOT_NUKTA_ABOVEuWO-CIRCLE_NUKTA_ABOVEwVIRAMA
    eSARGAmVOWEL_CANDRA_EbOiSIGN_AAbIbUcCANDRA_EbOiEbIaIcObUaUcVOCALIC_LaLcRaR
    zdNJALA_GONDI_DIGIT_EIGHTfFIVEdOUReNINEeONEdSEVENeIXdTHREEeWOdZEROkLETTER_AaAbIbUcBAbHAdCAbHA
    dDAbDAbHAdHAdEEcGAbHAdHAcIaIcJAbHAdKAbHAdLAbLAdMAcNAbGAdOOcPAbHAdRAcSAcTAbHAcTAbHAeUaUcVAcYAjOM
    cSIGN_ANUSVARAiVISARGAmVIRAMAfOWEL_SIGN_AAbIbUcEEcIaIcOOcUaUzRMUKHI_ABBREVIATION_SIGNqDDAK
    fDIGIT_EIGHTfFIVEdOUReNINEeONEdSEVENeIXdTHREEeWOdZEROkEK_ONKARiIRIdLETTER_AaAbIbUcBAbHAdCAbHA
    dDAbDAbHAdHAdEEcFAcGAbHAbHAeHAcIaIcJAbHAdKAbHAbHAeLAbLAdMAcNAbGAcNAcYAdOOcPAbHAdRAbRAdSAbHAdTA
    bHAcTAbHAeUaUcVAcYAcZAjSIGN_ADAK_BINDIkBINDIfNUKTAfUDAATfVIRAMAeSARGAhYAKASHlTIPPIfURA
    dVOWEL_SIGN_AAbIbUcEEcIaIcOOcUaUwHADESdIR_SPACEgCUTfLFWIDTH_BLACK_SQUAREmDOWNWARDS_ARROW
    pFORMS_LIGHT_VERTICALuHANGUL_FILLERgLETTER_AaEcCHIEUCHgIEUCfEaObUcHIEUHfIaEUNGfKHIEUKHgIYEOK
    a-SIOSlMIEUMfNIEUNa-CIEUCfHIEUHlOaEcPHIEUPHgIEUPa-SIOSkRIEULa-HIEUHfKIYEOKgMIEUMfPHIEUPHgIEUP
    fSIOSeTHIEUTHnSIOSdSANGCIEUCfKIYEOKgPIEUPfSIOSeTIKEUTlTHIEUTHgIKEUTgUbWAaEcEaOcIcYAaEcEaOcIbObU
    qIDEOGRAPHIC_COMMAfFULL_STOPvKATAKANA_LETTER_AbEbHAbEbIbObUcIbKAbEbIbObUcMAbEbIbObUcNaAbEbIbObU
    cObRAbEbIbObUcSAbEbIbMALL_AbEbIbObTUcUbYAbObUhObUcTAbEbIbObUcUbWAbOcYAbObUjMIDDLE_DOT
    kSEMI-VOICED_SOUND_MARKwVOICED_SOUND_MARKs-HIRAGANA_PROLONGED_SOUND_MARKznLEFT_CORNER_BRACKET
    pWARDS_ARROWpRIGHT_CORNER_BRACKETpWARDS_ARROWqUPWARDS_ARROWnWHITE_CIRCLEuMBURGERgMERa_AND_PICK
    eSICKLEgWRENCHoSAbTER_FACEkND_WITH_INDEX_AND_MIDDLE_FINGERS_CROSSEDzbFINGER_AND_THUMB_CROSSED
    zlBAGbLLeSHAKEgGUL_CHOSEONG_CEONGCHIEUMCHIEUCHgIEUCfSIOSdSANGCIEUCfSIOStHIEUCHa-HIEUHfKHIEUKH
    mTUEUMCHIEUCHgIEUCfSIOSdSANGCIEUCfSIOSqIEUCa-IEUNGlFILLERgHIEUHa-SIOSkIEUNGa-CHIEUCHgIEUCfHIEUH
    fKIYEOKgMIEUMfPANSIOSgHIEUPHgIEUPfRIEULfSIOSeTHIEUTHgIKEUTmKAPYEOUNMIEUMfPHIEUPHgIEUPfRIEUL
    fSSANGPIEUPrHIEUKHgIYEOKa-TIKEUTnMIEUMa-KIYEOKgPIEUPfSIOSeTIKEUTmNIEUNa-CIEUCfHIEUHfKIYEOK
    gPIEUPfSIOSeTIKEUTmPANSIOSgHIEUPHa-HIEUHfPIEUPmIEUPa-CHIEUCHgIEUCfHIEUHfKHIEUKHgIYEOKgNIEUN
    fPHIEUPHhSIOSa-CIEUCfKIYEOKgPIEUPfTHIEUTHgIKEUTkSANGSIOSjTHIEUTHgIKEUTmRIEULa-CIEUCfHIEUH
    fKAPYEOUNPIEUPmHIEUKHgIYEOKgMIEUMfNIEUNfPIEUPfSIOSdSANGKIYEOKgPIEUPfTIKEUTlTIKEUTmSIOSa-CHIEUCH
    gIEUCfHIEUHfIEUNGfKHIEUKHgIYEOKgMIEUMfNIEUNfPHIEUPHgIEUPa-KIYEOKmRIEULfSSANGSIOSjTHIEUTHgIKEUT
    kSANGCIEUCa-HIEUHlHIEUHfIEUNGfKIYEOKgNIEUNfPIEUPfRIEULfSIOSa-PIEUPkTHIEUTHgIKEUTgYEORINHIEUH
    qTHIEUTHgIKEUTa-CIEUCfKIYEOKgMIEUMfPIEUPfRIEULfSIOSlYEORINHIEUHjSIEUNGrDOUBLE_DOT_TONE_MARK
    uFILLERgJONGSEONG_CHIEUCHgIEUCa-PIEUPfSSANGPIEUPqHIEUHa-MIEUMfNIEUNfPIEUPfRIEULlIEUNGa-KHIEUKH
    gIYEOKgSSANGKIYEOKrKAPYEOUNMIEUMfPHIEUPHgIEUPfRIEULmHIEUKHgIYEOKa-CHIEUCHhHIEUHfKHIEUKHhNIEUN
    fPIEUPfRIEULfSIOSa-KIYEOKsMIEUMa-CHIEUCHgIEUCfHIEUHfKIYEOKgNIEUNfPANSIOSgIEUPa-SIOSkRIEULfSIOS
    dSANGNIEUNfSIOSpNIEUNa-CHIEUCHgIEUCfHIEUHfKIYEOKgPANSIOShRIEULfSIOSeTHIEUTHgIKEUTmPANSIOS
    a-KAPYEOUNPIEUPnPIEUPmHIEUPHa-PIEUPfSIOSeTHIEUTHoIEUPa-CHIEUCHgIEUCfHIEUHfMIEUMfPHIEUPHhRIEUL
    a-PHIEUPHnSIOSa-TIKEUTlTIKEUTmRIEULa-HIEUHfKAPYEOUNPIEUPmHIEUKHgIYEOKa-HIEUHfSIOSlMIEUMa-HIEUH
    fKIYEOKgSIOSkNIEUNfPANSIOSgHIEUPHgIEUPa-HIEUHfPHIEUPHhSIOSeTIKEUTmSIOSdSANGKIYEOKgSIOSjTHIEUTH
    gIKEUTa-HIEUHmYEORINHIEUHa-HIEUHpSIEUNGoSIOSa-CHIEUCHgIEUCfHIEUHfKAPYEOUNPIEUPmIYEOKgMIEUM
    fPANSIOSgIEUPfRIEULfTHIEUTHgIKEUTkSANGCIEUCfIEUNGfKIYEOKgMIEUMfNIEUNfPIEUPfRIEULa-KHIEUKHnSIOS
    a-KIYEOKgTIKEUTlTIKEUTa-PIEUPmYESIEUNGnTHIEUTHgIKEUTa-CHIEUCHgIEUCfKIYEOKgPIEUPfRIEULfSIOS
    a-KIYEOKlTHIEUTHoYEORINHIEUHjSIEUNGa-HIEUHfKHIEUKHgIYEOKgMIEUMfPANSIOShSIOSdSANGKIYEOK
    zeUNGSEONG_Aa-EUcObUcEbRAEAa-AbEaOcIbUhEaOa-EUcObUdUa-AbEaObUcObUeFILLERgIa-AaRAEAfEUcIbOa-IdU
    bYAa-OcEcEaOcObUeOa-EaOcOa-IdUbYAaEcEaOeEcSSANGARAEAkUa-AaEcEO-EUfI-IdUbYEaOfWAaEcEaOcIcYAa-ObU
    bYOdEcEaOa-ObUbYAfIa-UdOa-AaEcEOcIbObYAaEcEOfUa-AaEcEaOcIbObUbYEaOqLETTER_AaEbRAEAaEgCHIEUCH
    gIEUCfEaObUcHIEUHfIaEUNGfKAPYEOUNMIEUMfPHIEUPHgIEUPfSSANGPIEUPrHIEUKHgIYEOKa-SIOSlMIEUM
    a-PANSIOSgIEUPfSIOSkNIEUNa-CIEUCfHIEUHfPANSIOShSIOSeTIKEUTmOaEcPANSIOSgHIEUPHgIEUPa-CIEUC
    fKIYEOKgSIOSa-KIYEOKgTIKEUTlTHIEUTHgIKEUTmRIEULa-HIEUHfKIYEOKa-SIOSlMIEUMfPANSIOSgHIEUPHgIEUP
    a-SIOSkSIOSeTHIEUTHgIKEUTgYEORINHIEUHrSIOSa-CIEUCfKIYEOKgNIEUNfPIEUPfTIKEUTkSANGCIEUCfHIEUH
    fIEUNGfKIYEOKgNIEUNfPIEUPfSIOSeTIKEUTlTHIEUTHgIKEUTgUbWAaEcEaOcIcYAaEcEaOaRINHIEUHjSIEUNG
    a-PANSIOShSIOSmIbOa-IbYAaEfUa-IbYEaOnSINGLE_DOT_TONE_MARKxZHOU_NUMERAL_EIGHTfFIVEdOUReNINEeONE
    dSEVENeIXdTENcHIRTYeREEeWENTYeOrIFI_ROHINGYA_DIGIT_EIGHTfFIVEdOUReNINEeONEdSEVENeIXdTHREEeWO
    dZEROkLETTER_AbBAcCAcDAbDAdFAcGAcHAcJAcKAbHAcINNA_WAcYAiLAcMAcNAbGAcYAdPAcRAbRAdSAbHAdTAbTAdVA
    cWAcYAcZAjMARK_NA_KHONNAjSAKINkSIGN_HARBAHAYiTAHALAeNAcSSIkVOWEL_AbEbIbObUuUNOO_LETTER_AbBAcDA
    cGAcHAcIbKAcLAcMAcNAbGAdPAcRAcSAcTAcUbWAcYAjSIGN_PAMUDPODnVOWEL_SIGN_IbU
    sPPY_PERSON_RAISING_ONE_HANDzcRD_DISKhTCHING_CHICKlRAN_LETTER_ALEPHeYNdBETHeDALETH-RESHlGIMEL
    fHEaTHeKAPHeLAMEDHgMEMdNUNdPEcQOPHeSADHEdMEKHfHINeTAWcETHeWAWdYODHeZAYNlNUMBER_FIVEeONE
    a_HUNDREDlTENcWENTYtEADPHONEfSTONEa_GRAVEYARD_SYMBOLxR-NO-EVIL_MONKEYpT_DECORATIONkHANDS
    fWITH_ARROWfRIBBONgTIP_ON_THE_LEFTxVY_AMPERSAND_ORNAMENTrRROW_SHAFT_WIDTH_ONEa_HALFeTHIRD
    jTWO_THIRDSzcSTERISKiBALLOT_XhLACK_CURVED_DOWNWARDS_AND_RIGHTWARDS_ARROW
    zfUPWARDS_AND_RIGHTWARDS_ARROWzkHEARTg-FEATHERED_NORTH_EAST_ARROWqRIGHTWARDS_ARROW
    qSOUTH_EAST_ARROWzhCHECK_MARKhVRON_SNOWFLAKEqIRCLEa_WITH_CIRCLE_INSIDE
    nSTROKE_AND_TWO_DOTS_ABOVEzgD_SALTIREoONCAVE-POINTED_BLACK_RIGHTWARDS_ARROW
    znDASHED_TRIANGLE-HEADED_RIGHTWARDS_ARROWznIVISION_SIGNmOLLAR_SIGN
    jUBLE_COMMA_QUOTATION_MARK_ORNAMENTzeTURNED_COMMA_QUOTATION_MARK_ORNAMENT
    zqWNWARDS_ARROW_WITH_EQUILATERAL_ARROWHEADvLARGE_EQUILATERAL_ARROWHEAD
    zxEIGHT_POINTED_BLACK_STARkPINWHEEL_STARnRECTILINEAR_BLACK_STARzfSPOKED_ASTERISK
    pTEARDROP-SPOKED_PROPELLER_ASTERISKzoQUALS_SIGNkXCLAMATION_MARK_ORNAMENTiSYMBOL
    xFIVE_POINTED_BLACK_STARsSPOKED_ASTERISKtOUR_BALLOON-SPOKED_ASTERISKzdGREEK_CROSS
    lHEART_EXCLAMATION_MARK_ORNAMENTzfORIZONTAL_FILLpINTERROBANG_ORNAMENTuLARGE_CIRCLEkTIN_CROSS
    kEFT-POINTING_ANGLE_BRACKET_ORNAMENTqQUOTATION_MARK_ORNAMENT
    zoWARDS_ARROW_WITH_EQUILATERAL_ARROWHEADvLARGE_EQUILATERAL_ARROWHEADzwIGATURE_OPEN_ET_ORNAMENT
    yOW_DOUBLE_COMMA_QUOTATION_MARK_ORNAMENTzlSINGLE_COMMA_QUOTATION_MARK_ORNAMENT
    zmER_RIGHT-SHADOWED_WHITE_RIGHTWARDS_ARROWzsMINUS_SIGNjULTIPLICATION_XqNORTH_EAST_ARROW
    fPOINTING_BUDdVINE_LEAFxWEST_POINTING_BUDdVINE_LEAFzeOPEN_CENTRE_CROSSqUTLINED_BLACK_STAR
    sVAL_WITH_OVAL_INSIDEvPLUS_SIGNjRIGHT-POINTING_ANGLE_BRACKET_ORNAMENTqQUOTATION_MARK_ORNAMENT
    zoWARDS_ARROWa_WITH_EQUILATERAL_ARROWHEADvLARGE_EQUILATERAL_ARROWHEAD
    zxOUND-TIPPED_RIGHTWARDS_ARROWzeSALTIREfNS-SERIF_INTERROBANG_ORNAMENT
    zfCRIPT_LIGATURE_ET_ORNAMENTzbINGLE_COMMA_QUOTATION_MARK_ORNAMENT
    zeTURNED_COMMA_QUOTATION_MARK_ORNAMENTzqX_POINTED_BLACK_STARsSPOKED_ASTERISKsOUTH_EAST_ARROW
    fPOINTING_BUDdVINE_LEAFxWEST_POINTING_BUDdVINE_LEAFzdPARKLEhTEARDROP-SHANKED_RIGHTWARDS_ARROW
    xPOKED_ASTERISKiPINWHEEL_ASTERISKzhRIANGLE-HEADED_RIGHTWARDS_ARROWzgWELVE_POINTED_BLACK_STAR
    kPINWHEEL_STARzdUPPER_RIGHT-SHADOWED_WHITE_RIGHTWARDS_ARROW
    zqWARDS_ARROW_WITH_EQUILATERAL_ARROWHEADvLARGE_EQUILATERAL_ARROWHEADzvVERTICAL_BAR
    mWEDGE-TAILED_RIGHTWARDS_ARROWzdHITE_CIRCLEgDOWN-POINTING_TRIANGLEwSQUARE
    lIDE-HEADED_RIGHTWARDS_ARROWzhBREW_ACCENT_ATNAH_HAFUKHmDARGAeEHIeETNAHTAhGERESHa_MUQDAMkSHAYIM
    jILUYeMAHAPAKHhERKHAa_KEFULAmUNAHfOLEdPASHTAeZERfQADMAdRNEY_PARAlREVIAfSEGOLeHALSHELET
    kTELISHA_GEDOLAgQETANAmVIReIPEHAgYERAH_BEN_YOMOmTIVfZAQEF_GADOLfQATANjRQAeINORmLETTER_ALEF
    a_WITH_MAPIQfPATAHfQAMATSoTERNATIVE_AYINePLUS_SIGNuYINeBETa_WITH_DAGESHgRAFEnDALETa_WITH_DAGESH
    rFINAL_KAFa_WITH_DAGESHpMEMdNUNdPEa_WITH_DAGESHoTSADIlGIMELa_WITH_DAGESHrHEa_WITH_MAPIQlTdKAF
    a_WITH_DAGESHgRAFEnLAMEDa_WITH_DAGESHrMEMa_WITH_DAGESHpNUNa_WITH_DAGESHpPEa_WITH_DAGESHgRAFE
    mQOFa_WITH_DAGESHpRESHa_WITH_DAGESHqSAMEKHa_WITH_DAGESHrHINa_WITH_DAGESHa_AND_SHIN_DOThIN_DOT
    sSHIN_DOThIN_DOTrTAVa_WITH_DAGESHoETa_WITH_DAGESHoSADIa_WITH_DAGESHrVAVa_WITH_DAGESHgHOLAM
    oWIDE_ALEFeDALETfFINAL_MEMjHEcKAFdLAMEDfRESHeTAViYODa_WITH_DAGESHgHIRIQoZAYINa_WITH_DAGESH
    xIGATURE_ALEF_LAMEDkYIDDISH_DOUBLE_VAVdYODkVAV_YODhYOD_YOD_PATAHzfMARK_LOWER_DOTjMASORA_CIRCLE
    nUPPER_DOToPOINT_DAGESH_OR_MAPIQpHATAF_PATAHfQAMATSgSEGOLkIRIQeOLAMa_HASER_FOR_VAV
    tJUDEO-SPANISH_VARIKAuMETEGfPATAHfQAMATSa_QATANlUBUTSgRAFEeSEGOLeHEVAdIN_DOThIN_DOThTSERE
    kUNCTUATION_GERESHdSHAYIMjMAQAFfNUN_HAFUKHAlPASEQfSOF_PASUQvYOD_TRIANGLErDGEHOGgLICOPTER
    hLSCHREIBER_PAUSE_SYMBOLxM_SYMBOLhET_WITH_WHITE_CROSSvNTAIGANA_LETTER_A-1b2b3bWOeE-1b2b3b4b5b6
    dHA-1a0b1c2b3b4b5b6b7b8b9dE-1b2b3b4b5b6b7dI-1b2b3b4b5b6b7dO-1b2b3b4b5b6b7b8dU-1b2b3eI-1b2b3b4
    dKA-1a0b1c2b3b4b5b6b7b8b9bKEeE-1b2b3b4b5b6dI-1b2b3b4b5b6b7b8dO-1b2b3bKIeU-1b2b3b4b5b6b7eMA-1b2
    b3b4b5b6b7dE-1b2bMAeI-1b2b3b4b5b6b7dO-1b2b3b4b5b6dU-1b2b3b4eN-MU-MO-1b2iA-1b2b3b4b5b6b7b8b9dE-1
    b2b3b4b5b6bKOeI-1b2b3b4b5b6b7bTEeO-1b2b3b4b5dU-1b2b3eO-1b2b3dRA-1b2b3b4dE-1b2b3b4dI-1b2b3b4b5b6
    b7dO-1b2b3b4b5b6dU-1b2b3b4b5b6eSA-1b2b3b4b5b6b7b8dE-1b2b3b4b5dI-1b2b3b4b5b6dO-1b2b3b4b5b6b7dU-1
    b2b3b4b5b6b7b8eTA-1b2b3b4dE-1b2b3b4b5b6b7b8b9dI-1b2b3b4b5b6b7dO-1b2b3b4b5b6bRAeU-1b2b3b4bTOfU-1
    b2b3b4b5dWA-1b2b3b4b5dE-1b2b3b4dI-1b2b3b4b5dO-1b2b3b4b5b6b7eYA-1b2b3b4b5bYOeO-1b2b3b4b5b6dU-1b2
    b3b4uRBbMITIAN_CONJUGATE_MATRIXyXAGRAM_FOR_ABUNDANCEiFTER_COMPLETIONpPPROACHiBEFORE_COMPLETION
    qITING_THROUGHnREAKTHROUGHmCOMING_TO_MEETmNFLICTfTEMPLATIONnDARKENING_OF_THE_LIGHTvECREASE
    gLIVERANCEjVELOPMENTkIFFICULTY_AT_THE_BEGINNINGzSPERSIONjURATIONiENTHUSIASMkFELLOWSHIPjOLLOWING
    jGATHERING_TOGETHERrRACEdEAT_POSSESSIONiWEReREPONDERANCEnTAMINGmHOLDING_TOGETHERqINCREASE
    gFLUENCEhNER_TRUTHiOCENCEjLIMITATIONkMODESTYfUTH_CORNERSnOBSTRUCTIONkPPOSITIONhRESSIONkPEACE
    eROGRESShUSHING_UPWARDoRETREATeURNeVOLUTIONkSMALL_PREPONDERANCEnTAMINGlPLITTING_APARToTANDSTILL
    kTHE_ABYSMAL_WATERmRMYcOUSING_THUNDERqCAULDRONhLINGING_FIREmREATIVE_HEAVENpFAMILYgGENTLE_WIND
    lJOYOUS_LAKElKEEPING_STILL_MOUNTAINwMARRYING_MAIDENpRECEPTIVE_EARTHpWANDERERhELLhREADING
    iWAITINGgORK_ON_THE_DECAYEDtYOUTHFUL_FOLLYzbIBISCUSgGH_BRIGHTNESS_SYMBOLrOCTET_PRESET
    mVOLTAGE_SIGNn-HEELED_SHOElSPEED_TRAINa_WITH_BULLET_NOSEzgKING_BOOTjNDU_TEMPLEkPPOPOTAMUS
    kRAGANA_DIGRAPH_YORImITERATION_MARKoLETTER_AaRCHAIC_WUcYEkBAbEbIbObUcDAbEbIbObUcEbGAbEbIbObUcHA
    bEbIbObUcIbKAbEbIbObUcMAbEbIbObUcNaAbEbIbObUcObPAbEbIbObUcRAbEbIbObUcSAbEbIbMALL_AbEbIbKAbEcO
    bTUcUbWAbEbIbOcYAbObUhObUcTAbEbIbObUcUbVUcWAbEbIbOcYAbObUcZAbEbIbObUjVOICED_ITERATION_MARK
    zdSTORIC_SITEmOCHOdLEbLOW_QUILT_SQUARE_ORNAMENTa_IN_BLACK_SQUAREzrMOTHETICiNEY_POTeBEEgOKcP
    bRIZONTAL_BARcLACK_HEXAGONhOCTAGONnELLIPSISiLINE_EXTENSIONoMALE_WITH_STROKE_SIGN
    vONE_EIGHTH_BLOCK-1358e2b3b4b5b6b7sSCAN_LINE-1b3b7b9lTAB_KEYeULATIONa_SETdWITH_JUSTIFICATION
    zdRAFFIC_LIGHTvSEa_FACEeRACINGkSPITALgT_BEVERAGEiDOGdPEPPERgSPRINGSiELdURGLASS
    a_WITH_FLOWING_SANDySEa_BUILDINGaSjWITH_GARDENqRYVNIA_SIGNlTaJbScUGGING_FACE
    kNDRED_POINTS_SYMBOLtSHED_FACEjTcYGIEAePHENa_BULLETgWITH_DIAERESISp-MINUSgATION_POINToODIASTOLE
    kSTERESIS_SYMBOLrI_LOVE_YOU_HAND_SIGNtCE_CREAMeUBEeHOCKEY_STICK_AND_PUCKvSKATEiDENTICAL_TO
    a_AND_SLANTED_PARALLELxWITH_DOT_ABOVEsFICATION_CARDqOGRAPHIC_ANNOTATION_BOTTOM_MARKlEARTH_MARK
    kFIRST_MARKjOUR_MARKfTH_MARKlHEAVEN_MARKlLINKING_MARKmMAN_MARKhIDDLE_MARKlONE_MARKiREVERSE_MARK
    mSECOND_MARKlTHIRD_MARKiREE_MARKjOP_MARKhWO_MARKtCLOSING_MARKlOMMAfDEPARTING_TONE_MARK
    rSCRIPTION_CHARACTER_ABOVE_TO_BELOWfMIDDLE_AND_BELOWzFULL_SURROUNDnLEFT_TO_MIDDLE_AND_RIGHT
    qRIGHTnOVERLAIDiSURROUND_FROM_ABOVEfBELOWfLEFTdOWER_LEFTkUPPER_LEFTeRIGHTzwENTERING_TONE_MARK
    sFULL_STOPjHALF_FILL_SPACEpITERATION_MARKoLEVEL_TONE_MARKpNUMBER_ZEROlRISING_TONE_MARKqSPACE
    fTALLY_MARK_FIVEdOUReONEdTHREEeWOnELEGRAPH_LINE_FEED_SEPARATOR_SYMBOLzbSYMBOL_FOR_APRILeUGUST
    gDAY_EIGHTaEENhLEVENgFIFTEENfVEdOURaTEENiNINEaTEENiONEdSEVENaTEENiIXaTEENhTENcHIRTEENdYa-ONE
    iREEeWELVEdNTYa-EIGHTfFIVEdOUReNINEeONEdSEVENeIXdTHREEeWOiOgECEMBERiFEBRUARYiHOUR_EIGHTaEEN
    hLEVENgFIFTEENfVEdOURaTEENiNINEaTEENiONEdSEVENaTEENiIXaTEENhTENcHIRTEENgREEeWELVEdNTYa-FOUReONE
    dTHREEeWOiOdZEROjJANUARYgULYcNEeMARCHdYdNOVEMBERiOCTOBERhSEPTEMBERzfVARIATION_INDICATOR
    zfMAGE_OFa_OR_APPROXIMATELY_EQUAL_TOzhPaERIAL_ARAMAIC_LETTER_ALEPHeYINeBETHeDALETHgGIMELfHEaTH
    eKAPHeLAMEDHgMEMdNUNdPEcQOPHeRESHeSADHEdMEKHfHINeTAWcETHeWAWdYODHeZAYINmNUMBER_ONEa_HUNDRED
    hTHOUSANDmTENa_THOUSANDlHREEeWENTYeOkSECTION_SIGNzdNBOX_TRAYiCOMING_ENVELOPEmPLETE_INFINITY
    qREASE_FONT_SIZE_SYMBOLrS_AShMENThDaEXa_POINTING_AT_THE_VIEWERzIAN_RUPEE_SIGN
    nC_SIYAQ_ALTERNATE_LAKH_MARKtFRACTION_ONE_HALFeQUARTERlTHREE_QUARTERSxLAKH_MARK
    jNUMBER_ALTERNATE_ONEdTEN_THOUSANDlWOnEIGHTa_HUNDREDhTHOUSANDjYa_THOUSANDpFIFTYa_THOUSANDmVE
    a_HUNDREDhTHOUSANDmORTYa_THOUSANDmURa_HUNDREDhTHOUSANDnKARORaANhLAKHaANgNINEa_HUNDREDhTHOUSAND
    jTYa_THOUSANDpONEa_HUNDREDhTHOUSANDmPREFIXED_EIGHTfFIVEdOUReNINEeONEdSEVENeIXdTHREEeWOmSEVEN
    a_HUNDREDhTHOUSANDjTYa_THOUSANDpIXa_HUNDREDhTHOUSANDjTYa_THOUSANDoTENa_THOUSANDlHIRTYa_THOUSAND
    nREEa_HUNDREDhTHOUSANDnWENTYa_THOUSANDnOa_HUNDREDhTHOUSANDtPLACEHOLDERlRUPEE_MARKuFINITY
    a_NEGATED_WITH_VERTICAL_BARzgORMATION_DESK_PERSONlSEPARATOR_FOUReONEdTHREEeWOmOURCE
    qHIBIT_ARABIC_FORM_SHAPINGtSYMMETRIC_SWAPPINGyPUT_SYMBOL_FOR_LATIN_CAPITAL_LETTERSpLETTERS
    hSMALL_LETTERStNUMBERShSYMBOLSwSCRIPTIONAL_PAHLAVI_LETTER_ALEPHfBETHeDALETHgGIMELfHEaTHeKAPH
    eLAMEDHgMEM-QOPHiNUNdPEcSADHEdMEKHfHINeTAWcETHeWAW-AYIN-RESHnYODHeZAYINmNUMBER_FOUReONE
    a_HUNDREDhTHOUSANDmTENcHREEeWENTYeOqRTHIAN_LETTER_ALEPHeYINeBETHeDALETHgGIMELfHEaTHeKAPHeLAMEDH
    gMEMdNUNdPEcQOPHeRESHeSADHEdMEKHfHINeTAWcETHeWAWdYODHeZAYINmNUMBER_FOUReONEa_HUNDREDhTHOUSAND
    mTENcHREEeWENTYeOzfERTION_SYMBOLoTEGRALa_AROUND_A_POINT_OPERATORwVERAGE_WITH_SLASHsEXTENSION
    jWITH_DOUBLE_STROKEnINTERSECTIONmLEFTWARDS_ARROW_WITH_HOOKzOVERBARhTIMES_SIGNkUNDERBARgION
    pRCALATEgIOR_PRODUCTlLINEAR_ANNOTATION_ANCHORgSEPARATORjTERMINATORzcOCKED_FEMALE_AND_MALE_SIGN
    zcROBANGgSECTIONa_ABOVE_BAR_ABOVE_UNIONpUNIONlBESIDE_AND_JOINED_WITH_INTERSECTIONzkWITH_DOT
    dLOGICAL_ANDlOVERBARxVERSE_BULLETgCHECK_MARKfER_BOARD_FILLsDOWNWARDS_ARROW_WITH_TIP_LEFTWARDS
    zjMEDIUM_SHADEmWHITE_CIRCLEpTED_EXCLAMATION_MARKqINTERROBANGlLAZY_SfOW_KAVYKA
    a_WITH_KAVYKA_ABOVEzdOHM_SIGNiPENTAGRAMjQUESTION_MARKnUNDERTIEoISIBLE_PLUSeSEPARATORjTIMES
    oZAKAYA_LANTERNpJACK-O-LANTERNmPANESE_BANK_SYMBOLlCASTLEgDOLLSfGOBLIN
    gINDUSTRIAL_STANDARD_SYMBOLzbOGREePOST_OFFICElSYMBOL_FOR_BEGINNERzbR
    bVANESE_CONSONANT_SIGN_CAKRAfKERETfPENGKALwDIGIT_EIGHTfFIVEdOUReNINEeONEdSEVENeIXdTHREEeWOdZERO
    kLEFT_RERENGGANmTTER_AaIcBAa_MURDAiCAa_MURDAiDAa_MAHAPRANAlDAa_MAHAPRANAnEbGAa_MURDAiHAcIa_KAWI
    fIcJAa_MAHAPRANAmKAa_MURDAfSASAKiLAcMAcNAa_MURDAhGAa_LELETa_RASWADIqYAa_MURDAjObPAa_CEREKfMURDA
    iRAa_AGUNGiSAa_MAHAPRANAiURDAiTAa_MURDAhTAa_MAHAPRANAnUbWAcYAjPADA_ADEGa_ADEGiNDAPfISEN-ISEN
    jLINGSAfUHURdNGSIgMADYAfPANGKATgISELEHhTIRTA_TUMETESnWINDUiNGKONdRANGKEPlRIGHT_RERENGGAN
    pSIGN_CECAKa_TELUkLAYARfPANYANGGAjWIGNYANmTURNED_PADA_PISELEHtVOWEL_SIGN_DIRGA_MUREkPEPETfSUKU
    a_MENDUTlTALINGeRUNGfOLONGgWULUa_MELIKzeEANSeIGSAW_PUZZLE_PIECEsOINcYSTICKhUGGLINGgNOcPITER
    hKAABAdITHI_ABBREVIATION_SIGNrDANDAeOUBLE_DANDAfSECTION_MARKtENUMERATION_SIGNqLETTER_AaAbIbUcBA
    bHAdCAbHAdDAbDAbDHAdHAdHAdEbGAbHAdHAcIaIcJAbHAdKAbHAdLAcMAcNAbGAcNAcYAdObPAbHAdRAbHAdSAbHAcSA
    dTAbHAcTAbHAeUaUcVAcYAjNUMBER_SIGNa_ABOVErSECTION_MARKlIGN_ANUSVARAiCANDRABINDUlNUKTAfVIRAMA
    eSARGAmVOWEL_SIGN_AAbIbUcEbIaIcObUaUcVOCALIC_RzNGAROOeXI_RADICAL_AGAINeNDcRRIVEdOWeXEdBADGER
    eMBOOfEANdIGbRDcTTERfLACKdOODdUEdOATcDYcLT_OF_CLOTHlNEcWcRANCHeISTLEfUSHfCARTcULDRONgVEdHILD
    eITYdLANbWcIFFdOTHESgOLORdMPAREfRPSEeVERdWdDEATHdERdIPPEReSHbTINGUISHjVINATIONjO_NOTeGbORcT
    aTED_CLIFFfTENTjUBLE_XgWN_BOXhRAGONeUMcYdEARaTHdTcIGHTeMBROIDERYjNCLOSUREhTEReVENaINGgYEdFACE
    cNGcTHERfEATHERgIELDdGHTdREcSHdLUTEdYcOOTdRAGRANTgOGdURdGATEdHOSTeOa_SLOWLYhLDdRAINcSSfHAIR
    cLBERDeF_TREE_TRUNKnNDdEADbRTdMPdIDING_ENCLOSUREpOOKcRNbSEfICEcNCHcSECTgJADEcRdKNIFEfLACKcME
    dEAFbTHERfEKcGSdIDbFEcNEdONGa_STRIDElMANcEATcLONeILLETeNISTERhOONcRNINGeTAReUNDbTAINfTHfNETcOSE
    cTdOLDcNEaSELFgPEN_BOXgPOSEgPIGcLOWdOWEReRIVATEfOFOUNDiRAINcPbTcEDcICEcGHT_OPEN_BOXmVEReOOFdUN
    dSACRIFICIAL_WINEoLTcYcCHOLARfRIPTfEALcCONDeEbLFdHEEPcLLdOOTcRT_TAILED_BIRDkHREADlICKNESSgLK
    dKINdLASHcVEdICEeMALLeNOUTeOUNDePEARcECHeIRITeOONdROUTfQUAREfTANDdEAMcPcONEcPaPINGhUNcWEET
    fTABLEdLLcNNED_LEATHERnENcIGERdLEdONGUEeOTHeRACKdEEcIPODfURBANdTLEfWOa_HANDSjUSEdVALLEYfILLAGE
    hWALKa_ENCLOSUREmTEReEAPONeSTdHEATdITEeINDbEdOMANdRKdRAPcONGfYELLOWsNADA_AI_LENGTH_MARK
    oDIGIT_EIGHTfFIVEdOUReNINEeONEdSEVENeIXdTHREEeWOdZEROkLENGTH_MARKjTTER_AaAbIbUcBAbHAdCAbHAdDA
    bDAbHAdHAdEaEcFAcGAbHAdHAcIaIcJAbHAdKAbHAdLAbLAbLAeMAcNAaKAARA_POLLUmGAcNAcYAdOaOcPAbHAdRAbRA
    dSAbHAcSAdTAbHAcTAbHAeUaUcVAbOCALIC_LaLcRaRkYAjSIGN_ANUSVARAhVAGRAHAiCANDRABINDUlJIHVAMULIYA
    lNUKTAfSIDDHAMgPACING_CANDRABINDUtUPADHMANIYAlVIRAMAeSARGAmVOWEL_SIGN_AAbIbUcEaEcIaIcOaOcUaU
    cVOCALIC_LaLcRaRzcTAKANA_DIGRAPH_KOTOmITERATION_MARKoLETTER_AaRCHAIC_EbWUcYEbIkBAbEbIbObUcDAbE
    bIbObUcEbGAbEbIbObUcHAbEbIbObUcIbKAbEbIbObUcMAbEbIaNNAN_NASALIZED_TONE-1b2b3b4b5b7b8qTONE-2b3b4
    b5b7b8mObUcNaAbEbIbObUcObPAbEbIbObUcRAbEbIbObUcSAbEbIbMALL_AbEbHAbEbIbObUcIbKAbEbUcMUcNaUcObRA
    bEbIbObUcSIbUcTObUcUbWAbEbIbOcYAbObUhObUcTAbEbIbObUcUbVAbEbIbObUcWAbEbIbOcYAbObUcZAbEbIbObU
    jMIDDLE_DOTkVOICED_ITERATION_MARKw-HIRAGANA_DOUBLE_HYPHENnPROLONGED_SOUND_MARK
    uSEMI-VOICED_SOUND_MARKwVOICED_SOUND_MARKziYAH_LI_DIGIT_EIGHTfFIVEdOUReNINEeONEdSEVENeIXdTHREE
    eWOdZEROkLETTER_AbBAcCAcDAcGAcHAbTAdIbKAbHAdLAcMAcNAbGAcYAdOEbOcPAbHAdRAcSAbHAdTAbHAdVAcWAcYA
    cZAjSIGN_CWIdSHYAjTONE_CALYAa_PLOPHUmPLOPHUlVOWEL_EaEcObUaEqELVIN_SIGNjYaBOARDa_AND_MOUSE
    pCAP_TENjHAROSHTHI_DIGIT_FOUReONEdTHREEeWOjFRACTION_ONE_HALFrLETTER_AbBAbHAdCAbHAdDAbDAbHAdHA
    dGAbHAdHAcJAcKAbHAcKAdLAcMAcNAbNAcYAdPAbHAdRAcSAbHAcSAdTAbHAcTAbHAcTAbHAfVAbHAdYAcZA
    jNUMBER_ONE_HUNDREDhTHOUSANDmTENcWENTYnPUNCTUATION_CIRCLEfRESCENT_BARmDANDAeOTbUBLE_DANDAmLINES
    eOTUSfMANGALAMiSMALL_CIRCLEySIGN_ANUSVARAiBAR_ABOVEjCAUDAfDOT_BELOWhUBLE_RING_BELOWrVISARGA
    mVIRAMAfOWEL_LENGTH_MARKlSIGN_EbIbObUbVOCALIC_RzeITAN_SMALL_SCRIPT_CHARACTER-18B00b1b2b3b4b5b6
    b7b8b9bAbBbCbDbEbFc10b1b2b3b4b5b6b7b8b9bAbBbCbDbEbFc20b1b2b3b4b5b6b7b8b9bAbBbCbDbEbFc30b1b2b3b4
    b5b6b7b8b9bAbBbCbDbEbFc40b1b2b3b4b5b6b7b8b9bAbBbCbDbEbFc50b1b2b3b4b5b6b7b8b9bAbBbCbDbEbFc60b1b2
    b3b4b5b6b7b8b9bAbBbCbDbEbFc70b1b2b3b4b5b6b7b8b9bAbBbCbDbEbFc80b1b2b3b4b5b6b7b8b9bAbBbCbDbEbFc90
    b1b2b3b4b5b6b7b8b9bAbBbCbDbEbFcA0b1b2b3b4b5b6b7b8b9bAbBbCbDbEbFcB0b1b2b3b4b5b6b7b8b9bAbBbCbDbE
    bFcC0b1b2b3b4b5b6b7b8b9bAbBbCbDbEbFcD0b1b2b3b4b5b6b7b8b9bAbBbCbDbEbFcE0b1b2b3b4b5b6b7b8b9bAbBbC
    bDbEbFcF0b1b2b3b4b5b6b7b8b9bAbBbCbDbEbFdC00b1b2b3b4b5b6b7b8b9bAbBbCbDbEbFc10b1b2b3b4b5b6b7b8b9
    bAbBbCbDbEbFc20b1b2b3b4b5b6b7b8b9bAbBbCbDbEbFc30b1b2b3b4b5b6b7b8b9bAbBbCbDbEbFc40b1b2b3b4b5b6b7
    b8b9bAbBbCbDbEbFc50b1b2b3b4b5b6b7b8b9bAbBbCbDbEbFc60b1b2b3b4b5b6b7b8b9bAbBbCbDbEbFc70b1b2b3b4b5
    b6b7b8b9bAbBbCbDbEbFc80b1b2b3b4b5b6b7b8b9bAbBbCbDbEbFc90b1b2b3b4b5b6b7b8b9bAbBbCbDbEbFcA0b1b2b3
    b4b5b6b7b8b9bAbBbCbDbEbFcB0b1b2b3b4b5b6b7b8b9bAbBbCbDbEbFcC0b1b2b3b4b5b6b7b8b9bAbBbCbDbEbFcD0b1
    b2b3b4b5pFILLERyMER_CURRENCY_SYMBOL_RIELuDIGIT_EIGHTfFIVEdOUReNINEeONEdSEVENeIXdTHREEeWOdZERO
    kINDEPENDENT_VOWEL_LYaYdQAAbIbQbUcEbIaIcOO_TYPE_ONEdTWOlUaKbUaVeRYaYvLETTER_BAcCAbHAbOcOcDAbO
    cHAcKAbHAbOcOcLAbOcMOcNGOcNOcObYOdPHAbOcOcQAcROcSAbHAcSOdTAbHAbOcObTHAbOeVOcYOjSIGN_AHSDA
    eTTHACANhVAKRAHASANYAnBANTOCeRIYOOSANiTHAMASATjEYYALgCAMNUC_PII_KUUHoOENGfKAKABATgHANdOOMUUT
    hLEK_TOOhMUUSIKATOANlNIKAHIThPHNAEK_MUANlREAHMUKgOBATfSAMYOK_SANNYAnTOANDAKHIATkRIISAPhVIRIAM
    gYUUKALEAPINTUrYMBOL_BEI_KOETeROCgUON_KOETeROCiDAP_KOETeROCe-BEI_KOETeROCgUON_KOETeROC
    iMUOY_KOETeROCiPII_KOETeROCgRAM_KOETeROCmLEK_ATTAK_BEIcUONeMUOYePIIcRAMa-BEIcUONeMUOYePIIiSON
    nMUOY_KOETeROCiPATHAMASATjII_KOETeROCgRAM_KOETeROCe-BEI_KOETeROCgUON_KOETeROCiMUOY_KOETeROC
    iPII_KOETeROCmTUTEYASATqVOWEL_INHERENT_AAbQlSIGN_AAbEbIbUcEbIaEbIcOEbOcUaAbUcYaAbY
    rOJKI_ABBREVIATION_SIGNrDANDAeOUBLE_DANDAfSECTION_MARKtLETTER_AaAbIbUcBAbBAcHAdCAbHAdDAbDAbDA
    cHAdHAdEbGAbGAcHAdHAcIbJAbJAdKAbHAdLAbLAdMAcNAbGAcNAcYAdObPAbHAdRAcSAcTAbHAcTAbHAeUbVAcYA
    jSECTION_MARKlIGN_ANUSVARAiNUKTAfSHADDAfUKUNfVIRAMAlVOWEL_SIGN_AAbIbUcEbIaIcObUmWORD_SEPARATOR
    tUDAWADI_DIGIT_EIGHTfFIVEdOUReNINEeONEdSEVENeIXdTHREEeWOdZEROkLETTER_AaAbIbUcBAbBAcHAdCAbHAdDA
    bDAbDAcHAdHAdEbGAbGAcHAdHAcIaIcJAbHAcJAdKAbHAdLAcMAcNAbGAcNAcYAdObPAbHAdRAbRAdSAbHAdTAbHAcTAbHA
    eUaUcVAcYAjSIGN_ANUSVARAiNUKTAfVIRAMAlVOWEL_SIGN_AAbIbUcEbIaIcObUaUwIMONOeP_SIGNgSSa_MARK
    fING_CAT_FACE_WITH_CLOSED_EYESzFACEa_WITH_CLOSED_EYESlSMILING_EYESzdTEcWIFRUITiNEELING_PERSON
    nOTdOALAdREAN_STANDARD_SYMBOLvRONOSgL_B_BAR_SYMBOLnAB_COATfELdCROSSE_STICK_AND_BALLvDDER
    dY_BEETLEjNGUAGE_TAGkO_CANCELLATION_MARKrDIGIT_EIGHTfFIVEdOUReNINEeONEdSEVENeIXdTHREEeWOdZERO
    kELLIPSISiHO_MOcNOfKO_LAfLETTER_BOcCOcDOcFO_FAYcONdSUNGeTAMgHO_SUNGeTAMgKHMU_GOcNYOgO_SUNGeTAM
    gOcLOa_LINGdOOThMOcNGOcObYOdObPALI_BHAdCHAdDDAbHAdHAdGHAdJHAdLLAdNNAcYAdTTAbHAiHO_SUNGeTAMgOcRO
    cSANSKRIT_SHAcSAlO_SUNGeTAMgTHO_SUNGeTAMgOcWOcYOjNIGGAHITAjSEMIVOWEL_SIGN_LOcNYO
    rIGN_PALI_VIRAMAqTONE_MAI_CATAWAgEKcTHOcIlVOWEL_SIGN_AaAbIbMbYcEaIcIaIcMAI_KANcONhObUaUcYaY
    pRGE_BLUE_CIRCLEgDIAMONDhSQUAREkROWN_CIRCLEgSQUAREmCIRCLEgDOWN_TACKjGREEN_CIRCLEgSQUARE
    mLEFT_TRIANGLE_OPERATORwONE_DOT_OVER_TWO_DOTS_PUNCTUATIONzeRING_OVER_TWO_RINGS_PUNCTUATION
    zjRANGE_CIRCLEgDIAMONDhSQUAREnPURPLE_CIRCLEgSQUAREnRED_CIRCLEgSQUARE
    kTRIPLE_VERTICAL_BAR_OPERATORzcWO_DOTS_OVER_ONE_DOT_PUNCTUATION
    zeRINGS_OVER_ONE_RING_PUNCTUATIONzkUP_TACKhYELLOW_CIRCLEgSQUAREoR_THANa_OR_EQUAL_TOuI_SIGN
    hST_QUARTER_MOONa_SYMBOLgWITH_FACEzTIN_CAPITAL_LETTER_Aa_WITH_ACUTEfBREVEa_AND_ACUTEfDOT_BELOW
    jGRAVEfHOOK_ABOVEkTILDEpCARONeIRCUMFLEXa_AND_ACUTEfDOT_BELOWjGRAVEfHOOK_ABOVEkTILDEuDIAERESIS
    a_AND_MACRONtOT_ABOVEa_AND_MACRONqBELOWhUBLE_GRAVEmGRAVEfHOOK_ABOVEkINVERTED_BREVEoMACRON
    gOGONEKgRING_ABOVEa_AND_ACUTEpBELOWkSTROKEgTILDElAbEa_WITH_ACUTEfMACRONnFRICAN_DiLPHA
    eNGLICANA_WkObUbVa_WITH_HORIZONTAL_BARvYcBa_WITH_DOT_ABOVEfBELOWjFLOURISHiHOOKeLINE_BELOW
    kSTROKEgTOPBARmETAdROKEN_LiCa_WITH_ACUTEfBARdCARONeEDILLAa_AND_ACUTEqIRCUMFLEXkDOT_ABOVEjHOOK
    ePALATAL_HOOKmSTROKEmHIcLOSED_INSULAR_GpONcUATRILLOa_WITH_COMMAuDa_WITH_CARONeEDILLA
    gIRCUMFLEX_BELOWqDOT_ABOVEfBELOWjHOOKeLINE_BELOWkSHORT_STROKE_OVERLAYtMALL_LETTER_Za_WITH_CARON
    yTROKEgTOPBARmZa_WITH_CARONnEa_WITH_ACUTEfBREVEfCARONeEDILLAa_AND_BREVEqIRCUMFLEXa_AND_ACUTE
    fDOT_BELOWjGRAVEfHOOK_ABOVEkTILDEjBELOWqDIAERESISiOT_ABOVEfBELOWhUBLE_GRAVEmGRAVEfHOOK_ABOVE
    kINVERTED_BREVEoMACRONa_AND_ACUTEfGRAVEqOGONEKgSTROKEgTILDEa_BELOWrGYPTOLOGICAL_AINcLEFrNGcSHcT
    aHcZHa_REVERSEDiWITH_CARONoFa_WITH_DOT_ABOVEjHOOKeSTROKEnGa_WITH_ACUTEfBREVEfCARONeEDILLA
    gIRCUMFLEXkDOT_ABOVEjHOOKeMACRONgOBLIQUE_STROKEoSTROKEmAMMAeHAcLOTTAL_AbIbSTOPeUjH
    a_WITH_BREVE_BELOWlCARONeEDILLAgIRCUMFLEXkDESCENDERiIAERESISiOT_ABOVEfBELOWjHOOKeSTROKEmALF_H
    fENGdWAIRfIa_WITH_ACUTEfBREVEfCARONeIRCUMFLEXkDIAERESISa_AND_ACUTEsOT_ABOVEfBELOWhUBLE_GRAVE
    mGRAVEfHOOK_ABOVEkINVERTED_BREVEoMACRONgOGONEKgSTROKEgTILDEa_BELOWrNSULAR_DbFbGbRbSbTiOTAdScJ
    a_WITH_CIRCUMFLEXjROSSED-TAILmSTROKEnKa_WITH_ACUTEfCARONeEDILLAhDESCENDERiIAGONAL_STROKE
    oOT_BELOWjHOOKeLINE_BELOWkOBLIQUE_STROKEoSTROKEa_AND_DIAGONAL_STROKEziLa_WITH_ACUTEfBARcELT
    eCARONeEDILLAgIRCUMFLEX_BELOWqDOT_BELOWa_AND_MACRONsUBLE_BARkHIGH_STROKElLINE_BELOWkMIDDLE_DOT
    dTILDEmSMALL_LETTER_JnTROKEmJcMa_WITH_ACUTEfDOT_ABOVEfBELOWjHOOKkIDDLE_SCOTS_Si-WELSH_LLcVoN
    a_WITH_ACUTEfCARONeEDILLAgIRCUMFLEX_BELOWqDESCENDERiOT_ABOVEfBELOWjGRAVEfLEFT_HOOKiINE_BELOW
    jONG_RIGHT_LEGoOBLIQUE_STROKEoSMALL_LETTER_JoTILDElJcOa_WITH_ACUTEfBREVEfCARONeIRCUMFLEX
    a_AND_ACUTEfDOT_BELOWjGRAVEfHOOK_ABOVEkTILDEuDIAERESISa_AND_MACRONtOT_ABOVEa_AND_MACRONqBELOW
    hUBLE_ACUTEfGRAVEmGRAVEfHOOK_ABOVEiRNa_AND_ACUTEfDOT_BELOWjGRAVEfHOOK_ABOVEkTILDE
    oINVERTED_BREVEoLONG_STROKE_OVERLAYrOPeMACRONa_AND_ACUTEfGRAVEpIDDLE_TILDEmOGONEKa_AND_MACRON
    rSTROKEa_AND_ACUTEqTILDEa_AND_ACUTEfDIAERESISjMACRONwIbLD_POLISH_OlMEGAeObPEN_EbOfUcP
    a_WITH_ACUTEfDOT_ABOVEjFLOURISHiHOOKeSQUIRREL_TAILmTROKEa_THROUGH_DESCENDERzgQ
    a_WITH_DIAGONAL_STROKEpSTROKE_THROUGH_DESCENDERzgRa_ROTUNDAhWITH_ACUTEfCARONeEDILLAhDOT_ABOVE
    fBELOWa_AND_MACRONsUBLE_GRAVEmINVERTED_BREVEoLINE_BELOWkOBLIQUE_STROKEoSTROKEgTAIL
    kEVERSED_C_WITH_DOTkEbHALF_HgOPEN_EoUM_ROTUNDAlSa_WITH_ACUTEa_AND_DOT_ABOVEtCARON
    a_AND_DOT_ABOVEsEDILLAgIRCUMFLEXjOMMA_BELOWlDOT_ABOVEfBELOWa_AND_DOT_ABOVExHOOKeOBLIQUE_STROKE
    oSHORT_STROKE_OVERLAYtWASH_TAILqALTILLOhCHWAdRIPT_GhHARP_SgIGMOID_SiMALL_CAPITAL_I
    jQ_WITH_HOOK_TAILwTa_WITH_CARONeEDILLAgIRCUMFLEX_BELOWpOMMA_BELOWlDIAGONAL_STROKEoOT_ABOVE
    fBELOWjHOOKeLINE_BELOWkRETROFLEX_HOOKoSTROKEmHORNa_WITH_STROKEa_THROUGH_DESCENDERzjONE_FIVEeSIX
    dTWOhRESILLOhURNED_AaLPHAfHbINSULAR_GjKbLbMbTbVhZcUa_BARdWITH_ACUTEfBREVEfCARONeIRCUMFLEX
    a_BELOWqDIAERESISa_AND_ACUTEfCARONfGRAVEfMACRONkBELOWoOT_BELOWhUBLE_ACUTEfGRAVEmGRAVE
    fHOOK_ABOVEiRNa_AND_ACUTEfDOT_BELOWjGRAVEfHOOK_ABOVEkTILDEoINVERTED_BREVEoMACRONa_AND_DIAERESIS
    uOGONEKgRING_ABOVEkSTROKEgTILDEa_AND_ACUTEjBELOWrPSILONhVa_WITH_DIAGONAL_STROKEoOT_BELOWjHOOK
    eTILDElENDdISIGOTHIC_ZlOLAPUK_AEcOEcUEjYcWa_WITH_ACUTEfCIRCUMFLEXkDIAERESISiOT_ABOVEfBELOW
    jGRAVEfHOOKkYNNeXa_WITH_DIAERESISiOT_ABOVEqYa_WITH_ACUTEfCIRCUMFLEXkDIAERESISiOT_ABOVEfBELOW
    jGRAVEfHOOKa_ABOVEkLOOPeMACRONgSTROKEgTILDElOGHeZa_WITH_ACUTEfCARONeIRCUMFLEXkDESCENDER
    iOT_ABOVEfBELOWjHOOKeLINE_BELOWkPALATAL_HOOKmSTROKEfWASH_TAILxIGATURE_IJcOEsROSS
    fEPIGRAPHIC_LETTER_ARCHAIC_MjI_LONGAgNVERTED_MkREVERSED_FbPkSIDEWAYS_IzdLETTER_AIN
    cLVEOLAR_CLICKoBIDENTAL_PERCUSSIVErLABIAL_CLICKfPERCUSSIVEtDENTAL_CLICKmGLOTTAL_STOP
    a_WITH_STROKEyINVERTED_GLOTTAL_STOPa_WITH_CURLeSTROKEziLATERAL_CLICK
    nPHARYNGEAL_VOICED_FRICATIVEzcRETROFLEX_CLICKa_WITH_RETROFLEX_HOOKziVERSED_ESH_LOOP
    iGLOTTAL_STOP_WITH_STROKEziSINOLOGICAL_DOToMALL_CAPITAL_AaEcBaARRED_BiCbDbEaTHcZHdFbG
    a_WITH_HOOKlHbIaNVERTED_RkJbKbLa_WITH_BELTeSTROKEnMbNbOaEbPEN_OfUcPbQbRa_WITH_RIGHT_LEG
    pEVERSED_NbRjUMdSbTaURNED_EbGbKbMbRiUbVbWbYbZoTRETCHED_Ca_WITH_CURLvTWO_WITH_STROKE
    pVOICED_LARYNGEAL_SPIRANTyWYNNeYRjSMALL_CAPITAL_LETTER_I_WITH_STROKEnU_WITH_STROKEzdLETTER_A
    a_REVERSED-SCHWAoWITH_ACUTEfBREVEa_AND_ACUTEfDOT_BELOWjGRAVEfHOOK_ABOVEkTILDEpCARONeIRCUMFLEX
    a_AND_ACUTEfDOT_BELOWjGRAVEfHOOK_ABOVEkTILDEuDIAERESISa_AND_MACRONtOT_ABOVEa_AND_MACRONqBELOW
    hUBLE_GRAVEmGRAVEfHOOK_ABOVEkINVERTED_BREVEoMACRONgOGONEKgRETROFLEX_HOOKnIGHT_HALF_RING
    nNG_ABOVEa_AND_ACUTEpBELOWkSTROKEgTILDElAbEa_WITH_ACUTEfMACRONnLPHAa_WITH_RETROFLEX_HOOK
    yNGLICANA_WkObUbVa_WITH_HORIZONTAL_BARvYcBa_WITH_DOT_ABOVEfBELOWjFLOURISHiHOOKeLINE_BELOW
    kMIDDLE_TILDEmPALATAL_HOOKmSTROKEgTOPBARmARRED_ALPHAfEbOgSELINE_ESHlETAdLACKLETTER_EbO
    a_WITH_STROKEyOTTOM_HALF_OmROKEN_LiCa_WITH_ACUTEfBARdCARONeEDILLAa_AND_ACUTEqIRCUMFLEXjURL
    eDOT_ABOVEjHOOKePALATAL_HOOKmRETROFLEX_HOOKoSTROKEmHIa_WITH_LOW_LEFT_SERIFkRIGHT_RING
    wLOSED_INSULAR_GjOMEGAePEN_EgREVERSED_OPEN_EvONcUATRILLOa_WITH_COMMAuDa_WITH_CARONeEDILLA
    gIRCUMFLEX_BELOWpURLeDOT_ABOVEfBELOWjHOOKa_AND_TAILnLINE_BELOWkMIDDLE_TILDEmPALATAL_HOOK
    mSHORT_STROKE_OVERLAYtTROKEgTAILdOPBARmB_DIGRAPHjELTAdZH_DIGRAPHa_WITH_PALATAL_HOOK
    mRETROFLEX_HOOKzgOTLESS_IbJa_WITH_STROKEa_AND_HOOKzdUBLE_Ra_WITH_CROSSED-TAILtTHORNfWYNNkUMcZ
    a_DIGRAPHa_WITH_CURLeRETROFLEX_HOOKzcWITH_CARONnEa_WITH_ACUTEfBREVEfCARONeEDILLAa_AND_BREVE
    qIRCUMFLEXa_AND_ACUTEfDOT_BELOWjGRAVEfHOOK_ABOVEkTILDEjBELOWqDIAERESISiOT_ABOVEfBELOW
    hUBLE_GRAVEmFLOURISHiGRAVEfHOOK_ABOVEkINVERTED_BREVEoMACRONa_AND_ACUTEfGRAVEqNOTCHfOGONEK
    gRETROFLEX_HOOKoSTROKEgTILDEa_BELOWrGYPTOLOGICAL_AINcLEFrNGa_WITH_CROSSED-TAILmPALATAL_HOOKuSH
    a_WITH_CURLeDOUBLE_BARa_AND_CURLtPALATAL_HOOKmRETROFLEX_HOOKwTaHcZHa_REVERSEDiWITH_CARONeURL
    ePALATAL_HOOKmRETROFLEX_HOOKoTAILnFa_WITH_DOT_ABOVEjHOOKeMIDDLE_TILDEmPALATAL_HOOKmSTROKE
    mENG_DIGRAPHa_WITH_TRILLxGa_WITH_ACUTEfBREVEfCARONeEDILLAgIRCUMFLEXkDOT_ABOVEjHOOKeMACRON
    gOBLIQUE_STROKEoPALATAL_HOOKmSTROKEmAMMAeHAcLOTTAL_AbIbSTOPeUjHa_WITH_BREVE_BELOWlCARONeEDILLA
    gIRCUMFLEXkDESCENDERiIAERESISiOT_ABOVEfBELOWjHOOKeLINE_BELOWkPALATAL_HOOKmSTROKEmALF_HfENG
    a_WITH_HOOKnVcIa_WITH_ACUTEfBREVEfCARONeIRCUMFLEXkDIAERESISa_AND_ACUTEsOT_BELOWhUBLE_GRAVE
    mGRAVEfHOOK_ABOVEkINVERTED_BREVEoMACRONgOGONEKgRETROFLEX_HOOKoSTROKEa_AND_RETROFLEX_HOOKzTILDE
    a_BELOWrNSULAR_DbFbGbRbSbThVERTED_ALPHAfOEkOTAa_WITH_STROKEnIFIED_EjScJa_WITH_CARONeIRCUMFLEX
    jROSSED-TAILmSTROKEnKa_WITH_ACUTEfCARONeEDILLAhDESCENDERiIAGONAL_STROKEoOT_BELOWjHOOK
    eLINE_BELOWkOBLIQUE_STROKEoPALATAL_HOOKmSTROKEa_AND_DIAGONAL_STROKEzhRAdLa_WITH_ACUTEfBARcELT
    a_AND_PALATAL_HOOKvCARONeEDILLAgIRCUMFLEX_BELOWpURLeDOT_BELOWa_AND_MACRONsUBLE_BARdMIDDLE_TILDE
    tFISHHOOKiHIGH_STROKElINVERTED_LAZY_SpLINE_BELOWkMIDDLE_DOTdRINGeTILDEmPALATAL_HOOK
    mRETROFLEX_HOOKa_AND_BELTxSTROKEmAMBDA_WITH_STROKErENIS_FfZHa_WITH_RETROFLEX_HOOKxJbONG_S
    a_WITH_DIAGONAL_STROKEoOT_ABOVEjHIGH_STROKEwS_DIGRAPHjUMcZ_DIGRAPHkMa_WITH_ACUTEfCROSSED-TAIL
    mDOT_ABOVEfBELOWjHOOKeMIDDLE_TILDEmPALATAL_HOOKsIDDLE_SCOTS_Si-WELSH_LLcVnUMdN
    a_PRECEDED_BY_APOSTROPHEwWITH_ACUTEfCARONeEDILLAgIRCUMFLEX_BELOWpROSSED-TAILlURLeDESCENDER
    iOT_ABOVEfBELOWjGRAVEfLEFT_HOOKiINE_BELOWjONG_RIGHT_LEGoMIDDLE_TILDEmOBLIQUE_STROKE
    oPALATAL_HOOKmRETROFLEX_HOOKoTILDElJbUMdOa_WITH_ACUTEfBREVEfCARONeIRCUMFLEXa_AND_ACUTE
    fDOT_BELOWjGRAVEfHOOK_ABOVEkTILDEuDIAERESISa_AND_MACRONtOT_ABOVEa_AND_MACRONqBELOWhUBLE_ACUTE
    fGRAVEmGRAVEfHOOK_ABOVEiRNa_AND_ACUTEfDOT_BELOWjGRAVEfHOOK_ABOVEkTILDEoINVERTED_BREVE
    oLONG_STROKE_OVERLAYrOPcW_RING_INSIDEpMACRONa_AND_ACUTEfGRAVEqOGONEKa_AND_MACRONrRETROFLEX_HOOK
    oSTROKEa_AND_ACUTEqTILDEa_AND_ACUTEfDIAERESISjMACRONwIbLD_POLISH_OlMEGAeObPEN_E
    a_WITH_RETROFLEX_HOOKvOa_WITH_RETROFLEX_HOOKoSTROKEmEgUcPa_WITH_ACUTEfDOT_ABOVEjFLOURISHiHOOK
    eMIDDLE_TILDEmPALATAL_HOOKmSQUIRREL_TAILmTROKEa_THROUGH_DESCENDERzfHIdQa_WITH_DIAGONAL_STROKE
    pHOOKa_TAILjSTROKE_THROUGH_DESCENDERzfP_DIGRAPHkRa_ROTUNDAhWITH_ACUTEfCARONeEDILLAgROSSED-TAIL
    mDOT_ABOVEfBELOWa_AND_MACRONsUBLE_GRAVEmFISHHOOKa_AND_MIDDLE_TILDEmPALATAL_HOOKzINVERTED_BREVE
    oLINE_BELOWjONG_LEGiMIDDLE_TILDEmOBLIQUE_STROKEoPALATAL_HOOKmSTROKEgTAILfOUT_HANDLEpAMS_HORN
    iEVERSED_Ca_WITH_DOTkEaNGdHALF_HgKbOPEN_Ea_WITH_HOOKeRETROFLEX_HOOKzbR_WITH_FISHHOOKpSCRIPT_G
    qUMa_ROTUNDAlSa_WITH_ACUTEa_AND_DOT_ABOVEtCARONa_AND_DOT_ABOVEsEDILLAgIRCUMFLEXjOMMA_BELOWkURL
    eDOT_ABOVEfBELOWa_AND_DOT_ABOVExHOOKeMIDDLE_TILDEmOBLIQUE_STROKEoPALATAL_HOOK
    mSHORT_STROKE_OVERLAYtWASH_TAILqAKHA_YAThLTILLOhCHWAa_WITH_HOOKeRETROFLEX_HOOKxRIPT_G
    a_WITH_CROSSED-TAILtRa_WITH_RINGrHARP_SgIDEWAYS_DIAERESIZED_UnOa_WITH_STROKEmPEN_OgTURNED_MiU
    iGMOID_SiQUAT_REVERSED_ESHrTIRRUP_RjTa_WITH_CARONeEDILLAgIRCUMFLEX_BELOWpOMMA_BELOWkURL
    eDIAERESISgGONAL_STROKEoOT_ABOVEfBELOWjHOOKa_AND_RETROFLEX_HOOKxLINE_BELOWkMIDDLE_TILDE
    mPALATAL_HOOKmRETROFLEX_HOOKoSTROKEmAILLESS_PHIlC_DIGRAPH_WITH_CURLtESH_DIGRAPH
    a_WITH_PALATAL_HOOKmRETROFLEX_HOOKzgH_WITH_STRIKETHROUGHtORNa_WITH_STROKEa_THROUGH_DESCENDER
    zjONE_FIVEeSIXdTWOgP_HALF_OjRESILLOhS_DIGRAPHa_WITH_RETROFLEX_HOOKzeUMbRNED_AaEbLPHAfDELTAfEbG
    bHa_WITH_FISHHOOKa_AND_TAILyIaNSULAR_GjKbLbMa_WITH_LONG_LEGpO_OPEN-Oa_WITH_STROKEtE
    a_WITH_HORIZONTAL_STROKErSTROKEnPEN_EgRa_WITH_HOOKeLONG_LEGa_AND_RETROFLEX_HOOKzcMIDDLE_TILDE
    mPALATAL_HOOKmTAILlTa_WITH_CURLlUIcVbWbYa_WITH_BELTrZcUa_BARa_WITH_SHORT_RIGHT_LEGyWITH_ACUTE
    fBREVEfCARONeIRCUMFLEXa_BELOWqDIAERESISa_AND_ACUTEfCARONfGRAVEfMACRONkBELOWoOT_BELOWhUBLE_ACUTE
    fGRAVEmGRAVEfHOOK_ABOVEiRNa_AND_ACUTEfDOT_BELOWjGRAVEfHOOK_ABOVEkTILDEoINVERTED_BREVEoLEFT_HOOK
    jMACRONa_AND_DIAERESISuOGONEKgRETROFLEX_HOOKnING_ABOVEkSHORT_RIGHT_LEGoTROKEgTILDEa_AND_ACUTE
    jBELOWrEbIbMbObPSILONa_WITH_STROKEtVa_WITH_CURLeDIAGONAL_STROKEoOT_BELOWjHOOKePALATAL_HOOK
    mRIGHT_HOOKkTILDElENDdISIGOTHIC_ZlOLAPUK_AEcOEcUEjYcWa_WITH_ACUTEfCIRCUMFLEXkDIAERESISiOT_ABOVE
    fBELOWjGRAVEfHOOKeRING_ABOVErXa_WITH_DIAERESISiOT_ABOVEjLONG_LEFT_LEGa_AND_LOW_RIGHT_RING
    sWITH_SERIFwW_RIGHT_RINGoPALATAL_HOOKtYa_WITH_ACUTEfCIRCUMFLEXkDIAERESISiOT_ABOVEfBELOWjGRAVE
    fHOOKa_ABOVEkLOOPeMACRONgRING_ABOVEkSHORT_RIGHT_LEGoTROKEgTILDElOGHeZa_WITH_ACUTEfCARON
    eIRCUMFLEXjURLeDESCENDERiOT_ABOVEfBELOWjHOOKeLINE_BELOWkMIDDLE_TILDEmPALATAL_HOOK
    mRETROFLEX_HOOKoSTROKEfWASH_TAILxIGATURE_FFaIbLcIbLcIJcLONG_S_TiOEcSTqUBSCRIPT_SMALL_LETTER_AbE
    bHbIbJbKbLbMbNbObPbRbSaCHWAfTbUbVbXzeEAF_FLUTTERING_IN_WINDtY_GREENjDGER
    eFT_AND_LOWER_AND_RIGHT_TRIANGULAR_THREE_QUARTERS_BLOCKzqONE_EIGHTH_BLOCK
    wRIGHT_DOUBLE_TURNSTILEqTACKdRIANGULAR_HALF_BLOCK
    zcUPPER_AND_RIGHT_TRIANGULAR_THREE_QUARTERS_BLOCKzqONE_EIGHTH_BLOCKyGER_BUBBLEjLE_BRACKET
    a_WITH_DOTvRC_LESS-THAN_BRACKETtROW_WITH_CIRCLED_PLUSmSMALL_CIRCLE
    xBARB_DOWN_RIGHT_BARB_DOWN_HARPOONmUP_HARPOONzbUP_RIGHT_BARB_DOWN_HARPOONmUP_HARPOON
    zdLACK_LENTICULAR_BRACKETsTORTOISE_SHELL_BRACKETzdCEILINGgLOSED_ENTRYlORNER_BRACKET
    nURLY_BRACKETa_LOWER_HOOKkMIDDLE_PIECEmUPPER_HOOKyDOTTED_SUBSTITUTION_BRACKET
    zUBLE_ANGLE_BRACKETnPARENTHESISlQUOTATION_MARKoWIGGLY_FENCEtFISH_TAILhVE_EIGHTHS_BLOCKrLOOR
    fHALF_BLACK_CIRCLEgSTARiOCKfCIRCLEa_WITH_DOTdFOUR_DOTSjTHREE_DOTSjWO_DOTSuFOLDER
    gINVERSE_MEDIUM_SHADE_AND_RIGHT_HALF_BLOCKzqMEDIUM_SHADEmRUNNING_MANoND_TELEPHONE_RECEIVER
    xLOW_PARAPHRASE_BRACKETvUGGAGEhMULTIMAPiNORMAL_FACTOR_SEMIDIRECT_PRODUCTzhONE_EIGHTH_BLOCK
    mQUARTER_BLOCKqUTER_JOINkPARENTHESISa_EXTENSIONjLOWER_HOOKkUPPER_HOOKwRAISED_OMISSION_BRACKET
    wIGHT_ARROWa_THROUGH_SMALL_CIRCLEuWITH_DOUBLE_VERTICAL_STROKEwSTROKEgVERTICAL_STROKE
    zbBLACK_ARROWlDOUBLE_ARROWa_WITH_STROKEgVERTICAL_STROKEziOPEN-HEADED_ARROWrSANS-SERIF_ARROW
    qTRIANGLE-HEADED_ARROWvWAVE_ARROWjHITE_ARROWrS-SHAPED_BAG_DELIMITERvEMIDIRECT_PRODUCT
    qVEN_EIGHTHS_BLOCKsIDEWAYS_U_BRACKETqNGLE_QUOTATION_MARKuPEECH_BUBBLEmQUARE_BRACKETa_EXTENSION
    jLOWER_CORNERmUPPER_CORNERmWITH_DOUBLE_STROKEnQUILLfSTROKEgTICK_IN_BOTTOM_CORNERnTOP_CORNER
    sUNDERBARzcUBSTITUTION_BRACKETuTACKdHIRD_WHITE_RIGHT_POINTING_INDEXzfOUGHT_BUBBLE
    mREE_EIGHTHS_BLOCKnQUARTERS_BLOCKtORTOISE_SHELL_BRACKETvRANSPOSITION_BRACKET
    tIANGLE_BESIDE_VERTICAL_BARwULAR_ONE_QUARTER_BLOCKzdVERTICAL_BAR_WITH_QUILLnOX_LINE
    rWHITE_CORNER_BRACKETnURLY_BRACKETnLENTICULAR_BRACKETsPARENTHESISlSQUARE_BRACKET
    oTORTOISE_SHELL_BRACKETzcIGGLY_FENCElRITING_HANDn-FACING_ARMENIAN_ETERNITY_SIGNwFIST
    eSVASTI_SIGNa_WITH_DOTSzdHANDED_INTERLACED_PENTAGRAMzcPOINTING_ANGLE_BRACKET
    nCURVED_ANGLE_BRACKETuDOUBLE_ANGLE_QUOTATION_MARKzcMAGNIFYING_GLASS
    zSHADED_WHITE_RIGHTWARDS_ARROWzdIDE_ARC_ANTICLOCKWISE_ARROWzdTO-RIGHT_EMBEDDINGjISOLATEhMARK
    eOVERRIDEsWARDS_ARROWa_ABOVE_ALMOST_EQUAL_TOpREVERSE_ALMOST_EQUAL_TOpTILDE_OPERATOR
    wSHORT_RIGHTWARDS_ARROWwTILDE_OPERATORtND_UPPER_AND_LOWER_ONE_EIGHTH_BLOCKzlFROM_BAR
    a_TO_BLACK_DIAMONDzOVER_RIGHTWARDS_ARROWvTHROUGH_LESS-THANjSUBSETgXiO_BAR
    a_OVER_RIGHTWARDS_ARROW_TO_BARzgLACK_DIAMONDqWITH_DOTTED_STEMjUBLE_VERTICAL_STROKE
    wEQUILATERAL_ARROWHEADvHOOKeLARGE_TRIANGLE_ARROWHEADxOOPeMEDIUM_TRIANGLE_ARROWHEADzNOTCHED_TAIL
    mPLUS_BELOWkSMALL_EQUILATERAL_ARROWHEADvTRIANGLE_ARROWHEADxTROKEgTAIL
    a_WITH_DOUBLE_VERTICAL_STROKEwVERTICAL_STROKEyIP_DOWNWARDSjUPWARDSlVERTICAL_STROKEv-TAIL
    kBACK-TILTED_SHADOWED_WHITE_ARROWzgLACK_ARROWfCIRCLED_WHITE_ARROWyOTTOM-SHADED_WHITE_ARROW
    zCOMPRESSED_ARROWqDASHED_ARROWlOUBLE_ARROWa_FROM_BARiWITH_STROKEgVERTICAL_STROKEv-TAIL
    kDASH_ARROWrFINGER-POST_ARROWqRONT-TILTED_SHADOWED_WHITE_ARROWziHAND
    cRPOON_OVER_RIGHTWARDS_HARPOONxWITH_BARB_DOWN_ABOVE_RIGHTWARDS_HARPOON_WITH_BARB_DOWN
    zoBELOW_LONG_DASHpFROM_BARiTO_BARhWARDSjUP_ABOVE_LEFTWARDS_HARPOON_WITH_BARB_DOWNzgONG_DASH
    jRIGHTWARDS_HARPOON_WITH_BARB_UPzmFROM_BARiTO_BARhWARDSyEAVY_ARROWfCOMPRESSED_ARROW
    wLEFT-SHADED_WHITE_ARROWxOPEN-HEADED_ARROWrPAIRED_ARROWSnQUADRUPLE_ARROW
    pRIGHT-SHADED_WHITE_ARROWxOCKETgSANS-SERIF_ARROWpQUARED_ARROWkIGGLE_ARROW
    oTOP_SHADED_WHITE_ARROWvRIANGLE_ARROWHEADk-HEADED_ARROWa_OVER_RIGHTWARDS_TRIANGLE-HEADED_ARROW
    zmTO_BARgWITH_BOLD_SHAFTkDOUBLE_HORIZONTAL_STROKErVERTICAL_STROKEwHEAVY_SHAFT
    lLONG_TIP_DOWNWARDSjUPWARDSqMEDIUM_SHAFTmNARROW_SHAFTmVERY_HEAVY_SHAFTzcDASHED_ARROW
    mPAIRED_ARROWSzbPLE_ARROWfDASH_ARROWqWO_HEADED_ARROWn-HEADED_ARROW_FROM_BAR
    iWITH_DOUBLE_VERTICAL_STROKEwTAILa_WITH_DOUBLE_VERTICAL_STROKEwVERTICAL_STROKE
    yRIANGLE_ARROWHEADStVERTICAL_STROKEzbTRIPLE_DASH_ARROWzdWAVE_ARROWjHITE_ARROW
    a_WITHIN_TRIANGLE_ARROWHEADzuGbMONdOaPARDfPCHA_CONSONANT_SIGN_KaANGeLbMbNaYIN-DOhPbRbT
    qDIGIT_EIGHTfFIVEdOUReNINEeONEdSEVENeIXdTHREEeWOdZEROkLETTER_AbBAbLAdCAbHAdDAbDAcZAdFAbLAdGAbLA
    dHAbLAdJAcKAbHAcLAdLAcMAbLAdNAbGAcYAdPAbHAcLAdRAcSAbHAdTAbHAcSAbHAdTAbHAeVAcWAcYA
    jPUNCTUATION_CER-WAgNYET_THYOOM_TA-ROLsTA-ROLfSHOOKa_CER-WAzSIGN_NUKTAfRANhUBJOINED_LETTER_RA
    cYAtVOWEL_SIGN_AAcEbIbOaOcUaUsSS-THAN_ABOVE_DOUBLE-LINE_EQUAL_ABOVE_GREATER-THAN
    zlGREATER-THAN_ABOVE_DOUBLE-LINE_EQUALzlLEFTWARDS_ARROWpSIMILAR_ABOVE_GREATER-THANsOR_EQUAL
    pLANTED_EQUAL_ABOVE_GREATER-THAN_ABOVE_SLANTED_EQUALzzhND_NOT_APPROXIMATE
    pSINGLE-LINE_NOT_EQUAL_TOzdBUT_NOT_EQUAL_TOfIVALENT_TOvCLOSED_BY_CURVEa_ABOVE_SLANTED_EQUAL
    zkEQUAL_TO_OR_GREATER-THANyOR_APPROXIMATElEQUAL_TOfIVALENT_TOnGREATER-THANmSLANTED_EQUAL_TO
    a_WITH_DOT_ABOVEa_RIGHTlINSIDEzjVER_EQUAL_TOnSIGNeWITH_CIRCLE_INSIDEnDOTdQUESTION_MARK_ABOVE
    zhVEL_SLIDERlFbIBRAdGATURE_OPEN_ET_ORNAMENTwHT_CHECK_MARKkEIGHT_SPOKED_ASTERISK
    vFIVE_POINTED_BLACK_STARsSPOKED_ASTERISKtOUR_POINTED_BLACK_CUSPeSTARxGREEK_CROSS
    lLEFT_TORTOISE_SHELL_BRACKET_ORNAMENTzlRAILdIGHT_TORTOISE_SHELL_BRACKET_ORNAMENTzmSALTIREgHADE
    eIX_SPOKED_ASTERISKtTHREE_POINTED_BLACK_STARxWELVE_POINTED_BLACK_STARzVERTICAL_BARmWHITE_SQUARE
    nNINGa_MOODa_BUBBLEtMBU_DIGIT_EIGHTfFIVEdOUReNINEeONEdSEVENeIXdTHREEeWOdZEROkEXCLAMATION_MARK
    qLETTER_BAbHAdCAbHAdDAbHAdGAbHAcYANeHAcJAbHAdKAbHAdLAcMAcNAbGAdPAbHAdRAcSAbHAcSAdTAbHAcRAdWAcYA
    aNkQUESTION_MARKnSIGN_KEMPHRENGjLOOdMUKPHRENGjSA-IiMALL_LETTER_ANUSVARAiKAcLAcMAcNAbGAdPAcRAcTA
    oUBJOINED_LETTER_RAcWAcYAtVOWEL_SIGN_AaIbUcEaEcIbOaOcUh-CARRIER_LETTERxITED_LIABILITY_SIGN
    uNE_FEEDeINTEGRATION_NOT_INCLUDING_THE_POLEwWITH_RECTANGULAR_PATH_AROUND_POLE
    zdSEMICIRCULAR_PATH_AROUND_POLEzvSEPARATORjTABULATIONa_SETpAR_A_SIGN_A028Be100-102g20Bd31Ce301
    b2b3b4b5b6b7b8b9AbBbCd10b1b2b3AbBbCc4b5b6b7b8b9c20b1b2b3b4b5b6b7b8b9c30b1b2b3b4b5b6b7b8b9c40b1
    b2b3b4b5b6b7b8b9c50b1b2b3b4b5b6b7b8b9c60b1b2b3b4b5b6b7b8b9c70b1d400-VASf1-VASf2-VASf3-VASf4-VAS
    f5-VASf6-VASf7-VASf8-VASf9-VASg10-VASf1-VASf2-VASf3-VASf4-VASf5-VASf6-VASf7-VASf8-VASh501b2b3b4
    b5b6b8b9c10b1b2b3b5b6c20b1b3b4b5b6b7b8b9c30b1b2b4b5b6b7b8b9c40b1b2b5b7b8b9c50b1b2b3b4b5b6b7b9
    c63b4b5b6b8b9c70b1b2b3b4b5b6b7b8b9c80b1b2b3b4b5b6b7b8b9c91b2b4b5b6b8d600b1b2b3b4b6b8b9c10b1b2b3
    b4b5b6b7b8b9c20b1b2b3b4b6b7b8b9c34b7b8c40b2b3b4b5b6b8b9c51b2b3b4b5b6b7b8b9c60b1b2b3b4d701_Ad2_B
    d3_Dd4_Ed5_Fd6_Hd7_Jd8_Kd9_Lc-2_L2e3_L3e4_L4e6_L6h10_Wd1_Xd2_Yd3_OMEGAh4_ABBf5_BBe7_DDf26_EYYY
    h32_JEg800b1b2b3b4b5b6b7dB001b2b3b4b5b6b7b8b9c10b1b3b6b7c20b1aFbMc2aFbMc3aMc4b6b7b8b9c30b1b4b7
    b8b9c40b1b4b5b6b7b8b9c50b1b3b4b5b6b7b8b9c60b1b5b6b7b9c70b3b4b6b7b8b9c80b1b2b5b6b7d118c20b2b3
    c31AbBd64c71c80b8c91mB_IDEOGRAM_B100_MANf2_WOMANh4_DEERg5_EQUIDgF_MAREgM_STALLIONl6F_EWEfM_RAM
    g7F_SHE-GOATkM_HE-GOATk8F_SOWfM_BOARh9F_COWfM_BULLi20_WHEATh1_BARLEYi2_OLIVEh3_SPICEh5_CYPERUS
    k30_OILf1_WINEg2c40_BRONZEi1_GOLDg2b5_WOOLg6c50b1_HORNg2b3b4b7b8b9_CLOTHi60b1b2_GARMENT
    j3_ARMOURi4b5b6b7b8b9c70b1b2b3_MONTHh4b6_TREEg7b8b9c80b1b2b3b4b5b9c90b1_HELMETk220_FOOTSTOOL
    l5_BATHTUBk30_SPEARh1_ARROWh2b3_SWORDh4b6c40_WHEELED_CHARIOTr1_CHARIOTj2_CHARIOT_FRAMEp3_WHEEL
    h5b6b8b9c51b2b3b4_DARTg5b6b7b8b9eVESSEL_B155d200b1b2b3b4b5b6b7b8b9c10b1b2b3b4b5b6b7b8b9c21b2b6
    b7b8b9c50d305uMONOGRAM_B127_KAPOg8_KANAKOj33_AREPAh5_MERIh56_TURO2j247_DIPTEtSYLLABLE_B001_DA
    e2_ROe3_PAe4_TEe5_TOe6_NAe7_DIe8_Ad9_SEf10_Ud1_POe2_SOe3_MEe4_DOe5_MOe6_QAe7_ZAf20_ZOe1_QIe3_MU
    e4_NEe5_A2e6_RUe7_REe8_Id9_PU2g30_NIe1_SAe2_QOe3_RA3f6_JOe7_TIe8_Ed9_PIf40_WIe1_SIe2_WOe3_A3
    e4_KEe5_DEe6_JEe8_NWAg50_PUe1_DUe2_NOe3_RIe4_WAe5_NUe7_JAe8_SUe9_TAf60_RAe1_Od2_PTEf5_JUe6_TA2
    f7_KIe8_RO2f9_TUf70_KOe1_DWEf2_PEe3_MIe4_ZEe5_WEe6_RA2f7_KAe8_QEf80_MAe1_KUe5_AUe7_TWEg90_DWO
    f1_TWOpMBOL_B018b9c22c34c47b9c56c63b4c79c82b3b6b9rK_SYMBOLhED_PAPERCLIPSpON_FACEhPSaTICK
    gRA_SIGNhSU_LETTER_AaEcBAcCAbHAdDAbZAdEaUcFAcGAbHAdHAbHAdIbJAcKAbHAdLAcMAcNAbGAdOaEcPAbHAdSAbHA
    dTAbHAcONE_MYA_BOcCYAdJEUdNAcTIgNA_POjSAbHAeUaEbHcWAcXAcYAbHAdZAbHAkPUNCTUATION_COMMAfFULL_STOP
    yVRE_TOURNOIS_SIGNrZARDfLAMAeOBSTERfCKa_WITH_INK_PENnING-SHIFT_ONEdZEROqGICAL_AND
    a_WITH_DOT_ABOVEhUBLE_OVERBARhUNDERBARpHORIZONTAL_DASHpMIDDLE_STEMlUNDERBARrOR
    a_OVERLAPPING_LOGICAL_ANDxWITH_DOT_ABOVEhUBLE_OVERBARhUNDERBARpHORIZONTAL_DASHpMIDDLE_STEM
    zLLIPOPgNG_DASH_FROM_LEFT_MEMBER_OF_DOUBLE_VERTICALzoIVISIONhRUMeLEFT_RIGHT_ARROWfDOUBLE_ARROW
    sTACKfWARDS_ARROWa_FROM_BARoDOUBLE_ARROWa_FROM_BARvSQUIGGLE_ARROWyRIGHT_TACKfWARDS_ARROW
    a_FROM_BARoDOUBLE_ARROWa_FROM_BARvSQUIGGLE_ARROWzdTION_BOTTLEkUSdUDLY_CRYING_FACEqVE_HOTEL
    fLETTERjW_ASTERISKiBATTERYgRIGHTNESS_SYMBOLrDOUBLE_PRIME_QUOTATION_MARKzcKAVYKAa_WITH_DOTpLINE
    fER_BLADE_SCISSORSoFIVE_EIGHTHS_BLOCKsHALF_BLOCKfCIRCLEgINVERSE_WHITE_CIRCLEuMEDIUM_SHADE
    rLEFT_BALLPOINT_PENmLOCK_DIAGONAL_LOWER_MIDDLE_LEFT_TO_LOWER_CENTREgRIGHT
    zhUPPER_CENTRE_TO_LOWER_MIDDLE_RIGHTmRIGHTlUPPER_MIDDLE_RIGHTzdLEFT_TO_LOWER_CENTRE
    gMIDDLE_RIGHTsUPPER_MIDDLE_RIGHTzbMIDDLE_LEFT_TO_LOWER_CENTREgMIDDLE_RIGHTmRIGHTzwCRAYON
    gFOUNTAIN_PENmPAINTBRUSHjENCILgQUADRANT_CIRCULAR_ARCvSEMICIRCULAR_ANTICLOCKWISE_ARROWzhTRIANGLE
    cULAR_MEDIUM_SHADEzdONE_EIGHTH_BLOCKmQUARTER_BLOCK
    rRIGHT_BLOCK_DIAGONAL_LOWER_CENTRE_TO_LOWER_MIDDLE_RIGHTsUPPER_MIDDLE_RIGHTmRIGHT
    vLEFT_TO_LOWER_MIDDLE_RIGHTsUPPER_CENTREgMIDDLE_RIGHTzbMIDDLE_LEFT_TO_UPPER_CENTREgMIDDLE_RIGHT
    mRIGHTzhUPPER_MIDDLE_LEFT_TO_UPPER_CENTREgRIGHTzwCORNER_WITH_DOTpDROP-SHADOWED_WHITE_SQUARE
    zbPENCILgQUADRANT_CIRCULAR_ARCvSEMICIRCULAR_CLOCKWISE_ARROWzcHADOWED_WHITE_CIRCLEgSQUARE
    vTRIANGLEcULAR_MEDIUM_SHADEzeSEVEN_EIGHTHS_BLOCKtTHREE_EIGHTHS_BLOCKnQUARTERS_BLOCK
    tRIANGULAR_ONE_QUARTER_BLOCKzhZENGEa_DIVIDED_BY_HORIZONTAL_RULEziREbIbMbOcUGGAGEfNGS
    eYCIAN_LETTER_AaNcBaHcDbEaNcGbHbIbJbKaKcLbMaMcNaNcPbQbRbSbTaHbTcUbWbXbZnDIAN_LETTER_AaNcBbCbDbE
    aNcFbGbIbKbLaYcMbNaNcObQbRbSaScTaTcUbVbYiTRIANGULAR_MARKuING_FACEkMACRONeGEbIC_WANDhNET
    eHAJANI_ABBREVIATION_SIGNrLETTER_AbBAbHAdCAbHAdDAbDAbHAdHAdEbGAbHAdHAcIbJAbHAdKAbHAdLAcMAcNAbNA
    cYAdObPAbHAdRAbRAdSAcTAbHAcTAbHAeUbVAiIGATURE_SHRInSECTION_MARKlIGN_NUKTAqJONG_TILE_AUTUMNgBACK
    cMBOOgCHRYSANTHEMUMnEAST_WINDiIGHT_OF_BAMBOOShCHARACTERSjIRCLESqFIVE_OF_BAMBOOShCHARACTERS
    jIRCLESoOUR_OF_BAMBOOShCHARACTERSjIRCLESpGREEN_DRAGONmJOKERfNINE_OF_BAMBOOShCHARACTERSjIRCLES
    oORTH_WINDkONE_OF_BAMBOOShCHARACTERSjIRCLESnRCHIDgPLUMeRED_DRAGONkSEVEN_OF_BAMBOOShCHARACTERS
    jIRCLESpIX_OF_BAMBOOShCHARACTERSjIRCLESnOUTH_WINDjPRINGfUMMERgTHREE_OF_BAMBOOShCHARACTERS
    jIRCLESpWO_OF_BAMBOOShCHARACTERSjIRCLESoWEST_WINDiHITE_DRAGONlINTERrKASAR_ANGKAfEND_OF_SECTION
    oLETTER_AbBAcCAcDAcGAcJAcKAcLAcMAcNAbGAcYAdPAcRAcSAcTAcVAcYAjPASSIMBANGkVOWEL_SIGN_EbIbObU
    sLAYALAM_AU_LENGTH_MARKoDATE_MARKiIGIT_EIGHTfFIVEdOUReNINEeONEdSEVENeIXdTHREEeWOdZERO
    kFRACTION_ONE_EIGHTHgFIFTHeORTIETHiHALFeONE-HUNDRED-AND-SIXTIETHyQUARTERhSIXTEENTHjTENTH
    eWENTIETHnTHREE_EIGHTIETHSkQUARTERSiSIXTEENTHSkTWENTIETHSzLETTER_AaAbIbRCHAIC_IIjUcBAbHAdCAbHA
    bILLU_KbLaLaLdMbNaNcRRcYiDAbDAbHAdHAcOT_REPHiEaEcGAbHAdHAcIaIcJAbHAdKAbHAdLAbLAbLAeMAcNAbGAcNA
    bNAdYAdOaOcPAbHAdRAbRAdSAbHAcSAdTAbHAcTAbHAcTAeUaUcVAbEDIC_ANUSVARAnOCALIC_LaLcRaRkYA
    jNUMBER_ONE_HUNDREDhTHOUSANDmTENkSIGN_ANUSVARAhVAGRAHAiCANDRABINDUkIRCULAR_VIRAMA
    oOMBINING_ANUSVARA_ABOVEyPARAeVERTICAL_BAR_VIRAMAsIRAMAeSARGAmVOWEL_SIGN_AAbIbUcEaEcIaIcOaOcUaU
    cVOCALIC_LaLcRaRzdE_AND_FEMALE_SIGNpSIGNeWITH_STROKE_AND_MALE_AND_FEMALE_SIGNySIGNsTESE_CROSS
    lMMOTHfNa_AND_WOMAN_HOLDING_HANDSxDANCINGhIN_BUSINESS_SUIT_LEVITATINGyTUXEDOjWITH_GUA_PI_MAO
    kTURBANmAT_SIGNhDAIC_AFFRICATION_MARKqGEMINATION_MARKpLETTER_ABbDbGbHbINcKaSAdLbMbNbPbQbRbSaHbZ
    cTaTcZcDUSHENNAiHALQAfINbTcKADdUSHENNAoPUNCTUATIONlVOCALIZATION_MARKwGO
    cICHAEAN_ABBREVIATION_MARK_ABOVEfBELOWxLETTER_AAYINeLEPHeYINeBETHdHETHfDALETHfHAMEDHhFEcGHIMEL
    fIMELfHEaTHeJAYINeHAYINgKAPHdHAPHfLAMEDHgMEMdNUNdPEcQHOPHeOPHeRESHeSADHEdMEKHfHINdSHINfTAWcETH
    dHAMEDHhWAWdXAPHdOPHeYODHeZAYINeHAYINnNUMBER_FIVEeONEa_HUNDREDlTENcWENTYnPUNCTUATION_DOT
    a_WITHIN_DOTmUBLE_DOT_WITHIN_DOTvFLEURONhLINE_FILLERlSTAReTWO_DOTSuSIGN_UDpS_SHOE
    gTELPIECE_CLOCKoUAL_WHEELCHAIRpP_SYMBOL_FOR_LIGHTHOUSEwLE_LEAFiRCHEN_HEAD_MARKjLETTER_-AcAbBA
    cCAbHAdDAbZAdGAcHAcJAcKAbHAdLAcMAcNAbGAcYAdPAbHAdRAcSAbHAdTAbHAcSAbHAeWAcYAcZAbHAkMARK_SHAD
    jSIGN_ANUSVARAiCANDRABINDUpUBJOINED_LETTER_AbBAcCAbHAdDAbZAdGAcHAcJAcKAbHAdLAcMAcNAbGAcYAdPAbHA
    dRAcSAbHAdTAbHAcSAbHAeWAcYAcZAbHAuVOWEL_SIGN_AAcEbIbObUrRIAGE_SYMBOLmTIAL_ARTS_UNIFORM
    sSARAM_GONDI_DIGIT_EIGHTfFIVEdOUReNINEeONEdSEVENeIXdTHREEeWOdZEROkLETTER_AaAbIbUcBAbHAdCAbHAdDA
    bDAbHAdHAdEbGAbHAdHAcIaIcJAbHAcNYAeKAbHAcSSAeLAbLAdMAcNAbGAcNAcYAdObPAbHAdRAcSAbHAcSAdTAbHAcRA
    cTAbHAeUaUcVAcYAjRA-KARAgEPHAfSIGN_ANUSVARAiCANDRAgHALANTAhNUKTAfVISARGAmVIRAMAfOWEL_SIGN_AAbI
    bUcEbIaIcObUaUcVOCALIC_RzgCULINE_ORDINAL_INDICATORyK_WORK_SYMBOLnU_MARKhTE_DRINK
    hHEMATICAL_BOLD_CAPITAL_AaLPHAfBaETAeCaHIdDaELTAeIGAMMAhEaPSILONgTAdFbGaAMMAfHbIaOTAeJbKaAPPAfL
    aAMDAfMaUcNaUcOaMEGAdICRONhPaHIcIbSIdQbRaHOdSaIGMAfTaAUcHETAa_SYMBOLmUaPSILONhVbWbXaIcYbZaETA
    mDIGIT_EIGHTfFIVEdOUReNINEeONEdSEVENeIXdTHREEeWOdZEROkEPSILON_SYMBOLoFRAKTUR_CAPITAL_AbBbCbDbE
    bFbGbHbIbJbKbLbMbNbObPbQbRbSbTbUbVbWbXbYbZjSMALL_AbBbCbDbEbFbGbHbIbJbKbLbMbNbObPbQbRbSbTbUbVbW
    bXbYbZpITALIC_CAPITAL_AaLPHAfBaETAeCaHIdDaELTAfEaPSILONgTAdFbGaAMMAfHbIaOTAeJbKaAPPAfLaAMDAfMaU
    cNaUcOaMEGAdICRONhPaHIcIbSIdQbRaHOdSaIGMAfTaAUcHETAa_SYMBOLmUaPSILONhVbWbXaIcYbZaETA
    mEPSILON_SYMBOLoKAPPA_SYMBOLmNABLAfPARTIAL_DIFFERENTIALtHI_SYMBOLjI_SYMBOLjRHO_SYMBOLkSMALL_A
    aLPHAfBaETAeCaHIdDaELTAfEaPSILONgTAdFaINAL_SIGMAlGaAMMAfHbIaOTAeJbKaAPPAfLaAMDAfMaUcNaUcOaMEGA
    dICRONhPaHIcIbSIdQbRaHOdSaIGMAfTaAUcHETAfUaPSILONhVbWbXaIcYbZaETAkTHETA_SYMBOLtKAPPA_SYMBOL
    mNABLAfPARTIAL_DIFFERENTIALtHI_SYMBOLjI_SYMBOLjRHO_SYMBOLkSCRIPT_CAPITAL_AbBbCbDbEbFbGbHbIbJbK
    bLbMbNbObPbQbRbSbTbUbVbWbXbYbZjSMALL_AbBbCbDbEbFbGbHbIbJbKbLbMbNbObPbQbRbSbTbUbVbWbXbYbZnMALL_A
    aLPHAfBaETAeCaHIdDaELTAeIGAMMAhEaPSILONgTAdFaINAL_SIGMAlGaAMMAfHbIaOTAeJbKaAPPAfLaAMDAfMaUcNaU
    cOaMEGAdICRONhPaHIcIbSIdQbRaHOdSaIGMAfTaAUcHETAfUaPSILONhVbWbXaIcYbZaETAkTHETA_SYMBOL
    rDOUBLE-STRUCK_CAPITAL_AbBbDbEbFbGbIbJbKbLbMbObSbTbUbVbWbXbYjDIGIT_EIGHTfFIVEdOUReNINEeONE
    dSEVENeIXdTHREEeWOdZEROkSMALL_AbBbCbDbEbFbGbHbIbJbKbLbMbNbObPbQbRbSbTbUbVbWbXbYbZ
    vFALLING_DIAGONALpRAKTUR_CAPITAL_AbBbDbEbFbGbJbKbLbMbNbObPbQbSbTbUbVbWbXbYjSMALL_AbBbCbDbEbFbG
    bHbIbJbKbLbMbNbObPbQbRbSbTbUbVbWbXbYbZpITALIC_CAPITAL_AaLPHAfBaETAeCaHIdDaELTAfEaPSILONgTAdFbG
    aAMMAfHbIaOTAeJbKaAPPAfLaAMDAfMaUcNaUcOaMEGAdICRONhPaHIcIbSIdQbRaHOdSaIGMAfTaAUcHETAa_SYMBOLmU
    aPSILONhVbWbXaIcYbZaETAmEPSILON_SYMBOLoKAPPA_SYMBOLmNABLAfPARTIAL_DIFFERENTIALtHI_SYMBOL
    jI_SYMBOLjRHO_SYMBOLkSMALL_AaLPHAfBaETAeCaHIdDaELTAeOTLESS_IbJjEaPSILONgTAdFaINAL_SIGMAlGaAMMA
    fIaOTAeJbKaAPPAfLaAMDAfMaUcNaUcOaMEGAdICRONhPaHIcIbSIdQbRaHOdSaIGMAfTaAUcHETAfUaPSILONhVbWbXaI
    cYbZaETAkTHETA_SYMBOLtLEFT_ANGLE_BRACKETnDOUBLE_ANGLE_BRACKETuFLATTENED_PARENTHESIS
    vWHITE_SQUARE_BRACKEToTORTOISE_SHELL_BRACKETziMONOSPACE_CAPITAL_AbBbCbDbEbFbGbHbIbJbKbLbMbNbObP
    bQbRbSbTbUbVbWbXbYbZjDIGIT_EIGHTfFIVEdOUReNINEeONEdSEVENeIXdTHREEeWOdZEROkSMALL_AbBbCbDbEbFbGbH
    bIbJbKbLbMbNbObPbQbRbSbTbUbVbWbXbYbZrRIGHT_ANGLE_BRACKETnDOUBLE_ANGLE_BRACKET
    uFLATTENED_PARENTHESISvWHITE_SQUARE_BRACKEToTORTOISE_SHELL_BRACKETzhSING_DIAGONAL
    pSANS-SERIF_BOLD_CAPITAL_AaLPHAfBaETAeCaHIdDaELTAfEaPSILONgTAdFbGaAMMAfHbIaOTAeJbKaAPPAfLaAMDA
    fMaUcNaUcOaMEGAdICRONhPaHIcIbSIdQbRaHOdSaIGMAfTaAUcHETAa_SYMBOLmUaPSILONhVbWbXaIcYbZaETA
    mDIGIT_EIGHTfFIVEdOUReNINEeONEdSEVENeIXdTHREEeWOdZEROkEPSILON_SYMBOLoITALIC_CAPITAL_AaLPHAfB
    aETAeCaHIdDaELTAfEaPSILONgTAdFbGaAMMAfHbIaOTAeJbKaAPPAfLaAMDAfMaUcNaUcOaMEGAdICRONhPaHIcIbSIdQ
    bRaHOdSaIGMAfTaAUcHETAa_SYMBOLmUaPSILONhVbWbXaIcYbZaETAmEPSILON_SYMBOLoKAPPA_SYMBOLmNABLA
    fPARTIAL_DIFFERENTIALtHI_SYMBOLjI_SYMBOLjRHO_SYMBOLkSMALL_AaLPHAfBaETAeCaHIdDaELTAfEaPSILONgTA
    dFaINAL_SIGMAlGaAMMAfHbIaOTAeJbKaAPPAfLaAMDAfMaUcNaUcOaMEGAdICRONhPaHIcIbSIdQbRaHOdSaIGMAfTaAU
    cHETAfUaPSILONhVbWbXaIcYbZaETAkTHETA_SYMBOLtKAPPA_SYMBOLmNABLAfPARTIAL_DIFFERENTIALtHI_SYMBOL
    jI_SYMBOLjRHO_SYMBOLkSMALL_AaLPHAfBaETAeCaHIdDaELTAfEaPSILONgTAdFaINAL_SIGMAlGaAMMAfHbIaOTAeJbK
    aAPPAfLaAMDAfMaUcNaUcOaMEGAdICRONhPaHIcIbSIdQbRaHOdSaIGMAfTaAUcHETAfUaPSILONhVbWbXaIcYbZaETA
    kTHETA_SYMBOLrCAPITAL_AbBbCbDbEbFbGbHbIbJbKbLbMbNbObPbQbRbSbTbUbVbWbXbYbZjDIGIT_EIGHTfFIVEdOUR
    eNINEeONEdSEVENeIXdTHREEeWOdZEROkITALIC_CAPITAL_AbBbCbDbEbFbGbHbIbJbKbLbMbNbObPbQbRbSbTbUbVbWbX
    bYbZjSMALL_AbBbCbDbEbFbGbHbIbJbKbLbMbNbObPbQbRbSbTbUbVbWbXbYbZoSMALL_AbBbCbDbEbFbGbHbIbJbKbLbM
    bNbObPbQbRbSbTbUbVbWbXbYbZrCRIPT_CAPITAL_AbCbDbGbJbKbNbObPbQbSbTbUbVbWbXbYbZjSMALL_AbBbCbDbFbH
    bIbJbKbLbMbNbPbQbRbSbTbUbVbWbXbYbZzXIMIZEgYAN_NUMERAL_EIGHTaEENhLEVENgFIFTEENfVEdOURaTEENiNINE
    aTEENiONEdSEVENaTEENiIXaTEENhTENcHIRTEENgREEeWELVEeOdZEROrEASURED_ANGLEa_OPENING_LEFT
    mWITH_OPEN_ARM_ENDING_IN_ARROW_POINTING_DOWN_AND_LEFTeRIGHToLEFT_AND_DOWNeUPlRIGHT_AND_DOWNeUP
    mUP_AND_LEFTeRIGHTzzhBYcRIGHT_ANGLE_WITH_DOTzbT_ON_BONEkCHANICAL_ARMdLEG
    mDEFAIDRIN_CAPITAL_LETTER_AaIbTIUeBbCbDbEbFbGbHaPcIbJbKaPcLbMbNaGbYcOaEcPbQbRbSbTbUbVbWbXbYaUcZ
    pOMMAfDIGIT_EIGHTfFIVEdOUReNINEeONEa_ALTERNATE_FORMsSEVENeIXdTHREEa_ALTERNATE_FORMtWO
    a_ALTERNATE_FORMsZEROkEXCLAMATION_OHoFULL_STOPjNUMBER_EIGHTEENhLEVENgFIFTEENgOURTEENiNINETEEN
    iSEVENTEENiIXTEENhTENcHIRTEENhWELVEnSMALL_LETTER_AaIbTIUeBbCbDbEbFbGbHaPcIbJbKaPcLbMbNaGbYcOaE
    cPbQbRbSbTbUbVbWbXbYaUcZnYMBOL_AIVAuIEVAL_COMMAfEXCLAMATION_MARKqQUESTION_MARKsUM_BLACK_CIRCLE
    lOLD_WHITE_CIRCLErEIGHT_POINTED_BLACK_STARsSPOKED_ASTERISKvFIVE_SPOKED_ASTERISK
    tLATTENED_LEFT_PARENTHESIS_ORNAMENTzRIGHT_PARENTHESIS_ORNAMENTzkOUR_POINTED_BLACK_STAR
    kPINWHEEL_STARzbGREEK_CROSSlLEFT_CURLY_BRACKET_ORNAMENTwPARENTHESIS_ORNAMENT
    v-POINTING_ANGLE_BRACKET_ORNAMENTzlMATHEMATICAL_SPACEsRIGHT_CURLY_BRACKET_ORNAMENT
    wPARENTHESIS_ORNAMENTv-POINTING_ANGLE_BRACKET_ORNAMENTzmSALTIREgHADEeIX_POINTED_BLACK_STAR
    sSPOKED_ASTERISKsMALL_WHITE_CIRCLEsTHREE_POINTED_BLACK_STARkPINWHEEL_STARzcVERTICAL_BAR
    mWHITE_CIRCLEgSQUARErETEI_MAYEK_AHANG_KHUDAMlNJIdPUN_IYEKjCHEIKHANcEIiDIGIT_EIGHTfFIVEdOUReNINE
    eONEdSEVENeIXdTHREEeWOdZEROkLETTER_ATIYAfBAbHAMeCHAbILeDDAbHAdHOUdILdEbGHOUdOKdHUKdIa_LONSUM
    iJHAMdILdKHOUdOKa_LONSUMkLAIa_LONSUMkMITa_LONSUMkNAa_LONSUMiGOUa_LONSUMkNAcYAdObPAa_LONSUMiHAM
    eRAIdSAMcHAcSAdTHOUdILa_LONSUMjTAbHAeUNcWAIdYANGkUM_IYEKiSYLLABLE_REPETITION_MARKyVIRAMA
    fOWEL_SIGN_AAIbUcNAPdUcCHEINAPhIIbNAPeNUNGeONAPeSOUNAPgUNAPdUcVISARGAhYENAP
    qWORD_REPETITION_MARKzgLONcTING_FACEkMOcNDE_KIKAKUI_COMBINING_NUMBER_HUNDRED_THOUSANDSkS
    iMILLIONSiTEENSdN_THOUSANDSkSdHOUSANDSzbDIGIT_EIGHTfFIVEdOUReNINEeONEdSEVENeIXdTHREEeWO
    jSYLLABLE_M001_KIe2_KAe3_KUe4_WIe5_WAe6_WUe7_MINf8_MANf9_MUNg10_BIe1_BAe2_BUe3_Id4_Ad5_Ud6_DI
    e7_DAe8_DUe9_SIf20_SAe1_SUe2_TIe3_TAe4_TUe5_LIe6_LAe7_LUe8_JIe9_JAf30_JUe1_YIe2_YAe3_YUe4_FI
    e5_FAe6_FUe7_NINf8_NANf9_NUNg40_HEEf1_HAe2_HOOf3_NGGAg4_KPEEg5_WOe6_HUANg7_MBEEg8_KOe9_WVA
    g50_PUe1_PEe2_HENf3_HINf4_LOOf5_TEe6_GBAf7_NGONg8_NYANg9_MENg60_NYONg1_WVIf2_MBAf3_JOe4_NDO
    f5_KEEf6_POe7_NDOOg8_PIe9_TOf70_GBOf1_GBOOg2_MBEf3_LEe4_KPUf5_FEe6_KOOf7_VOe8_FEEf9_SOf80_YE
    e1_PEEf2_NGGUg3_HEEIg4_LEEf5_VEe6_LONG_NGGEl7_HUNf8_FOe9_DEEg90_NGGIg1_TEEf2_KPAf3_GBEEg4_MON
    f5_KEe6_HEe7_BEe8_NYENg9_PAg100_Ed1_FANf2_POOf3_BOOf4_TOOf5_LONG_MBOOl6_LONG_NGGOOm7_GBEf8_KPE
    f9_YEEg10_LONG_LEj1_GAe2_KPOOg3_JEe4_WOOf5_NGGEEh6_SEe7_NENf8_WEe9_NDEg20_NGGOg1_YOe2_MBUf3_NDI
    f4_GBIf5_NDUf6_WEEf7_NGGUAh8_HOOUg9_NDAg30_HANf1_INe2_KPIf3_FOOf4_NJOOg5_INe6_SOOf7_EIe8_BO
    e9_WVEg40_HOe1_YOOf2_LONG_MBOk3_WEIf4_VOOf5_MBIf6_NGGEg7_Od8_GBUf9_NJEEh50_BEEf1_VUe2_NJAf3_LO
    e4_MUANg5_GIe6_NGGOOh7_JEEf8_KPOf9_NGGAAi60_JOOf1_LONG_MBEk2_SEEf3_EEe4_NYINg5_OOe6_GUEIg7_GUAN
    g8_GUe9_NONg70_NYUNg1_RAe2_MBOOg3_VEEf4_MBOf5_LONG_JOj6_HIe7_NGUANh8_ENe9_KUAg80_DOOf1_DOe2_VI
    e3_LONG_NGGOl4_NGENg5_VAe6_HUe7_MBUUg8_MBEEg9_MUENh90_GEEf1_NDEEg2_NJUf3_HONf4_WUIf5_ANe6_SIA
    f7_FUAzdORAH_WITH_NINE_BRANCHESxS_SYMBOLjRCURYeOITIC_CURSIVE_FRACTION_EIGHT_TWELFTHS
    nLEVEN_TWELFTHSpFIVE_TWELFTHSmOUR_TWELFTHSnNINE_TWELFTHSnONE_HALFeTWELFTHlSEVEN_TWELFTHS
    nIX_TWELFTHSmTEN_TWELFTHSlHREE_TWELFTHSnWO_TWELFTHSvLETTER_AaRCHAIC_SAkBAcDAcEbHHAdIbKAbHAdLA
    cMAcNAbEcObPAcQAcRAcSAbEcTAbEbOcWAcYAiOGOGRAM_IMNdRMTmNUMBER_EIGHTa_HUNDREDa_THOUSANDqTHOUSAND
    jY_THOUSANDpFIFTYa_THOUSANDmVEa_HUNDREDa_THOUSANDqTHOUSANDmORTYa_THOUSANDmURa_HUNDREDa_THOUSAND
    qTHOUSANDnNINEa_HUNDREDa_THOUSANDqTHOUSANDjTY_THOUSANDpONEa_HUNDREDa_THOUSANDqTHOUSANDmSEVEN
    a_HUNDREDa_THOUSANDqTHOUSANDjTYa_THOUSANDpIXa_HUNDREDa_THOUSANDqTHOUSANDjTYa_THOUSANDoTEN
    a_THOUSANDlHIRTYa_THOUSANDnREEa_HUNDREDa_THOUSANDqTHOUSANDnWENTYa_THOUSANDnOa_HUNDREDa_THOUSAND
    qTHOUSANDzcHIEROGLYPHIC_LETTER_AbBAa-2eDAcEbHHAdIbKAbHAdLAcMAcNAa-2dEa-2eObPAcQAcRAa-2eSAa-2dE
    cTAa-2dEa-2dOcWAcYAjSYMBOL_VIDJa-2zhPERSONhSSAGE_WAITINGnTRICAL_BREVEfLONG_OVER_SHORT
    fTWO_SHORTSuPENTASEMEjSHORT_OVER_LONGpTETRASEMEiRISEMEgWO_SHORTS_JOINEDgOVER_LONGzO
    eIAO_LETTER_AHbRCHAIC_MAcNAbGAdZZAlBAbRIdDAbDAcLHAbYAeZAbHAcYIcZAeFAcGAbHAbHAeHAbHAdKAcLAbHAbYA
    dYAdMAbHAdNAaSALIZATIONlGAbHAdHAcNAbHAdYAbHAePAbLAdQAbGAdREFORMED_TONE-1b2b4b5b6b8fSHAmTEdSAbHA
    cSAcYIdTAbEbLHAbYAeONE-2b3b4b5b6b7b8fSAbEbHAcSAdTAdVAbFAdWAcXAcYI_DZHAeKAcNNAdPAcTAbSAbHAdTAgZA
    bHAcSAbHAdZAbSAbYAdYAlSIGN_ASPIRATIONkCONSONANT_MODIFIER_BARwREFORMED_ASPIRATIONkVOICING
    vTONE_ABOVEfBELOWfRIGHTfTOP_RIGHToVOWEL_SIGN_AaAbEaEcHHcIbNaGcUcEaAbIbNaGcRaRdIaAaNaGdEbGbIbNG
    cOaNGdUcNaGcOaERbYcGbObUcROUNDED_ERaRlUaAaNaGdEIcIbNGcOGcUcVWcWaOcYaIbUIrCR_DASH_SYMBOL
    lON_US_SYMBOLnO_SIGNfBEcPHONEfSCOPEiDDLE_DOTdTHIRD_WHITE_RIGHT_POINTING_INDEX
    zlLINE_HORIZONTAL_ELLIPSISzLITARY_HELMETgMEDALlKY_WAYgL_SIGNhNIBUSdDISCeMIZEfUS_SIGN
    a_IN_TRIANGLElWITH_COMMA_ABOVElDOT_BELOWjFALLING_DOTSmRISING_DOTSvTILDEg-OR-PLUS_SIGNpYcRROR
    a_BALLkMSPdOBILE_PHONEa_OFFdWITH_RIGHTWARDS_ARROW_AT_LEFTzpDELScRN_PENTATHLON
    oI_ABBREVIATION_SIGNrDANDAeIGIT_EIGHTfFIVEdOUReNINEeONEdSEVENeIXdTHREEeWOdZEROjOUBLE_DANDA
    mLETTER_AaAbIbUcBAbHAdCAbHAdDAbDAbHAdHAdEbGAbHAdHAcIaIcJAbHAdKAbHAdLAbLAdMAcNAbGAcNAcYAdObPAbHA
    dRAcSAbHAcSAdTAbHAcTAbHAeUaUcVAbOCALIC_LaLcRaRkYAjSIGN_ANUSVARAhRDHACANDRAlHUVAeVIRAMAeSARGA
    mVOWEL_SIGN_AAbIbUcEbIaIcObUaUcVOCALIC_LaLcRaRwFIER_BREVE_WITH_INVERTED_BREVE
    zLETTER_ACUTE_ACCENTlLVEOLAR_CLICKnPOSTROPHEkBEGIN_HIGH_TONEjLOW_TONEnILABIAL_CLICKoCAPITAL_AaE
    cBaARRED_BiCbDbEbFbGbHa_WITH_STROKEnIbJbKbLbMbNbOaUcPbQbRaEVERSED_EbNkTbUbVbW
    iENTRED_LEFT_HALF_RINGoRIGHT_HALF_RINGwHINESE_TONE_YANG_PINGeQUcRUcSHANGjIN_PINGeQUcRUcSHANG
    vIRCUMFLEX_ACCENTqOLONeROSS_ACCENTlYRILLIC_ENcHARD_SIGNjSOFT_SIGNsDENTAL_CLICK
    lOT_HORIZONTAL_BARoSLASHfVERTICAL_BARoUBLE_APOSTROPHEkPRIMEkWN_ARROWHEADjTACKjEND_HIGH_TONE
    jLOW_TONElXTRA-HIGH_DOTTED_LEFT-STEM_TONE_BARsTONE_BARpLEFT-STEM_TONE_BARsTONE_BAR
    nLOW_DOTTED_LEFT-STEM_TONE_BARsTONE_BARpLEFT-STEM_TONE_BARsTONE_BARsGEORGIAN_NARlLOTTAL_STOP
    a_WITH_STROKExRAVE_ACCENTmHALF_TRIANGULAR_COLONuIGH_DOTTED_LEFT-STEM_TONE_BARsTONE_BAR
    pLEFT-STEM_TONE_BARsTONE_BARnLATERAL_CLICKmEFT_ARROWHEADjHALF_RINGjTACKiOW_ACUTE_ACCENT
    mCIRCUMFLEX_ACCENTrDOTTED_LEFT-STEM_TONE_BARsTONE_BARnWN_ARROWHEADoGRAVE_ACCENT
    mINVERTED_EXCLAMATION_MARKzLEFT_ARROWaHEADk-STEM_TONE_BARsMACRONgRIGHT_ARROWHEADnNGeTILDE
    eONE_BARiUP_ARROWHEADmVERTICAL_LINEoER_RIGHT_CORNER_ANGLEyMACRONfID_DOTTED_LEFT-STEM_TONE_BAR
    sTONE_BARpLEFT-STEM_TONE_BARsTONE_BARjDLE_DOUBLE_ACUTE_ACCENTmGRAVE_ACCENTtGRAVE_ACCENT
    rNUS_SIGNkOPEN_SHELFkPLUS_SIGNiRIMEfRAISED_COLONfDOWN_ARROWkEXCLAMATION_MARK
    qINVERTED_EXCLAMATION_MARKzUP_ARROWoETROFLEX_CLICK_WITH_RETROFLEX_HOOKziVERSED_COMMA
    fGLOTTAL_STOPa_WITH_STROKEzhHOTIC_HOOKkIGHT_ARROWHEADjHALF_RINGjTACKkSHELFdORT_EQUALS_SIGN
    qMALL_AaEbINcLPHAfBa_WITH_HOOKkARRED_OhETAdOTTOM_HALF_OnCa_WITH_CURLkAPITAL_AAcBbGa_WITH_HOOKlH
    bIa_WITH_STROKEmNVERTED_RkLa_WITH_BELTlNbOEcRbUbYiHIcLOSED_OMEGAfREVERSED_OPEN_EwDa_WITH_HOOK
    a_AND_TAILnTAILkELTAdZH_DIGRAPHlOTLESS_J_WITH_STROKEa_AND_HOOKzeZ_DIGRAPHa_WITH_CURL
    eRETROFLEX_HOOKzfEaNGcSHcTHcZHdFaENG_DIGRAPHmGa_WITH_HOOKkAMMAeREEK_GAMMAfPHIjHa_WITH_HOOK
    eSTROKEmENGa_WITH_HOOKoI_WITH_STROKEmOTAeJa_WITH_CROSSED-TAILtKbLa_WITH_BELTeINVERTED_LAZY_S
    pMIDDLE_TILDEmPALATAL_HOOKmRETROFLEX_HOOKa_AND_BELTzeEZHa_WITH_RETROFLEX_HOOKxIGATURE_OE
    kS_DIGRAPHjZ_DIGRAPHkMa_WITH_HOOKlN_WITH_LEFT_HOOKjRETROFLEX_HOOKvOa_WITH_STROKEmPEN_EbOgPaHIdQ
    bRa_WITH_FISHHOOKiTAILkAMS_HORNiEVERSED_EbGLOTTAL_STOPmOPEN_EpSa_WITH_CURLeHOOKkCHWAdRIPT_G
    hIDEWAYS_UkTa_WITH_PALATAL_HOOKmRETROFLEX_HOOKuC_DIGRAPH_WITH_CURLtESH_DIGRAPHlHETAeOP_HALF_O
    jS_DIGRAPHa_WITH_RETROFLEX_HOOKzeURNED_AaEbLPHAfHbIbMa_WITH_LONG_LEGpOPEN_EgRa_WITH_HOOK
    eLONG_LEGa_AND_RETROFLEX_HOOKzjVbWbYa_WITH_BELTsUa_BARdWITH_LEFT_HOOKpPSILONhVa_WITH_HOOK
    eRIGHT_HOOKrWbXbYbZa_WITH_CURLeRETROFLEX_HOOKzbTRESS_AND_HIGH_TONEjLOW_TONE
    sUPERSCRIPT_HALF_TRIANGULAR_COLONvTRIANGULAR_COLONzdTRIANGULAR_COLONpURNED_COMMAmUNASPIRATED
    kP_ARROWHEADjTACKgScVERTICAL_LINEmOICINGhYANG_DEPARTING_TONE_MARKxIN_DEPARTING_TONE_MARK
    zlULO_TWO_SUMmNEY_BAGdWITH_WINGSl-MOUTH_FACEnGOLIAN_BIRGAa_WITH_DOUBLE_ORNAMENTpORNAMENTtCOLON
    dMMAfDIGIT_EIGHTfFIVEdOUReNINEeONEdSEVENeIXdTHREEeWOdZEROjOUBLE_BIRGA_WITH_ORNAMENTzbELLIPSIS
    iFOUR_DOTSiREE_VARIATION_SELECTOR_FOUReONEdTHREEeWOzbULL_STOPjINVERTED_BIRGA
    a_WITH_DOUBLE_ORNAMENTzkLETTER_AaLI_GALI_AaHbNUSVARA_ONEmBALUDAgCAcDAaGALGAfMARUfDAdHALF_UbYAhI
    aNVERTED_UBADAMAqKAcNGAcNAdPAbHAdSSAdTAbHREE_BALUDAlTAbHAeUBADAMAhVISARGA_ONElZAbHAlNGdBAcCHA
    a_WITH_TWO_DOTSpIdDAcEaEcFAcGAcHAAdIbJAcKAbHAdLAbHAdMAaNCHU_ALI_GALI_BHAdCAbYAdDDHAdHAdGHAdJHA
    dLHAdNGAdSSAdTAbTAdZAbHAmFAcIbKAcRAcZHAkNAcOaEcPAcQAcRAcSAbHAcIBE_ANGdCHAdDAcEbFAcGAaAdHAaAdIaY
    cJAcKAcPAcRAAdSHAdTAbSAdUaEcZAbHAiTAbODO_ALI_GALI_TAcZHAlNGdBAcCHAdDAbZAdEbGAaAdHAAdIbJAbIAdKA
    cLONG_VOWEL_SIGNpMAcNIAdOaEcPAcQAcTAbSAdUaEcWAcYAgSAdUaEcWAcYAcZAbHIcRAkMANCHU_COMMAfFULL_STOP
    qNIRUGUgROTATED_BIRGAa_WITH_DOUBLE_ORNAMENTpORNAMENTzcSIBE_SYLLABLE_BOUNDARY_MARKERzdWIRL_BIRGA
    a_WITH_DOUBLE_ORNAMENTpORNAMENTzTODO_SOFT_HYPHENpRIPLE_BIRGA_WITH_ORNAMENT
    zURNED_SWIRL_BIRGA_WITH_DOUBLE_ORNAMENTzoVOWEL_SEPARATORwKEYa_FACEiOGRAM_FOR_EARTHfYANGdINmRAIL
    eSTABLE_SYMBOLpOD_BUBBLEiN_CAKEeVIEWING_CEREMONYtSQUEbITOgTHER_CHRISTMASnOR_BOATeSCOOTER
    iIZED_WHEELCHAIRpWAYgUNT_FUJIfAINa_BICYCLISTjCABLEWAYiRAILWAYnSEa_FACEeTRAPhTHdVIE_CAMERAkYAI
    eRO_DANDAeIGIT_EIGHTfFIVEdOUReNINEeONEdSEVENeIXdTHREEeWOdZEROjOUBLE_DANDAmLETTER_AbBAcCHUdDAaI
    dEaAcHAIbOdKEAAEeHAIdOcLAaNdMAEMdIMdNGIcINdOaLbOcPAbHIdRIbOcSHIdTAbEKcHEAeWAcYO
    mUCH_GREATER-THANmLESS-THANmLTANI_LETTER_AbBAbHAdCAbHAdDAbDAbDAcHAdHAdEbGAbHAdHAcIbJAbJAdKAbHA
    dLAcMAcNAbNAcYAdPAbHAdRAbHAcRAdSAcTAbHAcTAbHAeUbVAcYAjSECTION_MARKqIMAPdPLE_MUSICAL_NOTES
    pICATION_SIGNa_IN_DOUBLE_CIRCLEnLEFT_HALF_CIRCLEqRIGHT_HALF_CIRCLErTRIANGLElWITH_DOT_ABOVE
    jUNDERBARsXlSETa_MULTIPLICATIONoUNIONmSHROOMfIC_FLAT_SIGNjNATURAL_SIGNmSHARP_SIGNlAL_KEYBOARD
    a_WITH_JACKStNOTEeSCOREeYMBOL_ARPEGGIATO_DOWNeUPnBEGIN_BEAMePHRASEgSLUReTIEiRACEbKETfEATH_MARK
    iVEbISa_RESTlC_CLEFfAESURAgIRCLE_X_NOTEHEADqLIMACUSfVISeUSTER_NOTEHEAD_BLACKfWHITEvODA
    cMBINING_ACCENTa-STACCATOoUGMENTATION_DOTqBENDeDOITcUBLE_TONGUElWN_BOWiFLAG-1b2b3b4b5eIP
    eHARMONICiLOUREfMARCATOa-STACCATOqRIPdSMEAReNAP_PIZZICATOnPRECHGESANG_STEMqTACCATISSIMOgOgEM
    eTENUTOfREMOLO-1b2b3hIPLE_TONGUEnUP_BOWnMON_TIMEkRESCENDOhOIXeUT_TIMEiDA_CAPOfL_SEGNOhMPa_ALL
    gSHED_BARLINEnECRESCENDOjGREE_SLASHlOUBLE_BARLINEhFLATeSHARPlRUM_CLEF-1b2lEIGHTH_NOTEeREST
    kND_BEAMeOF_STIMMEjPHRASEgSLUReTIEhF_CLEFa_OTTAVA_ALTAeBASSAsERMATAa_BELOWmINAL_BARLINE
    kGERED_TREMOLO-1b2b3qVE-LINE_STAFFoLAT_DOWNeUPgORTEdUR-LINE_STAFFkSTRING_FRETBOARDuUSA_BLACK
    fWHITEkG_CLEFa_OTTAVA_ALTAeBASSAsLISSANDO_DOWNeUPlRACE_NOTE_NO_SLASHiSLASHoEGORIAN_C_CLEF
    gF_CLEFqHALF_NOTEePEDAL_MARKkRESThUPTSTIMMElINVERTED_TURNnKIEVAN_C_CLEFgEIGHTH_NOTE_STEM_DOWN
    eUPsND_OF_PIECEmFINAL_NOTEjLAT_SIGNjHALF_NOTEjQUARTER_NOTE_STEM_DOWNeUPuRECITATIVE_MARK
    pWHOLE_NOTEqORONfLEFT_REPEAT_SIGNpONGAa_IMPERFECTA_RESTpPERFECTA_RESTtMAXIMAfEZZOeINIMAa_BLACK
    fRESTkOON_NOTEHEAD_BLACKfWHITEsULTI_RESTfPLE_MEASURE_RESTvNATURAL_DOWNeUPjEBENSTIMME
    kOTEHEAD_BLACKnULL_NOTEHEADnONE_HUNDRED_TWENTY-EIGHTH_NOTEeRESTzc-LINE_STAFFnRNAMENT_STROKE-1a0
    b1c2b3b4b5b6b7b8b9qTTAVA_ALTAeBASSAmPARENTHESIS_NOTEHEADtEDAL_MARKeUP_MARKlS_SUBPUNCTISnIANO
    eLUS_NOTEHEADmODATUSfRRECTUSa_FLEXUSqQUARTER_NOTEeRESTeTONE_FLATeSHARPqINDICESIMA_ALTAeBASSA
    sREPEAT_DOTSfED_FIGURE-1b2b3pVERSE_FINAL_BARLINEuIGHT_REPEAT_SIGNpNFORZANDOlSCANDICUSa_FLEXUS
    pEGNOdMIBREVIS_BLACKfRESTeWHITEmMINIMA_BLACKfRESTeWHITEpHARP_DOWNeUPgORT_BARLINEmINGLE_BARLINE
    mX-LINE_STAFFkSTRING_FRETBOARDrTEENTH_NOTEeRESTkY-FOURTH_NOTEeRESTqORIdQUARE_BbNOTEHEAD_BLACK
    fWHITEuUBITOgTEMPUS_IMPERFECTUM_CUM_PROLATIONE_IMPERFECTAa_DIMINUTION-1b2b3xPERFECTA
    zkPERFECTUM_CUM_PROLATIONE_IMPERFECTAkPERFECTAa_DIMINUTION-1zzcHIRTY-SECOND_NOTEeREST
    qREE-LINE_STAFFpORCULUSa_RESUPINUSrRaIANGLE_NOTEHEAD_DOWN_BLACKfWHITEkLEFT_BLACKfWHITE
    kRIGHT_BLACKfWHITElUP_BLACKfRIGHT_BLACKfWHITElWHITEs-ROUND_NOTEHEAD_DOWN_BLACKfWHITEziURN
    a_SLASHfUPgWO-LINE_STAFFoVIRGAeOID_NOTEHEADnWHOLE_NOTEeRESTjITH_FINGERNAILSqX_NOTEHEADkZpVScW
    bYANMAR_CONSONANT_SIGN_MEDIAL_HAcRAcWAcYAiON_MEDIAL_LAcMAcNAnSHAN_MEDIAL_WAzeDIGIT_EIGHTfFIVE
    dOUReNINEeONEdSEVENeIXdTHREEeWOdZEROkLETTER_AaITON_RAhUcBAbHAdCAbHAdDAbDAbHAdHAdE
    aASTERN_PWO_KAREN_GHWAeNNAdYWAvGAbHAcREAT_SAiHAcIaIcJAbHAdKAbHAaMTI_CAbHAdDDAbHAdHAdFAcGAcHAbHA
    dJAbHAdLLAdNAbYAdRAcSAcTTAbHAeXAcZAjLAbLAdMAbON_BBAbEdEbJHAdNGAhNAbGAcNAbYAdYAdObPAbHAdRA
    bUMAI_PALAUNG_FAqSAbGAW_KAREN_SHAnHAaN_AbBAbHAdCAbHAdDAcFAcGAbHAdHAcJHAdKAbHAdNAbNAcYAdPHAdTHA
    dZAfWE_PALAUNG_CHAdSHApSAdTAaI_LAING_BAbHAdDAbDAbHAdHAdFAcGAbHAdJAbHAdLLAdNNAcYAmHAcTAbHAeUaU
    cVOCALIC_LaLcRaRkWAbESTERN_PWO_KAREN_PWAdTHAvYAiOGOGRAM_KHAMTI_HMcOAYdQN
    sMODIFIER_LETTER_KHAMTI_REDUPLICATIONuSHAN_REDUPLICATIONzjSHAN_DIGIT_EIGHTfFIVEdOUReNINEeONE
    dSEVENeIXdTHREEeWOdZEROoIGN_ANUSVARAhSATeDOT_BELOWjKHAMTI_TONE-1b3nLITTLE_SECTION
    oPAO_KAREN_TONEoRUMAI_PALAUNG_TONE-5uSECTIONgHAN_COUNCIL_EMPHATIC_TONEnTONE-2b3oSAWdTONE-2b3b5
    b6lTAI_LAING_TONE-2b5qVIRAMAeSARGAhWESTERN_PWO_KAREN_TONE-1b2b3b4b5zdYMBOL_AFOREMENTIONED
    nITON_EXCLAMATIONlONEdTWOjCOMPLETEDjGENITIVEiLOCATIVEiSHAN_EXCLAMATIONlONE
    pTAI_LAING_DIGIT_EIGHTfFIVEdOUReNINEeONEdSEVENeIXdTHREEeWOdZEROtONE_MARK_SGAW_KAREN_HATHI
    fKE_PHOzcVOWEL_SIGN_AAbIaTON_AaIiEa_ABOVEhGEBA_KAREN_ImIaIcKAYAH_EEcOEcUhMON_IIcOfSGAW_KAREN_EU
    mHAN_AAcEa_ABOVEhFINAL_YmTALL_AAhUaUcVOCALIC_LaLcRaRkWESTERN_PWO_KAREN_EUcUE
    zoN-ARY_CIRCLED_DOT_OPERATORmPLUS_OPERATORnTIMES_OPERATORvOPRODUCTjINTERSECTIONmLOGICAL_ANDdOR
    kPRODUCThSQUARE_INTERSECTION_OPERATORvUNION_OPERATORuUMMATIONjTIMES_OPERATORoUNION
    a_OPERATOR_WITH_DOTdPLUSyWHITE_VERTICAL_BARxABATAEAN_CRUCIFORM_NUMBER_FOURvLETTER_ALEPHeYIN
    eBETHeDALETHgFINAL_ALEPHfBETHeHEcKAPHeLAMEDHgMEMdNUNdSHINeYODHkGIMELfHEaTHeKAPHeLAMEDHgMEMdNUN
    dPEcQOPHeRESHeSADHEdMEKHfHINeTAWcETHeWAWdYODHeZAYINmNUMBER_FIVEdOUReONEa_HUNDREDlTENcHREEeWENTY
    eOrLAdIL_POLISHiRA_SIGNiKbME_BADGEiNDaINAGARI_HEADSTROKEkLETTER_AaAbIbUcBAbHAdCAbHAdDAbDAbHAdHA
    dEbGAbHAdHAcIaIcJAbHAdKAbHAdLAbLAdMAcNAbGAcNAcYAdObPAbHAdRAbRAdSAbHAcSAdTAbHAcTAbHAeUaUcVA
    bOCALIC_RaRkYAjSIGN_ANUSVARAhVAGRAHAiSIDDHAMhVIRAMAeSARGAmVOWEL_SIGN_AAbIbUcEbIaIcO
    bPRISHTHAMATRA_EpUaUcVOCALIC_RaRzgRROW_NO-BREAK_SPACEtTIONAL_DIGIT_SHAPESmPARKlUSEATED_FACE
    mZAR_AMULETlBHbSPdECKTIEfGATED_DOUBLE_VERTICAL_BAR_DOUBLE_RIGHT_TURNSTILEzuIVE_ACKNOWLEDGE
    lCIRCLED_DIGIT_ZEROkLATIN_CAPITAL_LETTER_AbBbCbDbEbFbGbHbIbJbKbLbMbNbObPbQbRbSbTbUbVbWbXbYbZ
    wNUMBER_EIGHTEENhLEVENgFIFTEENgOURTEENiNINETEENiSEVENTEENiIXTEENhTHIRTEENhWELVEdNTYnSQUARE
    gTRIANGLEqDIAGONAL_CROSSfDIAMONDhMIDDLE_RIGHT_TO_LOWER_CENTREzmSQUARED_ABcCROSS_MARKkIC
    cLATIN_CAPITAL_LETTER_AbBbCbDbEbFbGbHbIbJbKbLbMbNbObPbQbRbSbTbUbVbWbXbYbZwPAcQUESTION_MARKnSA
    cWCrITHER_A_SUBSET_OF_NOR_EQUAL_TOuPERSET_OF_NOR_EQUAL_TOzPPROXIMATELY_NOR_ACTUALLY_EQUAL_TO
    zkGREATER-THAN_NOR_EQUAL_TOfIVALENT_TOnLESS-THANzbLESS-THAN_NOR_EQUAL_TOfIVALENT_TO
    nGREATER-THANzhLbPTUNEa_FORM_TWOoRD_FACEhSSUSdT_WITH_EGGSkING_DOLLSlUTERcRAL_CHESS_BISHOP
    a_ROTATED_NINETY_DEGREESoTWO_HUNDRED_SEVENTY_DEGREESzrEQUIHOPPERa_ROTATED_NINETY_DEGREESziKING
    a_ROTATED_NINETY_DEGREESoTWO_HUNDRED_SEVENTY_DEGREESzoNIGHTa_ROTATED_FORTY-FIVE_DEGREES
    sNINETY_DEGREESoONE_HUNDRED_THIRTY-FIVE_DEGREESzgTHREE_HUNDRED_FIFTEEN_DEGREES
    zdWO_HUNDRED_SEVENTY_DEGREESpTWENTY-FIVE_DEGREESzvPAWNa_ROTATED_NINETY_DEGREES
    oTWO_HUNDRED_SEVENTY_DEGREESzpQUEENa_ROTATED_NINETY_DEGREESoTWO_HUNDRED_SEVENTY_DEGREESzqROOK
    a_ROTATED_NINETY_DEGREESoTWO_HUNDRED_SEVENTY_DEGREESzpTURNED_BISHOPgKINGdNIGHTgPAWNeQUEENfROOK
    rFACEkW_LINEeMOON_SYMBOLgWITH_FACEoSHEQEL_SIGNlTAI_LUE_DIGIT_EIGHTfFIVEdOUReNINEeONEdSEVENeIX
    dTHREEeWOdZEROkLETTER_FINAL_BbDbKbMbNaGcVhHIGH_BAcDAcFAcHAcKAbVAdLAcMAcNAbGAdPAbHAdQAcSAbUAdTA
    bHAcSAdVAcXAbVAdYAhLOW_BAcDAcFAcHAcKAbVAdLAcMAcNAbGAdPAbHAdQAcSAbUAdTAbHAcSAdVAcXAbVAdYA
    nSIGN_LAEaVjTHAM_DIGIT_ONEnONE_MARK-1b2lVOWEL_SIGN_AAaYcEbYcEbIIbYcOaAaYcYcUaEaYcUbY
    cVOWEL_SHORTENERzkA_ABBREVIATION_SIGNrCOMMAfDANDAeIGIT_EIGHTfFIVEdOUReNINEeONEdSEVENeIXdTHREE
    eWOdZEROjOUBLE_COMMAfDANDAmGAP_FILLERkINSERTION_SIGNoLETTER_AaAbIbUcBAbHAdCAbHAdDAbDAbHAdHAdE
    bGAbHAdHAcIaIcJAbHAdKAbHAdLAbHAdMAbHAdNAbGAbHAdHAcNAcYAbHAeObPAbHAdRAbHAdSAbHAcSAdTAbHAcTAbHAeU
    aUcVEDIC_ANUSVARAnOCALIC_LaLcRaRkWAcYAjOMcPLACEHOLDER_MARKqSANDHI_MARKkIDDHIeGN_ANUSVARA
    hVAGRAHAiCANDRABINDUlFINAL_ANUSVARAoJIHVAMULIYAlNUKTAfUPADHMANIYAlVIRAMAeSARGAmVOWEL_SIGN_AAbI
    bUcEbIaIcObUaUcVOCALIC_LaLcRaRxLINE_LEFTeRIGHTkSPAPERhXT_LINEePAGEiIGHT_WITH_STARSoNJA
    eKO_COMBINING_DOUBLE_DOT_ABOVEqLONG_DESCENDING_TONEpHIGH_TONEjLOW_TONEiRISING_TONE
    qNASALIZATION_MARKrSHORT_HIGH_TONEjLOW_TONEiRISING_TONEyMAfDANTAYALANjIGIT_EIGHTfFIVEdOUReNINE
    eONEdSEVENeIXdTHREEeWOdZEROjOROME_SIGNlEXCLAMATION_MARKqHIGH_TONE_APOSTROPHEuLAJANYALANjETTER_A
    bBAcCHAdDAaGBASINNAkEaEcFAcGBAdHAcIbJAbONA_CHAdJAcRAhKAcLAcMAcNaAa_WOLOSOiYAa_WOLOSOkOaOcPAcRA
    bRAdSAcTAcUbWAcYAiOW_TONE_APOSTROPHEtSYMBOL_GBAKURUNENkOO_DENNENqTAMAN_SIGNnLbNBSPeO_BICYCLES
    hREAK_HEREkENTRYa_SIGNkMOBILE_PHONESnONE_UNDER_EIGHTEEN_SYMBOLzPEDESTRIANSkIRACYgSMOKING_SYMBOL
    p-BREAK_SPACEmMINAL_DIGIT_SHAPESqSMA_SIGNkN-BREAKING_HYPHENpPOTABLE_WATER_SYMBOLvFORKINGiR
    aDIC_MARK_SIGNnMAL_SUBGROUP_OFa_OR_EQUAL_TOzcTH_EAST_AND_SOUTH_WEST_ARROWtRROW
    a_AND_SOUTH_EAST_ARROWuCROSSING_NORTH_WEST_ARROWqSOUTH_EAST_ARROWzWITH_HOOKpBLACK_ARROW
    lDOUBLE_ARROWmPOINTING_BUDdLEAFeVINE_LEAFsSANS-SERIF_ARROWqTRIANGLE-HEADED_ARROWa_TO_BAR
    zdWHITE_ARROWqINDIC_FRACTION_ONE_EIGHTHgHALFeQUARTERhSIXTEENTHnTHREE_QUARTERSiSIXTEENTHS
    zPLACEHOLDER_MARKqQUANTITY_MARKkRTER_MARKmRUPEE_MARKqWEST_AND_SOUTH_EAST_ARROWtRROW
    a_AND_NORTH_EAST_ARROWuCROSSING_NORTH_EAST_ARROWzTO_CORNERgLONG_BARlWITH_HOOKpBLACK_ARROW
    lDOUBLE_ARROWmPOINTING_BUDdLEAFeVINE_LEAFsSANS-SERIF_ARROWqTRIANGLE-HEADED_ARROWa_TO_BAR
    zdWHITE_ARROWrEAST-POINTING_AIRPLANEzSEcT_A_SUBSET_OFhPERSET_OFmLMOST_EQUAL_TOoN_ELEMENT_OF
    mSYMPTOTICALLY_EQUAL_TOxCHECK_MARKkEQUAL_TOfIVALENT_TOnGREATER-THANmIDENTICAL_TOmLESS-THAN
    jNORMAL_SUBGROUP_OFa_OR_EQUAL_TOzfPARALLEL_TOlSIGNdQUARE_IMAGE_OF_OR_EQUAL_TO
    uORIGINAL_OF_OR_EQUAL_TOzfTILDEeRUEfCHED_LEFT_SEMICIRCLE_WITH_THREE_DOTS
    zfOWER_RIGHT-SHADOWED_WHITE_RIGHTWARDS_ARROWzsRIGHT_SEMICIRCLE_WITH_THREE_DOTS
    zhUPPER_RIGHT-SHADOWED_WHITE_RIGHTWARDS_ARROWzxEa_PADbGEfBOOKa_WITH_DECORATIVE_COVERzeULaL
    cMBER_EIGHTEEN_FULL_STOPrLEVEN_FULL_STOPqFIFTEEN_FULL_STOPqOURTEEN_FULL_STOPsNINETEEN_FULL_STOP
    sSEVENTEEN_FULL_STOPsIGNcXTEEN_FULL_STOPrTEN_FULL_STOPmHIRTEEN_FULL_STOPrWELVE_FULL_STOP
    nNTY_FULL_STOPuERO_SIGNjSHU_CHARACTER-1B170b1b2b3b4b5b6b7b8b9bAbBbCbDbEbFc80b1b2b3b4b5b6b7b8b9
    bAbBbCbDbEbFc90b1b2b3b4b5b6b7b8b9bAbBbCbDbEbFcA0b1b2b3b4b5b6b7b8b9bAbBbCbDbEbFcB0b1b2b3b4b5b6b7
    b8b9bAbBbCbDbEbFcC0b1b2b3b4b5b6b7b8b9bAbBbCbDbEbFcD0b1b2b3b4b5b6b7b8b9bAbBbCbDbEbFcE0b1b2b3b4b5
    b6b7b8b9bAbBbCbDbEbFcF0b1b2b3b4b5b6b7b8b9bAbBbCbDbEbFd200b1b2b3b4b5b6b7b8b9bAbBbCbDbEbFc10b1b2
    b3b4b5b6b7b8b9bAbBbCbDbEbFc20b1b2b3b4b5b6b7b8b9bAbBbCbDbEbFc30b1b2b3b4b5b6b7b8b9bAbBbCbDbEbFc40
    b1b2b3b4b5b6b7b8b9bAbBbCbDbEbFc50b1b2b3b4b5b6b7b8b9bAbBbCbDbEbFc60b1b2b3b4b5b6b7b8b9bAbBbCbDbE
    bFc70b1b2b3b4b5b6b7b8b9bAbBbCbDbEbFc80b1b2b3b4b5b6b7b8b9bAbBbCbDbEbFc90b1b2b3b4b5b6b7b8b9bAbBbC
    bDbEbFcA0b1b2b3b4b5b6b7b8b9bAbBbCbDbEbFcB0b1b2b3b4b5b6b7b8b9bAbBbCbDbEbFcC0b1b2b3b4b5b6b7b8b9bA
    bBbCbDbEbFcD0b1b2b3b4b5b6b7b8b9bAbBbCbDbEbFcE0b1b2b3b4b5b6b7b8b9bAbBbCbDbEbFcF0b1b2b3b4b5b6b7b8
    b9bAbBpITERATION_MARKsT_AND_BOLTlYIAKENG_PUACHUE_HMONG_CIRCLED_CAkDIGIT_EIGHTfFIVEdOUReNINEeONE
    dSEVENeIXdTHREEeWOdZEROkLETTER_AaAcCAcDAbLAdEaEcFAcGAcHAaHdIbKAcLAcMAbLAdNAbCAcKAcPAbLAdQAcRA
    cTAbSAcXAdYAdOaOcPAbLAdQAcRAbRAdSAcTAbSAcXAdUbVAcWbXAbYAdYAcZAiOGOGRAM_NYAJnSIGN_FOR_ANIMAL
    gINVERTEBRATEmLOCATIONiPERSONgTHINGjXW_XWjYLLABLE_LENGTHENERtTONE-BbDbGbJbMbSbV
    zeOBJECT_REPLACEMENT_CHARACTERzbLIQUE_ANGLE_OPENING_DOWNeUPqHYPHENmSERVER_EYE_SYMBOL
    sCR_AMOUNT_OF_CHECKpBELT_BUCKLEkOW_TIEgRANCH_BANK_IDENTIFICATIONzbCHAIReUSTOMER_ACCOUNT_NUMBER
    xDASHdOUBLE_BACKSLASHqFORKeHOOKeINVERTED_FORKpTAGONAL_SIGNlOPUSgDENdFFICE_BUILDING
    oGHAM_FEATHER_MARKmLETTER_AILMeBEITHfCEIRTeOLLeDAIReEABHADHfDHADHfMHANCHOLLlFEARNfGORTeIFIN
    dODHADHhLUISeMUINeNGEADALgIONeONNcRcPEITHfRUISeSAILdTRAIFgTINNEfUATHdILLEANNhR
    jREVERSED_FEATHER_MARKvSPACE_MARKoONEKfHM_SIGNhIL_DRUMhK_HAND_SIGNlL_CHIKI_AHADeDIGIT_EIGHT
    fFIVEdOUReNINEeONEdSEVENeIXdTHREEeWOdZEROkGAAHLAA_TTUDDAAGqLETTER_AAJbKbMbWcGbLbNGcTcEDDcNbPbRR
    dIHbNYcRbScLAaAcEbIbObUcOBbHbTTcVcUCbDbNNcYjMU_TTUDDAGi-GAAHLAA_TTUDDAAGtPHAARKAA
    hUNCTUATION_DOUBLE_MUCAADnMUCAADsRELAAmD_CHINESE_HOOK_MARKjITERATION_MARK
    wHUNGARIAN_CAPITAL_LETTER_AaAbKbMBcNDdCLOSE_EhEaBbCaHbScDbEbFbGaYcHbJbKbLaYcMaPcNaCbT
    a-SHAPED_SIGNnYcPbRbSaZcTaYcVbZaSdIaIcNIKOLSBURG_OEcUEnOaEEcOcRUDIMENTA_OEcUEmSHORT_ERiUaNKcSbU
    rNUMBER_FIFTYdVEeONEa_HUNDREDhTHOUSANDmTENkSMALL_LETTER_AaAbKbMBcNDdCLOSE_EhEaBbCaHbScDbEbFbGaY
    cHbJbKbLaYcMaPcNaCbTa-SHAPED_SIGNnYcPbRbSaZcTaYcVbZaSdIaIcNIKOLSBURG_OEcUEnOaEEcOcRUDIMENTA_OE
    cUEmSHORT_ERiUaNKcSbUzITALIC_LETTER_AbBEcCHEdDEcEaFbKScLbMbNbRaScSaHbSdHEcIaIcKAbEbHEcU
    cNORTHERN_TSEmObPEbHEdSHEcOUTHERN_TSEmTEbHEdUaUcVEcYEcZEjNUMERAL_FIFTYdVEeONEdTENsKEY
    dNORTH_ARABIAN_LETTER_AINcLEFeBEHdDADbLdES-1b2b3eFEHdGEEMdHAINfHAHcEHdKAFcHAHeLAMdMEEMeNOONeQAF
    dREHdSADdTAHcEHcHALcEHeWAWdYEHdZAHbINlNUMBER_ONEdTENcWENTYzcPERMIC_LETTER_ANcBURdCHERYfDOIcZHOI
    dITAfEaFcGAIdHAcIaAbEcKOKEeLEIdMENOEfNENOEfOaOcPEEIeREIdSHCHOOIfOOIeIIdTAIcSIUeUbVERcOOIeYAaT
    cERaIbUdRYcUcZATAdHOIpSIAN_NUMBER_HUNDREDhONEdTENcWENTYeOkSIGN_AaURAMAZDAAa-2cHAmBAaGAdUUMISH
    hCAcDAaHYAAUSHa-2kIbUcFAcGAbUcHAcIbJAbIcKAbUcLAcMAbIbUcNAbUcPAcRAbUcSAbHAcSAdTAbHAcUcUbVAbIcXA
    bSHAAYATHIYAmYAcZAhWORD_DIVIDERqONAL_COMPUTERrSOGDIAN_FRACTION_ONE_HALFrLETTER_ALEPH
    dTERNATE_AYINnYINeBETHeFINAL_ALEPHfBETHeHEcNUNa_WITH_VERTICAL_TAILwSADHEa_WITH_VERTICAL_TAIL
    yTAWa_WITH_VERTICAL_TAILzdGIMELfHEaTHeKAPHeLAMEDHgMEMdNUNdPEcRESH-AYIN-DALETHqSADHEdMEKHfHIN
    eTAWdWAWdYODHeZAYINlIGATURE_AYIN-DALETHuNUMBER_FIVEdOUReONEa_HUNDREDlTENcHIRTYeREEeWENTYeO
    qUTH_ARABIAN_LETTER_ALEFdYNdBETHeDALETHfHADHEdLETHhFEcGHAYNeIMELfHEaTHeKAPHdHETHfLAMEDHgMEMdNUN
    dQOPHeRESHeSADHEdMEKHeTcHINeTAWcETHdHAWcETHfWAWdYODHeZAYNlNUMBER_FIFTYfONEhERIC_INDICATOR
    zgTURKIC_LETTER_ORKHON_AaBbDbEBbDbGbKbLbNbRbSbTbYcGbLbNbQbRbSaHcTbYcBASHeECbLTcMbNCbGbTbYcPbSH
    cZcIaCbQcOaEaKcPbQbTjYENISEI_AaBbDbEaBbGbKbNaGcTbYcGbLbNGcQbRbSHcTbYcEaCbNCbTbYcSHcZcIaQcOEaKcQ
    yUYGHUR_COMBINING_DOT_ABOVEfBELOWjTWO_DOTS_ABOVEfBELOWyLETTER_ALEPHfBETHeFINAL_HETHkGIMEL-HETH
    kKAPHeLAMEDHfESHeMEMdNUNdPEcRESHeSADHEdMEKHfHINeTAWdWAWdYODHeZAYINmPUNCTUATION_BARdFOUR_DOTS
    jTWO_BARSeDOTSzdER_ADULTfMANdWOMANjIVEeM_SYMBOL
    iN_WITH_EXCLAMATION_MARK_WITH_LEFT_RIGHT_ARROW_ABOVEzzCOMING_AUTOMOBILEkBUSdFIRE_ENGINE
    lPOLICE_CARkTAXIlE_BUTTON_MOUSEmDOT_LEADERgOVER_TWO_DOTS_PUNCTUATIONzf-PIECE_SWIMSUITqION
    ePEN_BOOKcXdCENTRE_ASTERISKiBLACK_STARkCROSSfTEARDROP-SPOKED_ASTERISKzgFILE_FOLDERkOLDER
    gHANDS_SIGNkLOCKeMAILBOX_WITH_LOWERED_FLAGmRAISED_FLAGySUBSETePERSET
    j-CIRCUIT-OUTPUT_H-TYPE_SYMBOLnL-TYPE_SYMBOLzdOUTLINED_RIGHTWARDS_ARROWzcRATING_SYSTEM_COMMAND
    wHIUCHUShPOSITIONiTICAL_DISCa_ICONnON_KEYjR_WITH_DOT_INSIDEqANGE_BOOKeHEARThUTANhIGINAL_OF
    iYA_AI_LENGTH_MARKnU_LENGTH_MARKoDIGIT_EIGHTfFIVEdOUReNINEeONEdSEVENeIXdTHREEeWOdZERO
    kFRACTION_ONE_EIGHTHgHALFeQUARTERhSIXTEENTHnTHREE_QUARTERSiSIXTEENTHSzISSHARgLETTER_AaAbIbUcBA
    bHAdCAbHAdDAbDAbHAdHAdEbGAbHAdHAcIaIcJAbHAdKAbHAdLAbLAdMAcNAbGAcNAcYAdObPAbHAdRAbHAcRAdSAbHAcSA
    dTAbHAcTAbHAeUaUcVAbOCALIC_LaLcRaRkWAcYAbYAkSIGN_ANUSVARAhVAGRAHAiCANDRABINDUlNUKTAfOVERLINE
    iVIRAMAeSARGAmVOWEL_SIGN_AAbIbUcEbIaIcObUaUcVOCALIC_LaLcRaRzNATE_LEFT_PARENTHESIS
    qRIGHT_PARENTHESISwTHODOX_CROSSnSAGE_CAPITAL_LETTER_AaHbIaNdBRAdCHAdDHAdEaHCHAdKAcPAcTAbSAeIN
    dGHAdHAbYAdIbKAbHAcYAdLAcMAcNAcOaINdPAcSAbHAdTAbSAbHAeUbWAcZAbHAsSMALL_LETTER_AaHbIaNdBRAdCHA
    dDHAdEaHCHAdKAcPAcTAbSAeINdGHAdHAbYAdIbKAbHAcYAdLAcMAcNAcOaINdPAcSAbHAdTAbSAbHAeUbWAcZAbHAuC
    bMANYA_DIGIT_EIGHTfFIVEdOUReNINEeONEdSEVENeIXdTHREEeWOdZEROkLETTER_AaAbLEFeBAcCAYNeDEELdHAdEaE
    cFAcGAcHAcIbJAcKAAFdHAdLAANeMIINeNUUNeOaOcQAAFeRAcSAbHIINfTAcUbWAWdXAcYAqTTER
    cOMAN_SIYAQ_ALTERNATE_NUMBER_EIGHTfFIVEdOURa_HUNDREDmNINEeSEVENeIXa_HUNDREDlTENa_THOUSANDlHREE
    eWOa_THOUSANDzeFRACTION_ONE_HALFeSIXTHsMARRATANiNUMBER_EIGHTa_HUNDREDhTHOUSANDjYa_THOUSAND
    pFIFTYa_THOUSANDmVEa_HUNDREDhTHOUSANDmORTYa_THOUSANDmURa_HUNDREDhTHOUSANDnNINEa_HUNDRED
    hTHOUSANDjTYa_THOUSANDpONEa_HUNDREDhTHOUSANDmSEVENa_HUNDREDhTHOUSANDjTYa_THOUSANDpIXa_HUNDRED
    hTHOUSANDjTYa_THOUSANDoTENa_THOUSANDlHIRTYa_THOUSANDnREEa_HUNDREDhTHOUSANDnWENTYa_THOUSANDnO
    a_HUNDREDhTHOUSANDzhUNCE_SIGNiTBOX_TRAYiLINED_BLACK_STARkGREEK_CROSSlLATIN_CROSSlWHITE_STAR
    sVERHEATED_FACElLAPaPING_BLACK_SQUARESnWHITE_AND_BLACK_SQUARESrSQUARESuINEhWLcXbYSTERgPACKAGEfD
    aDING_CHARACTERpGEa_FACING_UPjWITH_CIRCLED_TEXTlURLkRbScODAeHAWH_HMONG_CLAN_SIGN_FAJdHAMbWJ
    eKHABdOOcWMdLAUJdISdMUASePHABeTHOJdSABcHEEJeWBeVAJcWJdXYOOJfYAJcEEGnONSONANT_AUcCAUcHAUeHAUcLAU
    dNAUeLAUdMAUdNAUcCHAUeKAUdLAUdTHAUdSAUfPLHAUfQHAUeRAUdVAUdXAUdYAUnDIGIT_EIGHTfFIVEdOUReNINEeONE
    dSEVENeIXdTHREEeWOdZEROkMARK_CIM_HOMdKEScHAVeSObUAMeTAUMdUBmNUMBER_HUNDRED_MILLIONSjSiMILLIONS
    iTEN_BILLIONSiTHOUSANDSkSdRILLIONSqSIGN_AVcCIM_CHEEMeUAM_TSHOOJlHAIS_LUS_NTOG_NTOGsNRES_TOS
    iPUB_DAWBiTSOV_ROGhXWVa_CHWVnHLIcNUBeIB_YAMgLOSdMEEJ_SUABeTSEEBjUSdNQIGdTUJeTAUcHIRD-STAGE_HLI
    oXHEEJ_CEEVlVOS_FEEMeLUBdNRUAeSEEVeTHIABdOMdSHAB_CEEBoXAUSdIABdYEEM_FAIBeNTXIVfRHOdTOVhOO
    eZWJ_THAJnVOWEL_KAABbVcBbIBbVcUBbVcVbWBbVdEBbEBbVcVcIABbVcBbVcOBbOBbVcVcUABbVcBbVcWBbVuLLAS
    dM_BRANCHgDOWN_HANDjTREEeUP_HANDiS_UP_TOGETHERnYRENE_LEFT-POINTING_FLEURONtTTER_ALEPHeYINeBETH
    eDALETHgFINAL_NUNjGIMELfHEaTHeKAPHeLAMEDHgMEMdNUNdPEcQOPHeRESHeSADHEdMEKHfHINeTAWcETHeWAWdYODH
    eZAYINmNUMBER_FIVEdOUReONEdTENcHREEeWENTYeOkRIGHT-POINTING_FLEURONzfNCAKESfDA_FACEiPERCLIP
    hRACHUTEfGRAPH_SEPARATORkOScUS_MARKmLLEL_TOcWITH_HORIZONTAL_STROKErTILDE_OPERATOR
    zENTHESIZED_DIGIT_EIGHTfFIVEdOUReNINEeONEdSEVENeIXdTHREEeWOjHANGUL_CHIEUCHa_AiIEUCa_AbUhHIEUH
    a_AhIEUNGa_AhKHIEUKHa_AiIYEOKa_AiMIEUMa_AhNIEUNa_AhPHIEUPHa_AiIEUPa_AhRIEULa_AhSIOSa_AgTHIEUTH
    a_AiIKEUTa_ApIDEOGRAPH_ALLIANCEiCALLdONGRATULATIONoEARTHeIGHTeNTERPRISEkFESTIVALhINANCIALhREcVE
    dOUReHAVEeLABORfMETALeOONeNAMEdINEeONEdREACHdPRESENThSOURCEfTeSELFcVENeIXcOCIETYgPECIALgTOCK
    dUDYeUNbPERVISEjTENcHREEeWOdWATEReOODoKOREAN_CHARACTER_O_HUdJEONwLATIN_CAPITAL_LETTER_AbBbCbDbE
    bFbGbHbIbJbKbLbMbNbObPbQbRbSbTbUbVbWbXbYbZqSMALL_LETTER_AbBbCbDbEbFbGbHbIbJbKbLbMbNbObPbQbRbSbT
    bUbVbWbXbYbZuNUMBER_EIGHTEENhLEVENgFIFTEENgOURTEENiNINETEENiSEVENTEENiIXTEENhTENcHIRTEENhWELVE
    dNTYyROTdT_ALTERNATION_MARKrIAL_DIFFERENTIALmLINE_BACKWARDiDOWNeFORWARDhUP
    iLY-RECYCLED_PAPER_SYMBOLzcNERSHIP_SIGNmY_POPPERkSSED_SYMBOLiNGER_SHIP
    kIVE-PULL-DOWN-OUTPUT_SYMBOLsUP-OUTPUT_SYMBOLzPORT_CONTROLoU_CIN_HAU_GLOTTAL_STOPa_FINAL
    fVARIANTuLETTER_AbBAcCAbHAdDAcEbFAbINAL_KbLbMbNaGcPbTbWbYhGAcHAcIaAcKAbHAdLAcMAcNAbGAdObPAbHA
    dRAcSAcTAbHAdUaAcVAcZAiOW-FALLING_TONEa_FINALfLONGa_FINALzcMID-LEVEL_TONEa_FINALfLONG_FINAL
    zRISING_TONEa_FINALfLONGa_FINALwSANDHI_GLOTTAL_STOPa_FINALsTONEa_FINALfLONGa_FINALzhW_PRINTSjDF
    bIcEACE_SYMBOLiHbOCKeNUTSeRcDESTRIANiN_OVER_STAMPED_ENVELOPEwCILdGUINeSIVE_FACEjTAGRAM
    hOPLE_HUGGINGmR_MILLE_SIGNkSIGNeTEN_THOUSAND_SIGNsCENT_SIGNjFORMING_ARTSmMANENT_PAPER_SIGN
    rPENDICULARa_WITH_SrSEVERING_FACEmON_BOWING_DEEPLYnCLIMBINGiDOING_CARTWHEELpFROWNING
    iIN_LOTUS_POSITIONoSTEAMY_ROOMoRAISING_BOTH_HANDS_IN_CELEBRATIONziWITH_BALLdLOND_HAIRkCROWN
    fFOLDED_HANDSmHEADSCARFjPOUTING_FACEsAL_COMPUTERnPECTIVEjSETA_SIGNiO_SIGNhTRI_DISH
    jHAGS-PA_DOUBLE_HEAD_MARKqLETTER_AaLTERNATE_YAlSPIRATED_FAmBAcCAaNDRABINDUkHAdDAbDAcZAdEaEcFA
    cGAbGAdHAcIbJAcKAbHAdLAcMAcNAbGAcNAcYAdObPAbHAdQAcRAcSAbHAcMALL_AhTAbHAcSAbHAdTAbHAeUbVOICED_HA
    eLESS_SHAnWAcXAcYAcZAbHAkMARK_DOUBLE_SHADlSHADjSINGLE_HEAD_MARKpUBJOINED_LETTER_RAcWAcYA
    rPERFIXED_LETTER_RAzbISTOS_DISC_SIGN_ARROWfBEEaHIVEgOOMERANGhWcULLS_LEGjCAPTIVEfRPENTRY_PLANEnT
    cHILDeLUBdOLUMNeMBaINING_OBLIQUE_STROKEyDOLIUMeVEeEAGLEfFLUTEfGAUNTLEThRATERgHELMETfIDEdORNeLID
    bLYeMANACLESgTTOCKhOX_BACKhPAPYRUSgEDESTRIANjLANE_TREEiUMED_HEADlRAMcOSETTEhSAWcHIELDdPdLING
    eMALL_AXEiTRAINERiTATTOOED_HEADmIARAeUNNYfVINEeWAVY_BANDiOMANwILIPPINE_DOUBLE_PUNCTUATION
    sSINGLE_PUNCTUATIONzcOENICIAN_LETTER_AINcLFdBETdDELTeGAMLeHEaTdKAFdLAMDeMEMdNUNdPEcQOFdROSH
    eSADEdEMKdHINeTAUcETdWAUdYODdZAIkNUMBER_ONEa_HUNDREDlTENcHREEeWENTYeOkWORD_SEPARATORwLUSfICK
    aUP_TRUCKkEbGa_FACEeNOSEgLCROW_SIGNjE_OF_POOiLcNATAdCHED_FINGERSkING_HANDkE_DECORATIONlAPPLE
    gWHEEL_STARlSCESdTOLeTCHFORKa_WITH_TEE_TOPvLACARDdE_OF_INTEREST_SIGNnWORSHIPnNCK_CONSTANT
    a_OVER_TWO_PIyYGROUND_SLIDEmING_CARD_ACE_OF_CLUBSfDIAMONDSiHEARTSgSPADESnBACKdLACK_JOKER
    lEIGHT_OF_CLUBSfDIAMONDSiHEARTSgSPADESpFIVE_OF_CLUBSfDIAMONDSiHEARTSgSPADESnOOLcUR_OF_CLUBS
    fDIAMONDSiHEARTSgSPADESoJACK_OF_CLUBSfDIAMONDSiHEARTSgSPADESoKING_OF_CLUBSfDIAMONDSiHEARTS
    gSPADESnNIGHT_OF_CLUBSfDIAMONDSiHEARTSgSPADESqNINE_OF_CLUBSfDIAMONDSiHEARTSgSPADES
    oQUEEN_OF_CLUBSfDIAMONDSiHEARTSgSPADESpRED_JOKERjSEVEN_OF_CLUBSfDIAMONDSiHEARTSgSPADES
    oIX_OF_CLUBSfDIAMONDSiHEARTSgSPADESnTEN_OF_CLUBSfDIAMONDSiHEARTSgSPADESmHREE_OF_CLUBSfDIAMONDS
    iHEARTSgSPADESoRUMP-1a0b1b2b3b4b5b6b7b8b9c2a0b1c3b4b5b6b7b8b9gWO_OF_CLUBSfDIAMONDSiHEARTS
    gSPADESnWHITE_JOKERwDbUaNGEReS_SIGNa_ABOVE_EQUALS_SIGNrIN_LEFT_HALF_CIRCLEqRIGHT_HALF_CIRCLE
    rTRIANGLElWITH_BLACK_TRIANGLEoCIRCUMFLEX_ACCENT_ABOVExDOT_BELOWjSMALL_CIRCLE_ABOVErUBSCRIPT_TWO
    nTILDE_ABOVEfBELOWw-MINUS_SIGNmTOa_FORM_FIVEdOUReTHREEeWOnMbOCKET_CALCULATORpLICE_CAR
    aS_REVOLVING_LIGHTuOFFICERmODLEeP_DIRECTIONAL_FORMATTINGkISOLATEuCORNfRTABLE_STEREOnSEIDON
    fITION_INDICATORpTAL_HORNeMARKa_FACEmBOXfT_OF_FOODiABLE_WATER_SYMBOLqTOdTED_PLANTkUCHcLTRY_LEG
    iND_SIGNhRING_LIQUIDlTING_CAT_FACEiFACEkWER_ON_SYMBOLh-OFF_SYMBOLnSLEEP_SYMBOLlYMBOL
    lRAYER_BEADSkECEDESa_ABOVE_ALMOST_EQUAL_TOpEQUALS_SIGNlNOT_ALMOST_EQUAL_TOpEQUAL_TO
    mSINGLE-LINE_EQUALS_SIGNlNOT_EQUAL_TOzfBUT_NOT_EQUIVALENT_TOvOR_EQUAL_TOfIVALENT_TO
    qUNDER_RELATIONuGNANT_MANdPERSONgWOMANlSCRIPTION_TAKEnENTATION_FORM_FOR_VERTICAL_COLONdMMA
    fEM_DASHgN_DASHgXCLAMATION_MARKqHORIZONTAL_ELLIPSIStIDEOGRAPHIC_COMMAfFULL_STOP
    vLEFT_ANGLE_BRACKETnBLACK_LENTICULAR_BRACKETyCORNER_BRACKETnURLY_BRACKETnDOUBLE_ANGLE_BRACKET
    uPARENTHESISlSQUARE_BRACKEToTORTOISE_SHELL_BRACKETwWHITE_CORNER_BRACKEToLENTICULAR_BRACKET
    zdOW_LINEiQUESTION_MARKnRIGHT_ANGLE_BRACKETnBLACK_LENTICULAR_BRACKETyCORNER_BRACKET
    nURLY_BRACKETnDOUBLE_ANGLE_BRACKETuPARENTHESISlSQUARE_BRACKEToTORTOISE_SHELL_BRACKET
    wWHITE_CORNER_BRACKEToLENTICULAR_BRACKETeKCETzfSEMICOLONjTWO_DOT_LEADERoWAVY_LOW_LINEzqTZEL
    eVIOUS_PAGElIMEcNCEaSSeT_SCREEN_SYMBOLoERa_ICONjVACY_MESSAGEkTE_USE_ONEdTWOe-1b2lOBING_CANE
    jHIBITED_SIGNmJECTIVEhPERTY_LINEjORTIONaAL_TOmSERPINAjSALTER_PAHLAVI_FOUR_DOTS_WITH_CROSSfDOT
    sLETTER_ALEPHfBETHeDALETHgGIMELfHEaTHeKAPHeLAMEDHgMEM-QOPHiNUNdPEcSADHEdMEKHfHINeTAW
    dWAW-AYIN-RESHnYODHeZAYINmNUMBER_FOUReONEa_HUNDREDlTENcHREEeWENTYeOkSECTION_MARK
    mTURNED_SECTION_MARKzjU1b2bBLIC_ADDRESS_LOUDSPEAKERyNCTUATION_SPACElS_ELEVATUS_MARKtRPLE_HEART
    jSEdSHPINfT_LITTER_IN_ITS_PLACE_SYMBOLzfQUADRANT_LOWER_LEFTeRIGHTlUPPER_LEFT
    a_AND_LOWER_LEFT_AND_LOWER_RIGHTuRIGHTlUPPER_RIGHT_AND_LOWER_LEFTeRIGHTzlRIGHTa_AND_LOWER_LEFT
    a_AND_LOWER_RIGHTzvUPLE_INTEGRAL_OPERATORrPRIMEmRTER_NOTEjTERNION_INTEGRAL_OPERATOR
    zbESTION_EXCLAMATION_MARKqMARKfED_EQUAL_TOrINCUNXgOTATION_MARKoRABBITa_FACEjCCOONeING_CAR
    dMOTORCYCLEpDICAL_SYMBOL_BOTTOMrOa_BUTTONhACTIVE_SIGNoILWAY_CARdTRACKkNaBOWeSED_BACK_OF_HAND
    mCOMMAfDOTaTED_INTERPOLATION_MARKERzcFISTeHANDa_WITH_FINGERS_SPLAYED
    pPART_BETWEEN_MIDDLE_AND_RING_FINGERSzvINTERPOLATION_MARKERuMC_SIGNgD_SIGNgR_SIGNhSQUARElMbTaIO
    dZOReECEIPTeORD_SEPARATORnREATIONAL_VEHICLErYCLED_PAPER_SYMBOLpING_SYMBOL_FOR_GENERIC_MATERIALS
    rTYPE-1_PLASTICSk2_PLASTICSk3_PLASTICSk4_PLASTICSk5_PLASTICSk6_PLASTICSk7_PLASTICSzjD_APPLE
    fGIFT_ENVELOPEpFERENCE_MARKmGIONAL_INDICATOR_SYMBOL_LETTER_AbBbCbDbEbFbGbHbIbJbKbLbMbNbObPbQbR
    bSbTbUbVbWbXbYbZzfSTERED_SIGNnJANG_CONSONANT_SIGN_HbNaGcRqLETTER_AbBAcCAcDAcGAcHAcJAcKAcLAcMA
    bBAdNAbDAcGAbGAdYAbJAePAcRAcSAcTAcWAcYAjSECTION_MARKmVIRAMAfOWEL_SIGN_AIbUcEaAbUcIbObU
    rLIEVED_FACElMINDER_RIBBONnPLACEMENT_CHARACTERtSPONSEfTRICTED_LEFT_ENTRY-1b2sOOMgTURN_LEFT
    eRIGHTfSYMBOLlVERSE_CHECKER_BOARDnINDEXfLIGHT_FOUR_POINTED_PINWHEEL_STARzfNE_FEEDjSOLIDUS
    a_OPERATORiPRECEDING_SUBSETqWITH_HORIZONTAL_STROKEzfTILDE_OPERATOR_ABOVE_LEFTWARDS_ARROW
    pRIGHTWARDS_ARROWznD_ANGLEa_WITH_UNDERBARtCOMMAfDOUBLE_PRIMEa_QUOTATION_MARKuSTROKE_NOT_SIGN
    wEMPTY_SETjFORKED_PARAGRAPHOSsHAND_WITH_MIDDLE_FINGER_EXTENDEDzhNOT_SIGNiPILCROW_SIGNlRIME
    fQUESTION_MARKnRAISED_HAND_WITH_FINGERS_SPLAYEDzgIGHT_ANGLEkOTATED_FLORAL_HEART_BULLET
    zcSANS-SERIF_CAPITAL_LtEMICOLONjTHUMBS_DOWN_SIGNjUP_SIGNnILDEa_EQUALSlRIPLE_PRIMEmVICTORY_HAND
    sOLVING_HEARTSpHINOCEROSjIaAL_SIGNhBBONa_ARROW_DOWN_LEFTeRIGHTkLEFT_DOWNeUPhRIGHT_DOWNeUP
    iUP_LEFTeRIGHTtCE_BALLeCRACKERkFLEdGHT_AND_LOWER_ONE_EIGHTH_BLOCKwUPPER_ONE_EIGHTH_BLOCK
    yGER_BUBBLEjLEa_BRACKETa_WITH_DOTqDOTTED_SUBSTITUTION_MARKERzbSUBSTITUTION_MARKER
    tVARIANT_WITH_SQUAREtWITH_ARCdDOWNWARDS_ZIGZAG_ARROWzhRC_GREATER-THAN_BRACKET
    wROW_WITH_CIRCLED_PLUSmSMALL_CIRCLExBLACK_LENTICULAR_BRACKETsTORTOISE_SHELL_BRACKETzdCEILING
    gORNER_BRACKETnURLY_BRACKETa_LOWER_HOOKkMIDDLE_PIECEmUPPER_HOOKyDOTTED_SUBSTITUTION_BRACKET
    zUBLE_ANGLE_BRACKETmRROW_WITH_ROUNDED_HEADxPARENTHESISlQUOTATION_MARKoWIGGLY_FENCEtFISH_TAIL
    hVE_EIGHTHS_BLOCKrLOORfHALF_BLACK_CIRCLEgSTARiOCKfFOLDERgMEDIUM_SHADEmRUNNING_MAN
    oND_TELEPHONE_RECEIVERxLOW_PARAPHRASE_BRACKETwNORMAL_FACTOR_SEMIDIRECT_PRODUCT
    zhONE_EIGHTH_BLOCKmQUARTER_BLOCKqPEN_SQUARED_DOTpUTER_JOINkPARENTHESISa_EXTENSIONjLOWER_HOOK
    kUPPER_HOOKwRAISED_OMISSION_BRACKETxS-SHAPED_BAG_DELIMITERvEMIDIRECT_PRODUCTqVEN_EIGHTHS_BLOCK
    sIDEWAYS_U_BRACKETqNGLE_QUOTATION_MARKuPEAKERa_WITH_ONE_SOUND_WAVEoTHREE_SOUND_WAVES
    zcECH_BUBBLEmQUARE_BRACKETa_EXTENSIONjLOWER_CORNERmUPPER_CORNERmWITH_DOUBLE_STROKEnQUILLfSTROKE
    gTICK_IN_BOTTOM_CORNERnTOP_CORNERsUNDERBARzcUBSTITUTION_BRACKETuTACK
    dHIRD_WHITE_RIGHT_POINTING_INDEXzfOUGHT_BUBBLEmREE_EIGHTHS_BLOCKnQUARTERS_BLOCK
    tORTOISE_SHELL_BRACKETvRANSPOSITION_BRACKETtIANGLEa_ABOVE_LEFT_TRIANGLEwULAR_ONE_QUARTER_BLOCK
    zdVERTICAL_BAR_WITH_QUILLnOX_LINErWHITE_CORNER_BRACKETnURLY_BRACKETnLENTICULAR_BRACKET
    sPARENTHESISlSQUARE_BRACKEToTORTOISE_SHELL_BRACKETzcIGGLY_FENCEn-FACING_ARMENIAN_ETERNITY_SIGN
    wFISTeSVASTI_SIGNa_WITH_DOTSzdHANDED_INTERLACED_PENTAGRAMzcPOINTING_ANGLE_BRACKET
    nCURVED_ANGLE_BRACKETuDOUBLE_ANGLE_QUOTATION_MARKzcMAGNIFYING_GLASS
    zSHADED_WHITE_RIGHTWARDS_ARROWzdIDE_ARC_CLOCKWISE_ARROWyTO-LEFT_EMBEDDINGjISOLATEhMARKeOVERRIDE
    rHAND_INTERIOR_PRODUCTvWARDS_ARROWa_ABOVE_ALMOST_EQUAL_TOpREVERSE_ALMOST_EQUAL_TO
    pTILDE_OPERATORwSHORT_LEFTWARDS_ARROWvTILDE_OPERATORtND_UPPER_AND_LOWER_ONE_EIGHTH_BLOCK
    zlFROM_BARa_TO_BLACK_DIAMONDzOVER_LEFTWARDS_ARROWuTHROUGH_GREATER-THANmSUPERSETiXiO_BAR
    cLACK_DIAMONDqWITH_CORNER_DOWNWARDSqDOTTED_STEMjUBLE_VERTICAL_STROKEwEQUILATERAL_ARROWHEADvHOOK
    eLARGE_TRIANGLE_ARROWHEADxOOPeMEDIUM_TRIANGLE_ARROWHEADzNOTCHED_TAILmPLUS_BELOW
    kSMALL_EQUILATERAL_ARROWHEADvTRIANGLE_ARROWHEADxTROKEgTAILa_WITH_DOUBLE_VERTICAL_STROKE
    wVERTICAL_STROKEyIP_DOWNWARDSjUPWARDSlVERTICAL_STROKEv-TAILkBACK-TILTED_SHADOWED_WHITE_ARROW
    zgLACK_ARROWfCIRCLED_WHITE_ARROWyOTTOM_SHADED_WHITE_ARROWzCOMPRESSED_ARROWqDASHED_ARROW
    lOUBLE_ARROWa_FROM_BARiWITH_STROKEgVERTICAL_STROKEv-TAILkDASH_ARROWrFINGER-POST_ARROW
    qRONT-TILTED_SHADOWED_WHITE_ARROWziHANDcRPOON_OVER_LEFTWARDS_HARPOON
    wWITH_BARB_DOWN_ABOVE_LEFTWARDS_HARPOON_WITH_BARB_DOWNznBELOW_LONG_DASHpFROM_BARiTO_BARhWARDS
    jUP_ABOVE_LEFTWARDS_HARPOON_WITH_BARB_UPzeONG_DASHjRIGHTWARDS_HARPOON_WITH_BARB_DOWNzoFROM_BAR
    iTO_BARhWARDSyEAVY_ARROWfCOMPRESSED_ARROWwLEFT-SHADED_WHITE_ARROWxOPEN-HEADED_ARROW
    rPAIRED_ARROWSnQUADRUPLE_ARROWpRIGHT-SHADED_WHITE_ARROWxOCKETgSANS-SERIF_ARROWpQUARED_ARROW
    kIGGLE_ARROWoTOP_SHADED_WHITE_ARROWvRIANGLE_ARROWHEADk-HEADED_ARROW
    a_OVER_LEFTWARDS_TRIANGLE-HEADED_ARROWzlTO_BARgWITH_BOLD_SHAFTkDOUBLE_HORIZONTAL_STROKE
    rVERTICAL_STROKEwHEAVY_SHAFTlLONG_TIP_DOWNWARDSjUPWARDSqMEDIUM_SHAFTmNARROW_SHAFT
    mVERY_HEAVY_SHAFTzcDASHED_ARROWmPAIRED_ARROWSzbPLE_ARROWfDASH_ARROWqWO_HEADED_ARROW
    n-HEADED_ARROW_FROM_BARiWITH_DOUBLE_VERTICAL_STROKEwTAILa_WITH_DOUBLE_VERTICAL_STROKE
    wVERTICAL_STROKEyRIANGLE_ARROWHEADStVERTICAL_STROKEzbTRIPLE_DASH_ARROWzdWAVE_ARROWjHITE_ARROW
    a_FROM_WALLjWITHIN_TRIANGLE_ARROWHEADzvNGa_ABOVEfBUOYeEQUAL_TOiIN_EQUAL_TOlOPERATORiPOINT
    gED_PLANETjING_BELLkSING_DIAGONAL_CROSSING_FALLING_DIAGONALqSOUTH_EAST_ARROWzpLEbIbMbO
    cOASTED_SWEET_POTATOsBOT_FACEiCKaETeLL_OF_PAPERjED-UP_NEWSPAPERoR_COASTERhSKATE
    iING_ON_THE_FLOOR_LAUGHINGzcMAN_AS_SIGNhCENTURIAL_SIGNoDENARIUS_SIGNmIMIDIA_SEXTULA_SIGN
    tUPONDIUS_SIGNoNUMERAL_EIGHTeLEVENgFIFTYa_EARLY_FORMkTHOUSANDmVEa_HUNDREDhTHOUSANDmOUReNINEeONE
    a_HUNDREDa_THOUSANDqTHOUSANDa_C_DqREVERSED_ONE_HUNDREDuSEVENeIXa_LATE_FORMnTENa_THOUSANDlHREE
    eWELVEeOlQUINARIUS_SIGNoSEMUNCIA_SIGNlSTERTIUS_SIGNnXTANS_SIGNiULA_SIGNlILIQUA_SIGNmUNCIA_SIGN
    oOSTERfSEaTTEfTATED_CAPITAL_QjFLORAL_HEART_BULLETtHEAVY_BLACK_HEART_BULLET
    yLIGHT_FOUR_POINTED_BLACK_CUSPzeWHITE_FOUR_POINTED_CUSPzeUND_PUSHPINhTARGEThED_SYMBOL_FOR_CAI
    dFUcLUcSHOUcUANGXIiXItWBOATgSbUBLE_SIGNiGBY_FOOTBALLmLE-DELAYEDkMI_DIGIT_EIGHTfFIVEdOUReNINE
    eONEdSEVENeIXdTHREEeWOjFRACTION_ONE_HALFeQUARTERhTHIRDjTWO_THIRDStNUMBER_EIGHT_HUNDREDiYgFIFTY
    dVE_HUNDREDlORTYdUR_HUNDREDmNINE_HUNDREDiTYgONE_HUNDREDlSEVEN_HUNDREDiTYgIX_HUNDREDiTYfTEN
    cHIRTYeREE_HUNDREDmWENTYeO_HUNDREDvNIC_ARLAUG_SYMBOLnBELGTHOR_SYMBOLpCROSS_PUNCTUATION
    rLETTER_AC_AdESCdLGIZ_EOLHXkNSUZ_AhBERKANAN_BEORC_BJARKAN_ByCaALCdEALCdNcWEORTHhDaAGAZ_DAEG_D
    lOTTED-LbNbPiEaARcHWAZ_EH_EjNGcTHdFEHU_FEOH_FE_FnRANKS_CASKET_ACbESCeEHcIScOSqGaARcEBO_GYFU_GjR
    dHAEGL_HfGLAZ_HiICELANDIC-YRlNGaWAZfORcSAZ_IS_ISS_ImWAZ_EOHiJERAN_JhKaAUN_KcA
    fLAUKAZ_LAGU_LOGR_LrONG-BRANCH-AR_AEfHAGALL_HiMADR_MgOSS_OfYRoMANNAZ_MAN_MmNAUDIZ_NYD_NAUD_NrO
    aEbNbObPEN-PfS_OdTHALAN_ETHEL_OpPERTHO_PEORTH_PpQbRAIDO_RAD_REID_RqSHaORT-TWIG-AR_AeBJARKAN_B
    jHAGALL_HiMADR_MgNAUD_NgOSS_OfSOL_SfTYR_TfYRmIGEL_LONG-BRANCH-SOL_SwOWILO_ShTAN
    eTHURISAZ_THURS_THORNtIWAZ_TIR_TYR_TpURUZ_UR_UjVbWaUNJO_WYNN_WmXbYaRcZiMULTIPLE_PUNCTUATION
    uSINGLE_PUNCTUATIONsTVIMADUR_SYMBOLsNERcING_SHIRT_WITH_SASHvPEE_SIGN
    iSSIAN_ASTROLOGICAL_SYMBOL_BINOVILEiNOVILEgQUINTILEiSENTAGONiTREDECILEjVIGINTILEzmS_IN_TRIANGLE
    mAFETY_PINdVESTjGITTARIUSjILBOATgKE_BOTTLE_AND_CUPrLT_SHAKERhIREeUTING_FACE
    lMARITAN_ABBREVIATION_MARKrLETTER_ALAFeBAAcITdDALATfFIcGAMANfINbTbYcKAAFeLABATfMIMdNUNdQUFdRISH
    eSHANdINGAAThTAAFdITcSAADIYhYUTdZENkMARK_DAGESHgEPENTHETIC_YUToINa-ALAFhNEQUDAAhOCCLUSION
    nODIFIER_LETTER_EPENTHETIC_YUToIbSHORT_AxPUNCTUATION_AFSAAQfNGEDdNAAUfRKAANUgTMAAUgBAU
    dMELODIC_QITSAnNEQUDAAhQITSAfSHIYYAALAAjOF_MASHFAATmTURUeZAEFdIQAArVOWEL_SIGN_AaAcEbIbLONG_AaA
    cEbIbUgOaVERLONG_AaAlSHORT_AgUKUNfUuNDWICHfS-SERIF_HEAVY_DOUBLE_COMMA_QUOTATION_MARK_ORNAMENT
    zeTURNED_COMMA_QUOTATION_MARK_ORNAMENTzsLOW_DOUBLE_COMMA_QUOTATION_MARK_ORNAMENT
    zvINTERROBANG_ORNAMENTzeRIcTELLITEa_ANTENNAoURNeURASHTRA_CONSONANT_SIGN_HAARUuDANDAeIGIT_EIGHT
    fFIVEdOUReNINEeONEdSEVENeIXdTHREEeWOdZEROjOUBLE_DANDAmLETTER_AaAbIbUcBAbHAdCAbHAdDAbDAbHAdHAdE
    aEcGAbHAdHAcIaIcJAbHAdKAbHAdLAbLAdMAcNAbGAcNAcYAdOaOcPAbHAdRAcSAbHAcSAdTAbHAcTAbHAeUaUcVA
    bOCALIC_LaLcRaRkYAjSIGN_ANUSVARAiCANDRABINDUlVIRAMAeSARGAmVOWEL_SIGN_AAbIbUcEaEcIaIcOaOcUaU
    cVOCALIC_LaLcRaRzdOPODgXOPHONEiCALESdRFdHOOLa_SATCHELmIbOOTEReRPIONcUSgREENcWDRIVER
    iIPT_CAPITAL_BbEbFbHbIbLbMbPbRjLIGATURE_ET_ORNAMENTuSMALL_EbGbLbOlOLLdUPLEgEALbT
    cCOND_PLACE_MEDALpTION_SIGNiOReDNAdE-NO-EVIL_MONKEYpDLINGgGMENTaED_DIGIT_EIGHTfFIVEdOUReNINE
    eONEdSEVENeIXdTHREEeWOdZEROsLFIEeMICOLONfDIRECT_PRODUCT_WITH_BOTTOM_CLOSEDziSEXTILE
    jPARATED_SYMBOLoRIOUS_FACE_WITH_SYMBOLS_COVERING_MOUTHzmVICE_MARKkSAME_DOThQUIQUADRATEmT_MINUS
    fTRANSMIT_STATEqWING_NEEDLElXTILEgGCcHADOWED_WHITE_CIRCLEgLATIN_CROSSlSTARqLLOW_PAN_OF_FOOD
    qMROCKfRADA_ABBREVIATION_SIGNrCONTINUATION_SIGNrDANDAeIGIT_EIGHTfFIVEdOUReNINEeONEdSEVENeIX
    dTHREEeWOdZEROjOUBLE_DANDAmEKAMdXTRA_SHORT_VOWEL_MARKwHEADSTROKEkLETTER_AaAbIbUcBAbHAdCAbHAdDA
    bDAbHAdHAdEbGAbHAdHAcIaIcJAbHAdKAbHAdLAbLAdMAcNAbGAcNAcYAdObPAbHAdRAcSAbHAcSAdTAbHAcTAbHAeUaU
    cVAbOCALIC_LaLcRaRkYAjOMcSANDHI_MARKkECTION_MARK-1b2mPARATORiIGN_ANUSVARAhVAGRAHAiCANDRABINDU
    lINVERTED_CANDRABINDUuJIHVAMULIYAlNUKTAfSIDDHAMhUPADHMANIYAlVIRAMAeSARGAlUTRA_MARK
    kVOWEL_MODIFIER_MARKnSIGN_AAbIbUcEbIaIcObPRISHTHAMATRA_EpUaUcVOCALIC_LaLcRaRzKcVED_ICE
    gIAN_LETTER_ADOcGEcHbIRcREbRAYeSHcWEdBIBdCHURCHgDEADeEARbTcGGcRRdFEEdGAGdHA-HAeUNGeIANcCEcF
    cJUDGEfKICKeLOLLeMEASUREgIMEeNUNdOAKcILcNbOZEdRbUTdPEEPeROAReSObUREeTHEYcIGHeOTdUPcVOWdWOEbOL
    eYEAbWdZOOqEEPdIELDdFT_INcOUTgNTO_SHRINEkPcOCKED_FACE_WITH_EXPLODING_HEADzeOTING_STAR
    kPPING_BAGSeTROLLEYnRT_BACKSLANTED_SOUTH_ARROWwENT_ARROW_POINTING_DOWNWARDS_THEN_NORTH_EAST
    zuDOWN_TACKa_WITH_OVERBARwLEFT_TACKjRIGHTWARDS_ARROW_ABOVE_LEFTWARDS_ARROWznSLANTED_NORTH_ARROW
    tUP_TACKa_ABOVE_SHORT_DOWN_TACKvWITH_UNDERBARwCAKEeHAND_FORMAT_CONTINUING_OVERLAPsDOWN_STEP
    jLETTER_OVERLAPoUP_STEPtSdULDERED_OPEN_BOXqWEReRIMPdUGdUFFLE_PRODUCTnYcIaDDHAM_DANDA
    eOUBLE_DANDAmEND_OF_TEXT_MARKqLETTER_AaAbIbLTERNATE_UkUcBAbHAdCAbHAdDAbDAbHAdHAdEbGAbHAdHAcIaI
    cJAbHAdKAbHAdLAcMAcNAbGAcNAcYAdObPAbHAdRAcSAbHAcSAdTAbHAbREE-CIRCLE_ALTERNATE_IxTAbHA
    dWO-CIRCLE_ALTERNATE_IaIxUaUcVAbOCALIC_LaLcRaRkYAjREPETITION_MARK-1b2b3
    rSECTION_MARK_DOUBLE_RINGa_WITH_RAYSvWITH_CIRCLES_AND_FOUR_ENCLOSURESpRAYSeTWO_ENCLOSURES
    zbDOUBLE_CRESCENTSqQUADRUPLE_CRESCENTStRAYS_AND_DOTTED_CRESCENTSjDOUBLE_CRESCENTS
    qTRIPLE_CRESCENTSzhSEPTUPLE_CRESCENTSsTRIDENT_AND_DOTTED_CRESCENTSqU-SHAPED_ORNAMENTS
    zcPLE_CRESCENTSzhPARATOR_BARdDOTmIGN_ANUSVARAiCANDRABINDUlNUKTAfSIDDHAMhVIRAMAeSARGA
    mVOWEL_SIGN_AAbIbLTERNATE_UaUlUcEbIaIcObUaUcVOCALIC_RaRzbEWAYS_BLACK_DOWN_POINTING_INDEX
    tLEFT_POINTING_INDEXtRIGHT_POINTING_INDEXuUP_POINTING_INDEXxWHITE_DOWN_POINTING_INDEX
    tLEFT_POINTING_INDEXtRIGHT_POINTING_INDEXuUP_POINTING_INDEXzfGN_OF_THE_HORNS
    nWRITING_AIR_BLOW_SMALL_ROTATIONSqING_OUTlSUCK_SMALL_ROTATIONSqING_INoBREATH_EXHALEgINHALE
    lUSH_BETWEENhMULTIPLEiSINGLEmCHEEKS_NEUTRALhPUFFEDgSUCKEDmOLONdMMAfDREAMY_EYEBROWS_DOWN_NEUTRAL
    mNEUTRAL_DOWNeUPkUP_NEUTRALzYNAMIC_ARROWHEAD_LARGEfSMALLpEVERY_OTHER_TIMEqFASTeGRADUALhRELAXED
    hSIMULTANEOUSa_ALTERNATINGxLOWeTENSEnEARSdXCITEMENTjYE_BLINK_MULTIPLEiSINGLEmWINK
    fBROWS_STRAIGHT_DOWNeNEUTRALhUPrGAZE-FLOORPLANE_CURVEDgSTRAIGHTa_ALTERNATINGlDOUBLE
    zbWALLPLANE_CIRCLINGhURVEDgSTRAIGHTa_ALTERNATINGlDOUBLEzfLASHES_DOWNeFLUTTERINGkUPjS_CLOSED
    gHALF_CLOSEDgOPENjOPENeSQUEEZEDiWIDE_OPENfNING_MOVEMENT
    wFACE_DIRECTION_POSITION_NOSE_FORWARD_TILTINGpUP_OR_DOWNa_TILTINGzvILL_MODIFIER-2b3b4b5b6nNGER
    fLICK_LARGE_MULTIPLEiSINGLEmSEQUENTIALjMALL_MULTIPLEiSINGLEqOORPLANE_SHOULDER_HIP_MOVE
    zcOREHEAD_CONTACThNEUTRALhWRINKLEDqULL_STOPjGRASP_BETWEENhMULTIPLEiSINGLEmHAIRcND-ANGLEa_INDEX
    a_MIDDLE_LITTLEgRINGlRING_LITTLEa_OUTpTHUMBa_INcOUTpLITTLE_INDEXa_THUMB_INDEX_THUMBa_OUTzcUP
    jMIDDLE_RING_LITTLEa_INcOUTwRING_DOWN_MIDDLE_THUMB_INDEX_CROSSzeLITTLErCIRCLEa_INDEXa_BENT
    eHINGEfMIDDLEa_CROSS_LITTLEhEDhLITTLEgRINGeTHUMBmRING_LITTLErLITTLE_INDEXfUPjMIDDLE_RING_LITTLE
    a_BENTqUPjRING_LITTLErLAWa_FOUR_FINGERS_CONJOINEDwINDEX_THUMB_CURVE_THUMB_INSIDE
    zfMIDDLE_RING_LITTLE_CONJOINEDa_SIDEziNO_THUMBiTHUMB_FORWARDhSIDEoUPa_FIVE_FINGERS_SPREADa_OPEN
    yINDEXa_RING_LITTLElTHUMBa_OPENqMIDDLE_RING_LITTLEsNO_THUMBiOPENa_NO_THUMBiTHUMB_FORWARDhSIDE
    pTHUMB_FORWARDhSIDEmRLICUEa_INDEX_RING_LITTLE_ONuMIDDLE_RING_LITTLE_ONvOPENnFIST
    a_FOUR_FINGERS_CONJOINED_BENTzcHEELeINDEXa_BENTa_OVER_MIDDLEqCUPPEDgHINGEDa_LOWdMIDDLE_UP
    a_THUMB_SIDEzcMIDDLEa_BENTa_THUMB_STRAIGHTtCONJOINEDa_CUPPEDa_THUMB_FORWARDuHINGEDa_THUMB_SIDE
    rINDEX_BENTkMIDDLE_BENTlTHUMB_FORWARDhSIDEa_BENTeCONJOINEDzeROSS_LITTLEhEDa_THUMB_SIDEsHINGED
    a_SPREAD_THUMB_SIDEyLITTLEgRAISED_KNUCKLESoINGa_BENTeCONJOINEDoSTRAIGHT_THUMB_BENTtTHUMB
    a_ANGLEDa_OUTkBENTeCIRCLEDgONJOINED_HINGEDpUPPEDgHINGEDfOOKEDmUP_SPREAD_THUMB_FORWARD
    zfRAISED_KNUCKLEnING_LITTLElTHUMB_ANGLED_IN_MIDDLE_UPmOUT_MIDDLE_UPuCIRCLEaD_MIDDLE_UP
    qUPPED_MIDDLE_UPoRLICUEfVE_THUMB_INSIDEgUNDERrFORWARD_INDEX_BENTeSTRAIGHTwHOOKaED_MIDDLE_HINGED
    gUPqSIDEa_BOTH_BENTjINDEX_BENTeHINGElTHUMB_BENTeCONJOINEDjDIAGONALzUP_MIDDLE_HINGED
    a_THUMB_CONJOINEDjSIDEziLITTLE_BENTeDOWNa_OTHERS_CIRCLEDoRIPPLE_CURVEDgSTRAIGHTuINDEXa_THUMB
    lRAISED_KNUCKLEoTHUMBeOUCHES_THUMBnUPjMIDDLE_BENT_OVER_INDEXpDOWNeLITTLEgRAISED_KNUCKLE
    nING_LITTLElTHUMB_ANGLED_INDEX_UPiOUT_INDEX_CROSSEDhUPtCIRCLED_INDEX_HINGEDgUPpUPPED_INDEX_UP
    pHOOKED_INDEX_UPpLITTLEmUPa_THUMB_SIDEuRING_DOWNeINDEXfLITTLEgMIDDLEa_CONJOINEDjRAISED_KNUCKLES
    wRAISED_KNUCKLEoTHUMBfUPhTHUMBa_BETWEEN_INDEX_MIDDLEa_STRAIGHTvMIDDLE_RINGlRING_LITTLEtFORWARD
    hHEELeOVER_FOUR_RAISED_KNUCKLESuTWO_FINGERSqSIDE_BENTeCONJOINEDjDIAGONALnUNDER_FOUR_FINGERS
    mINDEX_BENTkLITTLE_UPjTHREE_FINGERSmWO_FINGERSzcLATa_BETWEEN_PALM_FACINGSuFIVE_FINGERS_SPREAD
    a_BENTeFOUR_BENTjHINGEDa_NO_THUMBiTHUMB_SIDErTHUMB_FORWARDzhOUR_FINGERSa_BENTeCONJOINEDa_SPLIT
    pHINGEDtHEELa_FIVE_FINGERS_SPREADa_BENTeFOUR_BENTzeTHUMB_SIDEpSPLIT_CENTREa_THUMB_SIDEa_BENT
    wINDEX_THUMB_SIDEqLITTLEmTHUMB_BENTeFORWARDhSIDEpHINGEa_FIVE_FINGERS_SPREAD_OPEN
    xOUR_FINGERS_CONJOINEDwINDEXa_HINGEDgMIDDLE_LITTLEgRINGa_CONJOINEDvRING_LITTLElTHUMBa_LARGE
    fOPENeSIDEdMALLrLITTLEa_INDEXa_THUMBlTHUMBmMIDDLEa_RING_LITTLEsNO_THUMBiOPENa_NO_THUMB
    iTHUMB_FORWARDhSIDEpRINGa_DOWN_INDEX_THUMB_HOOK_MIDDLEziSMALLfTHUMB_BETWEEN_MIDDLE_RINGtSIDE
    a_TOUCHING_INDEXzfOOKa_CURLICUEiINDEX_RING_LITTLE_INcOUTdUNDERxMIDDLE_RING_LITTLE_CONJOINEDa_IN
    cOUTzTHUMBmRING_THUMBpOVALa_FIVE_FINGERS_SPREADtINDEXfLITTLE_UPjNO_THUMBiRING_LITTLE
    lTHUMB_FORWARDhSIDEtEADa_MOVEMENT_CIRCLEh-FLOORPLANE_CURVEfSTRAIGHTtWALLPLANE_CURVEfSTRAIGHT
    iTILTxRIMiLIMB_COMBINATIONlLENGTH-1b2b3b4b5b6b7lP_LOWER_OVER_UPPERqUPPER_OVER_LOWER
    rS_PRESSED_TOGETHERuOCATION_DEPTHfHEAD_NECKhIGHTgLIMBS_DIGITSmTORSOfWIDTHg-FLOORPLANE_SPACE
    qWALLPLANE_SPACEyMOUTH_CLOSED_CONTACThFORWARDhNEUTRALnORNERShFROWNa_OPENeWRINKLEDoKISSa_FORWARD
    hWRINKLEDnOPEN_CIRCLEgFORWARDhOVALa_WRINKLEDiYAWNjRECTANGLEa_WRINKLEDiYAWNoWRINKLEDnSMILEa_OPEN
    eWRINKLEDoTENSEa_FORWARDhSUCKEDmWRINKLES_DOUBLEgSINGLEtVEMENT-DIAGONAL_AWAY_LARGEaSThMEDIUM
    gSMALLkBETWEEN_AWAY_LARGEaSThMEDIUMgSMALLkTOWARDS_LARGEaSThMEDIUMgSMALLvTOWARDS_LARGEaSThMEDIUM
    gSMALLwFLOORPLANE_ARM_CIRCLE_HITTING_WALL_LARGE_DOUBLEgSINGLEmMEDIUM_DOUBLEgSINGLEnSMALL_DOUBLE
    gSINGLEzlBENDdOX_LARGEfMEDIUMgSMALLjCHECKeORNER_LARGEfMEDIUMgSMALLlROSSeURVE_COMBINED
    iHITTING_CEILING_LARGEfSMALLnFLOOR_LARGEfSMALLtLARGEaSThMEDIUMgSMALLlDOUBLE_ALTERNATING
    a_WRIST_FLEXwSTRAIGHTiWRIST_FLEXrFINGER_CIRCLES_HITTING_WALL_DOUBLEgSINGLEzbONTACT
    oHUMP_HITTING_CEILING_LARGE_DOUBLEgTRIPLEmSMALL_DOUBLEgTRIPLEuFLOOR_LARGE_DOUBLEmSMALL_DOUBLE
    mTRIPLE_LARGE_TRIPLEmSMALL_TRIPLEziSMALLkJAWdLOOP_HITTING_CEILING_LARGE_DOUBLEgSINGLE
    mSMALL_DOUBLEgSINGLEuFLOOR_LARGE_DOUBLEgSINGLEmSMALL_DOUBLEgSINGLEzbSMALLkPEAKS_LARGEfMEDIUM
    gSMALLlSHAKING_PARALLELpINGLE_STRAIGHT_LARGEaSThMEDIUMgSMALLoWRIST_FLEX
    rTRIPLE_ALTERNATING_MOVEMENTiWRIST_FLEXwSTRAIGHT_MOVEMENTrWRIST_FLEXrWAVE_HITTING_CEILING_LARGE
    fSMALLnFLOOR_LARGEfSMALLtLARGEfSMALLeNAKEjRIST_CIRCLE_HITTING_WALL_DOUBLEgSINGLEzhZIGZAG_LARGE
    fMEDIUMgSMALLxHINGE_DOWN_SEQUENTIALpSIDE_TO_SIDE_SCISSORSvUP_DOWN_ALTERNATING_LARGEfSMALLrLARGE
    fSMALLkSEQUENTIALtWALLPLANE_ARM_CIRCLE_MEDIUM_DOUBLEgSINGLEnSMALL_DOUBLEgSINGLExBEND_LARGE
    fMEDIUMgSMALLjOX_LARGEfMEDIUMgSMALLjCHECK_LARGEfMEDIUMgSMALLkORNER_LARGEfMEDIUMgROTATIONiSMALL
    lROSSeURVE_HALF-CIRCLE_LARGEaSThMEDIUMgSMALLqITTING_CHESTfFRONT_WALLsQUARTER_LARGEaSThMEDIUM
    gSMALLnTHEN_STRAIGHTlREE-QUARTER_CIRCLE_MEDIUMgSMALLzcD_CROSS_MEDIUMgSMALLsDOUBLE_ALTERNATING
    a_WRIST_FLEXwSTRAIGHTiWRIST_FLEXrFINGER_CIRCLES_DOUBLEgSINGLEnONTACToHUMP_HITTING_CHEST
    fFRONT_WALLsLARGEfMEDIUMgSMALLkJAWdLOOP_HITTING_CHESTfFRONT_WALLsLARGEfMEDIUMgSMALLa_DOUBLE
    rPEAKS_LARGEfMEDIUMgSMALLlSHAKINGgINGLE_STRAIGHT_LARGEaSThMEDIUMgSMALLoWRIST_FLEX
    rTRIPLE_ALTERNATINGa_WRIST_FLEXwSTRAIGHT_MOVEMENTrWRIST_FLEXrWAVE_CURVE_DOUBLE_LARGEfMEDIUM
    gSMALLmTRIPLE_LARGEfMEDIUMgSMALLsDIAGONAL_PATH_LARGEfMEDIUMgSMALLtHITTING_CHESTfFRONT_WALL
    wRIST_CIRCLE_FRONT_DOUBLEgSINGLEzZIGZAG_LARGEfMEDIUMgSMALLzgNECKdOSE_CONTACThNEUTRALhWIGGLES
    gRINKLESnPARENTHESISlROTATION_MODIFIER-10b1b2b3b4b5b6c2b3b4b5b6b7b8b9l-FLOORPLANE_ALTERNATING
    a_HITTING_CEILINGhFLOORzDOUBLEa_HITTING_CEILINGhFLOORuSINGLEa_HITTING_CEILINGhFLOOR
    zgWALLPLANE_ALTERNATEbING_HITTING_CHESTfFRONT_WALLzfDOUBLEa_HITTING_CHESTfFRONT_WALLzSINGLE
    a_HITTING_CHESTfFRONT_WALLzsUB_BETWEENhMULTIPLEiSINGLEkSEMICOLONiHOULDER_HIP_POSITIONSjSPINE
    jTILTING_FROM_WAISTzbQUEEZE_FLICK_ALTERNATINGrLARGE_MULTIPLEiSINGLEmSEQUENTIALjMALL_MULTIPLE
    iSINGLEtTRIKE_BETWEENhMULTIPLEiSINGLEmURFACE_BETWEENhSYMBOLSpTEETHa_BITE_LIPSjMOVEMENTiON_LIPS
    a_MOVEMENTnTONGUEa_MOVEMENTwNSE_CHEEKS_HIGHeLOWdMIDDLEsONGUE_CENTRE_INSIDE_MOUTHmSTICKING_OUT
    tINSIDE_MOUTH_RELAXEDuLICKING_LIPSmMOVES_AGAINST_CHEEKtSTICKING_OUT_FARqTIP_BETWEEN_LIPS
    mTOUCHING_INSIDE_MOUTHzfRSO-FLOORPLANE_TWISTINGtWALLPLANE_CURVED_BENDlSTRAIGHT_STRETCH
    zfUCH_BETWEENhMULTIPLEiSINGLElRAVEL-FLOORPLANE_ROTATION-FLOORPLANE_ALTERNATINGlDOUBLEgSINGLE
    rWALLPLANE_ALTERNATINGlDOUBLEgSINGLEzSHAKINGsWALLPLANE_ARM_SPIRAL_DOUBLEgSINGLEgTRIPLE
    rROTATION-FLOORPLANE_ALTERNATINGlDOUBLEgSINGLErWALLPLANE_ALTERNATINGlDOUBLEgSINGLEzSHAKING
    yUPPER_BODY_TILTING_FROM_HIP_JOINTSzjWALLPLANE_SHOULDER_HIP_MOVEzmLHOUETTE_OF_JAPAN
    rMILAR_ABOVE_GREATER-THAN_ABOVE_EQUALS_SIGNzfLESS-THAN_ABOVE_EQUALS_SIGNziMINUS_SIMILAR
    nOR_GREATER-THANmLESS-THANsNE_WAVEgGLE_CHARACTER_INTRODUCERuGRAPHIC_CHARACTER_INTRODUCER
    zdHIGH-REVERSED-9_QUOTATION_MARKzfLEFT-POINTING_ANGLE_QUOTATION_MARKziOW-9_QUOTATION_MARK
    uRIGHT-POINTING_ANGLE_QUOTATION_MARKzkSHIFT_THREEeWOk-SHIFT-2b3lHALA_ARCHAIC_DIGIT_EIGHTfFIVE
    dOUReNINEeONEdSEVENeIXdTHREEeWOjNUMBER_EIGHTYgFIFTYeORTYfNINETYgONE_HUNDREDhTHOUSANDmSEVENTY
    gIXTYfTENcHIRTYfWENTYvLETTER_AAYANNAgEEYANNAgYANNAgIYANNAgLPAPRAANA_BAYANNAhCAYANNAhDAYANNA
    gDAYANNAiGAYANNAhJAYANNAhKAYANNAhPAYANNAhTAYANNAgTAYANNAsMBA_BAYANNAlUYANNAgYANNA
    gDANTAJA_LAYANNAhNAYANNAhSAYANNApEEYANNAgYANNAgFAYANNAhHAYANNAhIIYANNAgLUUYANNAgYANNAhRUUYANNA
    gYANNAhYANNAgKANTAJA_NAASIKYAYAsMAHAAPRAANA_BAYANNAhCAYANNAhDAYANNAgDAYANNAiGAYANNAhJAYANNA
    hKAYANNAhPAYANNAhTAYANNAgTAYANNAsYANNAgUURDHAJA_LAYANNAhNAYANNAhSAYANNArOOYANNAgYANNAgRAYANNA
    hSANYAKA_DAYANNAgDAYANNAiGAYANNAhJAYANNApTAALUJA_NAASIKYAYAkSANYOOGA_NAAKSIKYAYAsYANNApUUYANNA
    gYANNAgVAYANNAhYAYANNAnITH_DIGIT_EIGHTfFIVEdOUReNINEeONEdSEVENeIXdTHREEeWOdZERO
    pPUNCTUATION_KUNDDALIYAwSIGN_AL-LAKUNAiNUSVARAYAkCANDRABINDUlVISARGAYAoVOWEL_SIGN_AELA-PILLA
    kDIGA_AEDA-PILLAkGAETTA-PILLAkYANUKITTAlIS-PILLAiKOMBUVAhPAA-PILLAoGAETTA-PILLAkYANUKITTA
    lKETTI_AEDA-PILLAkIS-PILLAiPAA-PILLAoOMBU_DEKAfVAa_HAA_AELA-PILLAkDIGA_AELA-PILLApGAYANUKITTA
    zpX_PETALLED_BLACK_AND_WHITE_FLORETTEzhOINTED_BLACK_STARkPINWHEEL_STARnSTAR_WITH_MIDDLE_DOT
    ze-PER-EM_SPACEnTEEN_POINTED_ASTERISKxKATEBOARDiI_AND_SKI_BOOTnERdULLa_AND_CROSSBONESrNK
    eLANTED_EQUAL_TO_OR_GREATER-THANa_WITH_DOT_INSIDEzdLESS-THANa_WITH_DOT_INSIDE
    zmNORTH_ARROW_WITH_HOOKED_HEADjRIZONTAL_TAILzmVONIC_ASTERISKpEDbEPING_ACCOMMODATIONnFACEeSYMBOL
    kY_FACEiUTH_OR_SPYlICE_OF_PIZZAlGHTLY_FROWNING_FACEnSMILING_FACEtOPEbING_LARGE_ANDdORnT_MACHINE
    iHeMALL_AIRPLANEhMPERSANDiSTERISKiBLUE_DIAMONDmCOLONdMMAbERCIAL_ATlNTAINS_AS_MEMBER
    jWITH_OVERBARhVERTICAL_BAR_AT_END_OF_HORIZONTAL_STROKEzzeDOLLAR_SIGNlELEMENT_OFa_WITH_OVERBAR
    hVERTICAL_BAR_AT_END_OF_HORIZONTAL_STROKEzzfM_DASHgQUALS_SIGNkXCLAMATION_MARKqFULL_STOP
    jGREATER-THAN_SIGNrHYPHEN-MINUSmIDEOGRAPHIC_COMMArLEFT_CURLY_BRACKETnPARENTHESIS
    lTORTOISE_SHELL_BRACKETzSS-THAN_SIGNoNUMBER_SIGNlORANGE_DIAMONDoPERCENT_SIGNlLUS_SIGN
    jQUESTION_MARKnREVERSE_SOLIDUSoIGHT_CURLY_BRACKETnPARENTHESISlTORTOISE_SHELL_BRACKET
    zcOMAN_NUMERAL_EIGHTeLEVENgFIFTYdVEa_HUNDREDlOUReNINEeONEa_HUNDREDhTHOUSANDmSEVENeIXdTENcHREE
    eWELVEeOrSEMICOLONjTILDEeWO_DOTS_OVER_ONE_DOT_PUNCTUATIONziVEE_WITH_UNDERBARsER_THAN
    a_OR_EQUAL_TOvSH_PRODUCTlILEbING_CAT_FACE_WITH_HEART-SHAPED_EYESrOPEN_MOUTHyFACE_WITH_HALO
    dEART-SHAPED_EYESqORNSfOPEN_MOUTHa_AND_COLD_SWEATkSMILING_EYESmTIGHTLY-CLOSED_EYES
    zjSMILING_EYESa_AND_HAND_COVERING_MOUTHtTHREE_HEARTSzdUNGLASSESkTEARtRKING_FACElOKING_SYMBOL
    nNAILcKEdEEZING_FACElOW_CAPPED_MOUNTAINqBOARDERhFLAKEfMANa_WITHOUT_SNOWtOaCCER_BALLiKS
    dFT_HYPHENgICE_CREAMjSHELL_FLOPPY_DISKsBALLeWARE-FUNCTION_SYMBOLwGDIAN_COMBINING_CURVE_ABOVE
    fBELOWlDOT_ABOVEfBELOWjHOOK_ABOVEfBELOWkLONG_HOOK_BELOWpRESH_BELOWkSTROKE_BELOWmTWO_DOTS_ABOVE
    fBELOWyINDEPENDENT_SHINqLETTER_ALEPHeYINeBETHeFETHeGIMELfHEaTHeKAPHeLAMEDHfESHeMEMdNUNdPE
    cRESH-AYINjSADHEdMEKHfHINeTAWdWAWdYODHeZAYINmNUMBER_ONEa_HUNDREDlTENcWENTY
    nPUNCTUATION_CIRCLE_WITH_DOTpHALF_CIRCLE_WITH_DOTuTWO_CIRCLES_WITH_DOTSrVERTICAL_BARS
    a_WITH_DOTSzuHbLID_QUILT_SQUARE_ORNAMENTa_IN_BLACK_SQUAREznUSa_WITH_OVERBARsM_SIGN
    gON_WITH_RIGHTWARDS_ARROW_ABOVEzfRA_SOMPENG_DIGIT_EIGHTfFIVEdOUReNINEeONEdSEVENeIXdTHREEeWO
    dZEROkLETTER_AHcBAHdCAHdDAHdEEHcHcGAHdHAHdIHcJAHdKAHdLAHdMAEbHdNAHcGAHdYAHeOHcPAHdRAHdSAHdTAH
    dUHcVAHdYAHvSbUND_RECORDING_COPYRIGHTwTH_EAST_ARROWa_AND_SOUTH_WEST_ARROW
    uCROSSING_NORTH_EAST_ARROWzTO_CORNERjWITH_HOOKpBLACK_ARROWlDOUBLE_ARROWmPOINTING_BUDdLEAF
    eVINE_LEAFsSANS-SERIF_ARROWqTRIANGLE-HEADED_ARROWa_TO_BARzdWHITE_ARROWqWEST_ARROW
    a_AND_NORTH_WEST_ARROWuWITH_HOOKpBLACK_ARROWlDOUBLE_ARROWmPOINTING_BUDdLEAFeVINE_LEAF
    sSANS-SERIF_ARROWqTRIANGLE-HEADED_ARROWa_TO_BARzdWHITE_ARROWuYOMBO_CLUSTER-INITIAL_LETTER_LAcRA
    cSAbHAzbFINAL_CONSONANT_SIGN_-AcBbDbGbKbLbMbNaGcRbSaHxGEMINATION_MARK
    pHEAD_MARK_WITH_MOON_AND_SUNa_AND_FLAMEfTRIPLE_FLAMEztLETTER_-AcAbBAbHAdCAbHAdDAbDAbHAdHAcZAdGA
    bHAdHAcJAbHAdKAbHAcSSAeLAcMAcNAbGAcNAcYAdPAbHAdRAcSAbHAcSAdTAbHAcSAbHAdTAbHAeVAcYAcZAbHA
    kMARK_DOUBLE_SHADlPLUTAfSHADeTSHEGkSIGN_ANUSVARAiJIHVAMULIYAlUPADHMANIYAlVISARGAlUBJOINER
    jTERMINAL_MARK-1b2pVOWEL_LENGTH_MARKlSIGN_AIbUcEbIbOaEcUaEcVOCALIC_LbRzcPaAaCEcGHETTIgRKLEaS
    cING_HEARTnEAK-NO-EVIL_MONKEYpERa_WITH_CANCELLATION_STROKEtONE_SOUND_WAVEoTHREE_SOUND_WAVES
    zING_HEAD_IN_SILHOUETTEyECH_BALLOONkDBOATgSMILO_SIGNlHERICAL_ANGLEa_OPENING_LEFTeUPyIDERa_WEB
    hRAL_CALENDAR_PADmNOTE_PADiSHELLkLASHING_SWEAT_SYMBOLuONGEdOL_OF_THREADlNcRTS_MEDALjUTING_WHALE
    nQUARE_A_OVER_MhARUdMbNPEAePAATOfRUHUAfUcBAARERUfRcEETAeIRUdORUTOfQbUSSYERUiC_OVER_KGiALbPcCbD
    bMa_CUBEDfSQUAREDjOaRPORATIONkUPdDAaASUeBbESIdJbLbMa_CUBEDfSQUAREDjORUeEEKAAeRA_NAME_HEISEI
    gMEIZIfREIWAfSYOUWAgTAISYOUoGcSUKUUDOhVcFMbOOTcUR_CORNERSmGALbNMAdRONeBbHZcIGAcNIIdRUDAAgPA
    cURAMUaTONiYcHAaITUeEKUTAARUhRUTUfGbIRAGANA_HOKAmONbONbRUePaAcUARADDOgIITOeRANeZcIMAGE_OF
    a_OR_EQUAL_TOiNOT_EQUAL_TOxNaINGUeTIdUcK_OHMeAaIRIdRATTOeORIIgBbCALdEESUeGbHZcIROaGURAMU
    gMEETORUhWATTOiKbLbMa_CAPITALgUBEDfSQUAREDjOOPOdRUNAfPAcTbUROONEeUZEIROiVbWbYURII
    gLEFT_OPEN_BOX_OPERATORvMbNbOGbZENGEgXcM_CUBEDfOHMcVER_Sa_SQUAREDoSQUAREDiAaHHAdIKUROeRUdNSYON
    fRUKUfBa_SMALLhEETORUfGAaTONgGbHZcIKURONfLbRIaBAARUiLbMa_CUBEDfSQUAREDjOLcPAcSbU_AbFbGbLbMbSbV
    bWdVa_MEGAgWa_MEGAhNAaNOdFbMbOTTOeSbVbWcONSUdOMUdRIGINAL_OFa_OR_EQUAL_TOiNOT_EQUAL_TOzbVcPA
    a_AMPSfASENTOfTUeCbEEZIdNIHIdSUdSOdFbHbIASUTORUhKObURUfMbOINTOeNDOdSITION_INDICATORrPMcRbSbVbW
    cRADa_OVER_Sa_SQUAREDrEMUcNTOGENhIGHT_OPEN_BOX_OPERATORvRAcTTORUgOOTdUPIIdUBURUhSAIKURUfNTIIMU
    hENTIbOeIRINGUgRbVcTARGETfHZcONdUONdV_OVER_MiWATTOeBbITH_BOTTOM_HALF_BLACKrCONTOURED_OUTLINE
    rDIAGONAL_CROSSHATCH_FILLyHORIZONTAL_FILLpLEFT_HALF_BLACKoOWER_LEFT_DIAGONAL_HALF_BLACK
    yRIGHT_DIAGONAL_HALF_BLACKzgORTHOGONAL_CROSSHATCH_FILLzbRIGHT_HALF_BLACKqTOP_HALF_BLACK
    oUPPER_LEFT_DIAGONAL_HALF_BLACKtTO_LOWER_RIGHT_FILLyRIGHT_DIAGONAL_HALF_BLACK
    tTO_LOWER_LEFT_FILLzfVERTICAL_FILLsYAADOcRUeUANfD_ASTERISKiCJK_UNIFIED_IDEOGRAPH-4E00b9c2Dc8C
    cA4e518Dd21Dc4Dc72d3CCcF3d408c39d5B6d8F0d91Ac29dB57dDE6dF8Ce624Bc53c95d307c55d599cB0d620d708b9
    dE80dF14e7121d51Fc33d981dA7AdD42e89E3dCA9dD70e904Ad14DzLbOOLeDOT_OPERATORmEIGHT_K
    hFALLING_DIAGONAL_SLASHvIVE_POINT_ONEnOUR_DOT_PUNCTUATIONpKfREEeHCbDRcI-RESfVcIDcKATAKANA_DE
    cKOKOeSAkEYdLATIN_CAPITAL_LETTER_AbBbCbDbEbFbGbHbIbJbKbLbMbNbObPbQbRbSbTbUbVbWbXbYbZ
    qSMALL_LETTER_DtOGICAL_ANDdORiSSLESSiMINUSeVcNEWcGcOKbNE_HUNDRED_TWENTY_PuPLUSdPV
    dRISING_DIAGONAL_SLASHvSALTIREgDbECOND_SCREENlVEN_POINT_ONEoHVcIXTY_PgMALL_CIRCLElOScQUAREfS
    cTHREE_DgIMESeWENTY-TWO_POINT_TWOsO_KfUHDcP_WITH_EXCLAMATION_MARKyVODcScWC
    gT_BLACK_RIGHTWARDS_ARROWzIDeS2b3bAcTaADIUMeFF_OF_AESCULAPIUSlHERMESmMPED_ENVELOPEnNDING_PERSON
    mR_AND_CRESCENTmEQUALSgOF_DAVIDhPERATORiWITH_LEFT_HALF_BLACKpRIGHT_HALF_BLACKwT_OF_GUARDED_AREA
    mHEADINGhPROTECTED_AREAoSELECTED_AREAmTRINGgTEXTkTIONdUE_OF_LIBERTYpEAM_LOCOMOTIVElING_BOWL
    kNOGRAPHIC_FULL_STOPtTHOSCOPEjICK_FIGUREa_LEANING_LEFTeRIGHTnWITH_ARMS_RAISEDlDRESSvOCK_CHART
    iPWATCHhRAIGHT_RULERgNESSiWBERRYhESS_OUTLINED_WHITE_STARxICTLY_EQUIVALENT_TOsNG_TERMINATORpS
    bUDIO_MICROPHONEoFFED_FLATBREADoPAdXcUBaSCRIPT_EIGHTeQUALS_SIGNlFIVEdOUReLEFT_PARENTHESISqMINUS
    fNINEeONEdPLUS_SIGNjRIGHT_PARENTHESISrSEVENeIXdTHREEeWOdZEROkET_ABOVE_RIGHTWARDS_ARROWqSUBSET
    ePERSEToOFa_ABOVE_ALMOST_EQUAL_TOpEQUALS_SIGNlNOT_EQUAL_TOmTILDE_OPERATORuOR_EQUAL_TO
    a_WITH_DOT_ABOVEzbWITH_NOT_EQUAL_TOuWITH_DOTdMULTIPLICATION_SIGN_BELOWzPLUS_SIGN_BELOWxTITUTE
    iCCEEDSa_ABOVE_ALMOST_EQUAL_TOpEQUALS_SIGNlNOT_ALMOST_EQUAL_TOpEQUAL_TOmSINGLE-LINE_EQUALS_SIGN
    lNOT_EQUAL_TOzfBUT_NOT_EQUIVALENT_TOvOR_EQUAL_TOfIVALENT_TOqUNDER_RELATIONvMMATION_BOTTOMgTOP
    dWITH_INTEGRALvNa_BEHIND_CLOUDmWITH_FACEkDANESE_AVAGRAHAiCONSONANT_SIGN_PAMINGKALhNYAKRAeIKU
    fSANGAN_MAcWAzbDIGIT_EIGHTfFIVEdOUReNINEeONEdSEVENeIXdTHREEeWOdZEROkLETTER_AaEcBAbHAdCAcDAcEaU
    cFAbINAL_KbMhGAcHAcIbJAcKAbHAdLAbEUdMAcNAbGAcYAdObPAcQAcRAbEUdSAbYAdTAcUbVAcWAcXAcYAcZA
    jPUNCTUATION_BINDU_BA_SATANGAkCAKRAfDA_SATANGAkKA_SATANGAkLEU_SATANGAlPANGLONGhURNAMAhSURYA
    xSIGN_PAMAAEHfNGLAYARfWISADgYECEKiVIRAMAlVOWEL_SIGN_PAMEPETfNAELAENGhEULEUNGhGHULUfOLONGfYUKU
    zFLOWERgRISEa_OVER_MOUNTAINStSET_OVER_BUILDINGStPERHEROeSCRIPT_EIGHTeQUALS_SIGNlFIVEdOUR
    eLATIN_SMALL_LETTER_IbNtEFT_PARENTHESISqMINUSfNINEeONEdPLUS_SIGNjRIGHT_PARENTHESISrSEVENeIX
    dTHREEeWOdZEROkET_ABOVE_LEFTWARDS_ARROWpSUBSETePERSEToBESIDE_AND_JOINED_BY_DASH_WITH_SUBSET
    zfSUBSETnOFa_ABOVE_ALMOST_EQUAL_TOpEQUALS_SIGNlNOT_EQUAL_TOmTILDE_OPERATORuOR_EQUAL_TO
    a_WITH_DOT_ABOVEzbWITH_NOT_EQUAL_TOuPRECEDING_SOLIDUSrWITH_DOTdMULTIPLICATION_SIGN_BELOW
    zPLUS_SIGN_BELOWyVILLAINkRFACE_INTEGRALmEReSHIcPENSION_RAILWAYrWANbSH_AMPERSAND_ORNAMENTwIMMER
    fUNG_DASHjYLOTI_NAGRI_LETTER_AbBHOcOcCHOcOcDDHOcOcHOcOcEbGHOcOcHOcIbJHOcOcKHOcOcLOcMOcNOcObPHO
    cOcRObROdSOcTHOcObTHOcOdUiPOETRY_MARK-1b2b3b4nSIGN_ALTERNATE_HASANTAqNUSVARAiDVISVARAiHASANTA
    mVOWEL_SIGN_AbEbIbOOcUxMBOL_FOR_ACKNOWLEDGElBACKSPACEiELLeCANCELeRRIAGE_RETURNpDATA_LINK_ESCAPE
    pELETEa_FORM_TWOnVICE_CONTROL_FOUReONEdTHREEeWOsEND_OF_MEDIUMgTEXTdRANSMISSIONa_BLOCKxQUIRY
    gSCAPEgFILE_SEPARATORnORM_FEEDjGROUP_SEPARATORpHORIZONTAL_TABULATIONvLINE_FEEDjMARKS_CHAPTER
    nNEGATIVE_ACKNOWLEDGEsWLINEgULLeRECORD_SEPARATORqSAMARITAN_SOURCEpHIFT_INcOUTiPACE
    eTART_OF_HEADINGhTEXTmUBSTITUTEa_FORM_TWOsYNCHRONOUS_IDLEqTYPE_A_ELECTRONICSsUNIT_SEPARATOR
    oVERTICAL_TABULATIONzcMETRYgNaAGOGUEgCHRONOUS_IDLEoRIAC_ABBREVIATION_MARKrBARREKH
    hCOLON_SKEWED_LEFTeRIGHTqNTRACTIONlDOTTED_ZLAMA_ANGULARhHORIZONTALxEND_OF_PARAGRAPHpSASA_ABOVE
    fBELOWlFEMININE_DOTmHARKLEAN_ASTERISCUSkMETOBELUSjOBELUSoBASA_ABOVEfBELOWg-ESASA_DOTTED
    rORIZONTAL_COLONqLETTER_ALAPHfBETHeDALATHfOTLESS_DALATH_RISHtEbFINAL_SEMKATHnGAMALa_GARSHUNIoHE
    aTHeKAPHeLAMADHgMALAYALAM_BHAdJAcLLAbLAeNGAcNAbNAdYAdRAcSSAdTTAmIMdNUNdPEaRSIAN_BHETHfDHALATH
    hGHAMALoQAPHeREVERSED_PEkISHeSADHEeEMKATHgHINdOGDIAN_FEcKHAPHfZHAINmUPERSCRIPT_ALAPHrTAWcETH
    a_GARSHUNInWAWdYUDHa_HEhZAINlMUSICfOBLIQUE_LINE_ABOVEfBELOWsPTHAHA_ABOVEfBELOWfDOTTEDnQUSHSHAYA
    jRBASA_ABOVEfBELOWkUKKAKHAhWAHAfSUBLINEAR_COLONa_SKEWED_LEFTeRIGHTsFULL_STOPrPRALINEAR_COLON
    a_SKEWED_LEFTrFULL_STOPvTHREE_DOTS_ABOVEfBELOWpWO_VERTICAL_DOTS_ABOVEfBELOWxZQAPHA_ABOVEfBELOW
    fDOTTEDqNGEhT-REXdSHIRTgABaLE_TENNIS_PADDLE_AND_BALLzbCOcG_AMPERSANDiPOSTROPHEjSTERISK
    iCIRCUMFLEX_ACCENTqOLONdMMAbERCIAL_ATnDIGIT_EIGHTfFIVEdOUReNINEeONEdSEVENeIXdTHREEeWOdZERO
    jOLLAR_SIGNlEQUALS_SIGNkXCLAMATION_MARKqFULL_STOPjGRAVE_ACCENTkEATER-THAN_SIGNrHYPHEN-MINUS
    mLATIN_CAPITAL_LETTER_AbBbCbDbEbFbGbHbIbJbKbLbMbNbObPbQbRbSbTbUbVbWbXbYbZqSMALL_LETTER_AbBbCbD
    bEbFbGbHbIbJbKbLbMbNbObPbQbRbSbTbUbVbWbXbYbZtEFT_CURLY_BRACKETnPARENTHESISlSQUARE_BRACKET
    rSS-THAN_SIGNnOW_LINEiNUMBER_SIGNlPERCENT_SIGNlLUS_SIGNjQUESTION_MARKlOTATION_MARK
    oREVERSE_SOLIDUSoIGHT_CURLY_BRACKETnPARENTHESISlSQUARE_BRACKETuSEMICOLONiOLIDUSgPACEfTILDE
    fVERTICAL_LINEoALOG_LETTER_AaRCHAIC_RAkBAcDAcGAcHAcIbKAcLAcMAcNAbGAdPAcRAcSAcTAcUbWAcYA
    jSIGN_PAMUDPODiVIRAMAlVOWEL_SIGN_IbUrBANWA_LETTER_AbBAcDAcGAcIbKAcLAcMAcNAbGAdPAcSAcTAcUbWAcYA
    jVOWEL_SIGN_IbUtI_LE_LETTER_AaIbUEdEaEbHcFAcHAcIbKAbHAdLAcMAcNAbGAdOaOcPAbHAdQAcSAcTAbHAcONE-2
    b3b4b5b6fSAbHAeUaEcVAcXAcYAmTHAM_COMBINING_CRYPTOGRAMMIC_DOTzNSONANT_SIGN_BAcFINAL_NGA
    jHIGH_RATHA_OR_LOW_PAuLA_TANG_LAIkOW_PAgMAbEDIAL_LAcRAjSArHORA_DIGIT_EIGHTfFIVEdOUReNINEeONE
    dSEVENeIXdTHREEeWOdZEROpLETTER_AbBAcDAcEEcGREAT_SAiHIGH_CAbHAdFAcHAcKAbHAcXAdPAbHAdRATHAfSAbHA
    cSAdTAbHAdYAhIaIcLAaEcLAcOW_CAbHAdFAcHAcKAbHAcXAdPAbHAdRATHAfSAcTAbHAdYAfUEdMAcNAbGAcYAdOOcRA
    aNAcTAdUEdUaUcWAjSIGN_CAANGfDOKMAIgHANGdOYdKAANaKUUgEOWdHUEN_TONE-3b4b5h-LUE_KARANpMAI_KANG
    a_LAIiSAMdYAMOKjRA_HAAMgEVERSED_ROTATED_RANAvSAKOTdTKAANaKUUiWANfTONE-1b2gWIANGaWAAK
    oTHAM_DIGIT_EIGHTfFIVEdOUReNINEeONEdSEVENeIXdTHREEeWOdZEROpVOWEL_SIGN_AaAbEbIcEbIaIcMAI_SAThO
    aA_ABOVEfBELOWhObYcTALL_AAgHAM_AIhUaEbUaEtVIET_LETTER_HIGH_BOcCHOcOcDOcFOcGOcHOcKHHOcOcOcLOcMO
    cNGOcObYOdObPHOcOcROcSOcTHOcOcVOcYOhLOW_BOcCHOcOcDOcFOcGOcHOcKHHOcOcOcLOcMOcNGOcObYOdObPHOcOcRO
    cSOcTHOcOcVOcYOnMAI_KANGdHITiSYMBOL_HO_HOIgKOI_KOIfNdNUENGfSAMkTONE_MAI_EKcNUENGfSONGeTHO
    mVOWEL_AAbMbNbUEcYcEbIaAcObUaAbEaAqKEOUT_BOXiRI_ABBREVIATION_SIGNrDIGIT_EIGHTfFIVEdOUReNINEeONE
    dSEVENeIXdTHREEeWOdZEROkLETTER_AaAbIbRCHAIC_KHAkUcBAbHAdCAbHAdDAbDAbHAdHAdEbGAbHAdHAcIaIcJAbHA
    dKAbHAdLAcMAcNAbGAcNAcYAdObPAbHAdRAbRAdSAbHAdTAbHAcTAbHAeUaUcVAcYAjSIGN_ANUSVARAiNUKTAfVIRAMA
    eSARGAmVOWEL_SIGN_AAbIbUcEbIaIcObUaUrLLY_MARK_FIVEeONEmMALEdIL_AND_ODD_SIGNlS_ABOVE_SIGN
    mU_LENGTH_MARKoCREDIT_SIGNkURRENT_SIGNmDAY_SIGNhEBIT_SIGNjIGIT_EIGHTfFIVEdOUReNINEeONEdSEVENeIX
    dTHREEeWOdZEROjRY_CULTIVATION_SIGNuFRACTION_DOWNSCALING_FACTOR_KIIZHyONE_EIGHTHbIETHjFIFTH
    eORTIETHiHALF-1b2gONE-HUNDRED-AND-SIXTIETHyQUARTERhSIXTEENTH-1b2hY-FOURTHmTENTHeHIRTY-SECOND
    lREE-HUNDRED-AND-TWENTIETHzbWENTIETHnTHREE_EIGHTIETHSkQUARTERSiSIXTEENTHSgY-FOURTHSnTWENTIETHS
    zIN_POSSESSION_SIGNsLAND_SIGNiETTER_AaAbIbUcCAcEaEcHAcIaIcJAcKAcLAbLAbLAeMAcNAbGAcNAbNAdYAdOaO
    cPAcRAbRAdSAbHAcSAdTAbTAdUaUcVAcYAjMONTH_SIGNkNUMBER_ONE_HUNDREDhTHOUSANDmSIGNeTENkOM
    cPUNCTUATION_END_OF_TEXTxRUPEE_SIGNkSALT_PAN_SIGNmIGN_AAZHAAKKUiNUSVARAiCEVITUgKAACUeURUNIeZHI
    fMUKKURUNIhTHALIYAhUVUZHAKKUlNELdPAARAMeNAMdTHAKKUhONdUZHAKKUhVAKAIYARAAiRAAKANhELIdIRAMAeSARGA
    lPENT_SIGNjTARTING_FROM_SIGNsTOTAL_SIGNjRADITIONAL_CREDIT_SIGNlNUMBER_SIGNxVOWEL_SIGN_AAbIbUcE
    aEcIaIcOaOcUaUnWET_CULTIVATION_SIGNuYEAR_SIGNnNABATA_TREEkGERINEfSA_DIGIT_EIGHTfFIVEdOUReNINE
    eONEdSEVENeIXdTHREEeWOdZEROkLETTER_ACbQbWCbQbXbZcXbZcBAcCAbHAdDAbHAdECbQbXbZcFAbINAL_NGiGAbHA
    dHAbTAbTAeICbQbXbZcKAbHAdLAbONG_UEXiMAbCbQbXbZcNAbGAcHAcYAdOCbQbXbZcPAbHAdRAcSAbHAbORT_AWXdUEZ
    jTAbHAcSAdUCbECbQbXbZcICbQbUCbQbXbZcXbZcQbXbZcVCbQbXbZcWAcXAcYAcZAmUT_COMPONENT-001b2b3b4b5b6b7
    b8b9c10b1b2b3b4b5b6b7b8b9c20b1b2b3b4b5b6b7b8b9c30b1b2b3b4b5b6b7b8b9c40b1b2b3b4b5b6b7b8b9c50b1b2
    b3b4b5b6b7b8b9c60b1b2b3b4b5b6b7b8b9c70b1b2b3b4b5b6b7b8b9c80b1b2b3b4b5b6b7b8b9c90b1b2b3b4b5b6b7
    b8b9d100b1b2b3b4b5b6b7b8b9c10b1b2b3b4b5b6b7b8b9c20b1b2b3b4b5b6b7b8b9c30b1b2b3b4b5b6b7b8b9c40b1
    b2b3b4b5b6b7b8b9c50b1b2b3b4b5b6b7b8b9c60b1b2b3b4b5b6b7b8b9c70b1b2b3b4b5b6b7b8b9c80b1b2b3b4b5b6
    b7b8b9c90b1b2b3b4b5b6b7b8b9d200b1b2b3b4b5b6b7b8b9c10b1b2b3b4b5b6b7b8b9c20b1b2b3b4b5b6b7b8b9c30
    b1b2b3b4b5b6b7b8b9c40b1b2b3b4b5b6b7b8b9c50b1b2b3b4b5b6b7b8b9c60b1b2b3b4b5b6b7b8b9c70b1b2b3b4b5
    b6b7b8b9c80b1b2b3b4b5b6b7b8b9c90b1b2b3b4b5b6b7b8b9d300b1b2b3b4b5b6b7b8b9c10b1b2b3b4b5b6b7b8b9
    c20b1b2b3b4b5b6b7b8b9c30b1b2b3b4b5b6b7b8b9c40b1b2b3b4b5b6b7b8b9c50b1b2b3b4b5b6b7b8b9c60b1b2b3b4
    b5b6b7b8b9c70b1b2b3b4b5b6b7b8b9c80b1b2b3b4b5b6b7b8b9c90b1b2b3b4b5b6b7b8b9d400b1b2b3b4b5b6b7b8b9
    c10b1b2b3b4b5b6b7b8b9c20b1b2b3b4b5b6b7b8b9c30b1b2b3b4b5b6b7b8b9c40b1b2b3b4b5b6b7b8b9c50b1b2b3b4
    b5b6b7b8b9c60b1b2b3b4b5b6b7b8b9c70b1b2b3b4b5b6b7b8b9c80b1b2b3b4b5b6b7b8b9c90b1b2b3b4b5b6b7b8b9
    d500b1b2b3b4b5b6b7b8b9c10b1b2b3b4b5b6b7b8b9c20b1b2b3b4b5b6b7b8b9c30b1b2b3b4b5b6b7b8b9c40b1b2b3
    b4b5b6b7b8b9c50b1b2b3b4b5b6b7b8b9c60b1b2b3b4b5b6b7b8b9c70b1b2b3b4b5b6b7b8b9c80b1b2b3b4b5b6b7b8
    b9c90b1b2b3b4b5b6b7b8b9d600b1b2b3b4b5b6b7b8b9c10b1b2b3b4b5b6b7b8b9c20b1b2b3b4b5b6b7b8b9c30b1b2
    b3b4b5b6b7b8b9c40b1b2b3b4b5b6b7b8b9c50b1b2b3b4b5b6b7b8b9c60b1b2b3b4b5b6b7b8b9c70b1b2b3b4b5b6b7
    b8b9c80b1b2b3b4b5b6b7b8b9c90b1b2b3b4b5b6b7b8b9d700b1b2b3b4b5b6b7b8b9c10b1b2b3b4b5b6b7b8b9c20b1
    b2b3b4b5b6b7b8b9c30b1b2b3b4b5b6b7b8b9c40b1b2b3b4b5b6b7b8b9c50b1b2b3b4b5b6b7b8b9c60b1b2b3b4b5b6
    b7b8nITERATION_MARKtPE_CARTRIDGEjDRIVEiURUSeXIdEACUP_WITHOUT_HANDLEsPOTdR-OFF_CALENDAR
    nDROP-BARBED_RIGHTWARDS_ARROWxSPOKED_ASTERISKwDDY_BEARiLEPHONE_LOCATION_SIGNnON_TOP_OF_MODEM
    pRECEIVERa_WITH_PAGEpORDERiSIGNkSCOPEfVISIONhUGU_AI_LENGTH_MARKoDIGIT_EIGHTfFIVEdOUReNINEeONE
    dSEVENeIXdTHREEeWOdZEROkFRACTION_DIGIT_ONE_FOR_EVEN_POWERS_OF_FOURtODD_POWERS_OF_FOUR
    zbTHREE_FOR_EVEN_POWERS_OF_FOURtODD_POWERS_OF_FOURzcWO_FOR_EVEN_POWERS_OF_FOUR
    tODD_POWERS_OF_FOURzbZERO_FOR_ODD_POWERS_OF_FOURzrLENGTH_MARKjTTER_AaAbIbUcBAbHAdCAbHAdDAbDAbHA
    dHAcZAdEaEcGAbHAdHAcIaIcJAbHAdKAbHAdLAbLAbLAeMAcNAaKAARA_POLLUmGAcNAcYAdOaOcPAbHAdRAbRAbRAeSA
    bHAcSAdTAbHAcSAcTAbHAeUaUcVAbOCALIC_LaLcRaRkYAjSIGN_ANUSVARAhVAGRAHAiCANDRABINDU
    kOMBINING_ANUSVARA_ABOVEoCANDRABINDU_ABOVEzcNUKTAfSIDDHAMhTUUMUfVIRAMAeSARGAmVOWEL_SIGN_AAbIbU
    cEaEcIaIcOaOcUaUcVOCALIC_LaLcRaRzbNGE_SIGNhNIS_RACQUET_AND_BALLuTcST_TUBE
    hTRAGRAM_FOR_ACCUMULATIONlDVANCEgGGRAVATIONkSCENTgBARRIERgOLD_RESOLUTIONoRANCHING_OUTnCENTRE
    fHANGEfLOSED_MOUTHhNESSfUREgOMPLETIONfIANCEiNSTANCYgTACTdENTIONgRARIETYlDARKENINGiECISIVENESS
    kFECTIVENESS_OR_DISTORTIONzPARTUREiIFFICULTIESkMINISHMENTjMINGfVERGENCEjOUBTeUTIESgEASE
    dMBELLISHMENTmNCOUNTERSiDEAVOURhLARGEMENTkTERNITYhXHAUSTIONkFAILUREgLIGHTfOLLOWINGhSTERING
    iULL_CIRCLEhNESSiGATHERINGa_INlOING_TO_MEETmREATNESSiUARDEDNESSlHARDNESShOLDING_BACKmINCREASE
    gNERfJOYdKEEPING_SMALLmINSHIPhLABOURINGhW_OR_MODELlEGIONgMASSINGgEASUREgIREDfON_THE_VERGE
    lPPOSITIONkPACKINGfTTERNgENETRATIONkURITYgREACHdLEASEfSIDENCEfSTANCEhPONSEhITUALgSEVERANCE
    iINKINGgTOPPAGEfVEdRENGTHiUNITYfVASTNESS_OR_WASTINGtWAITINGfTCHfYOUTHFULNESSzHAANA_AABAAFILI
    iBAFILIhEBEFILIgEBEEFILIiYBEYFILIjIBIFILIhLETTER_AINUdLIFUfBAAdCHAVIYANIjDAADHUeVIYANIhHAALU
    gFAAFUfGAAFUeHAINUfNAVIYANIjHAAcHAAeJAVIYANIiKAAFUeHAAeLAAMUeHAVIYANIjMEEMUfNAAcOONUfPAVIYANI
    iQAAFUfRAAdSAADHUfEENUeHAVIYANIhEENUgTAVIYANIhHAAaLUfObTAAeVAAVUfWAAVUfYAAdZAAbVIYANIhO
    jOABOAFILIiBOFILIgOBOOFILIjSUKUNfUBUFILIlI_CHARACTER_ANGKHANKHUkBO_BAIMAIjCHO_CHANaGdINGdOE
    iDO_CHADAfDEKgFO_FAaNeNGMANhHO_HIPdNOKHUKjKHO_KHAIcONcUATdWAIfRAKHANGiMUTfO_KAIgLAKKHANGYAO
    kO_CHULAfLINGgUcMAI_CHATTAWAiEKcHAN-AKATiTHOcRIeTAIKHUgYAMOKhO_MAfNGO_NGUgIKHAHIThO_NENcUfO_ANG
    fPAIYANNOIiHINTHUfO_PHANcUNGfSAMPHAOkO_PLAgRO_RUAfUcSARA_AaAbEbI_MAIMALAIeUANjMcEbIaIcObUaEaEcU
    gO_RUSIeSALAdObUAgTHANTHAKHATjO_NANGMONTHOkPHUTHAOhTHAHANdNcONGdUNGiO_PATAKfTAOgWO_WAEN
    hYAMAKKANhO_YAKcINGqURRENCY_SYMBOL_BAHTuDIGIT_EIGHTfFIVEdOUReNINEeONEdSEVENeIXdTHREEeWOdZERO
    nERE_DOES_NOT_EXISToEXISTShFOREfMODYNAMIChMETERjIN_GREEK_CROSSlSALTIREgPACEgKING_FACE
    kRD_PLACE_MEDALpONG_SANDALjUGHT_BALLOONnREE_BUTTON_MOUSEmCONSECUTIVE_EQUALS_SIGNS
    yDIMENSIONAL_ANGLEqOT_PUNCTUATIONpLEFTWARDS_ARROWSpINES_CONVERGING_LEFTeRIGHT
    wNETWORKED_COMPUTERStPOINTED_BLACK_STARsRAYS_ABOVEfBELOWfLEFTeRIGHTjIGHTWARDS_ARROWS
    rSPEECH_BUBBLESp-D_BOTTOM-LIGHTED_RIGHTWARDS_ARROWHEAD
    zkLEFT-LIGHTED_DOWNWARDS_EQUILATERAL_ARROWHEADztRIGHT-LIGHTED_UPWARDS_EQUILATERAL_ARROWHEAD
    zsTOP-LIGHTED_LEFTWARDS_EQUILATERAL_ARROWHEADzgRIGHTWARDS_ARROWHEADjEQUILATERAL_ARROWHEAD
    zvEM_DASHhPER-EM_SPACEqUMBS_DOWN_SIGNjUP_SIGNlNDER_CLOUD_AND_RAINpSTORM
    lIBETAN_ASTROLOGICAL_SIGN_-KHYUD_PAjSDONG_TSHUGSlGRA_GCAN_-CHAR_RTAGS
    zoCANTILLATION_SIGN_CANG_TE-UjHEAVY_BEATkLIGHT_BEATkSBUB_-CHALzdDIGIT_EIGHTfFIVEdOUReHALF_EIGHT
    fFIVEdOUReNINEeONEdSEVENeIXdTHREEeWOdZEROjNINEeONEdSEVENeIXdTHREEeWOdZEROkKU_RU_KHA
    a_BZHI_MIG_CANwLETTER_-AcAbBAbHAdCAbHAdDAbDAbHAdHAcZAbHAeFIXED-FORM_RAnGAbHAdHAcJAcKAbHAcKAcSSA
    eLAcMAcNAbGAcNAcYAdPAbHAdRAbRAdSAbHAcSAdTAbHAcSAbHAdTAbHAeWAcYAcZAbHAjOGOTYPE_SIGN_CHAD_RTAGS
    kLHAG_RTAGSyMARK_ANG_KHANG_GYAScONoBKA-_SHOG_GI_MGO_RGYANmYIG_MGOqSDUS_RTAGS
    jKA-_SHOG_GI_MGO_RGYANuUR_YIG_MGOnCARET_-DZUD_RTAGS_BZHI_MIG_CANmME_LONG_CAN
    xYIG_MGO_PHUR_SHAD_MAzHE_MGOgLOSING_BRDA_RNYING_YIG_MGO_SGAB_MAzcYIG_MGO_SGAB_MA
    xDELIMITER_TSHEG_BSTARvGTER_TSHEGfYIG_MGO_-UM_GTER_TSHEG_MAnRNAM_BCAD_MAqTRUNCATED_A
    xUG_RTAGS_GYAScONoHALANTAhINITIAL_BRDA_RNYING_YIG_MGO_MDUN_MAzcYIG_MGO_MDUN_MA
    vTERSYLLABIC_TSHEGtLEADING_MCHAN_RTAGStMNYAM_YIG_GI_MGO_RGYANwNGAS_BZUNG_NYI_ZLAhSGOR_RTAGS
    uYIS_SHADeTSHEGa_SHADpPALUTAgRGYA_GRAM_SHADnIN_CHEN_SPUNGS_SHADuSBRUL_SHADjHAD
    eTRAILING_MCHAN_RTAGStSA_-PHRUhHEG_SHADkYIG_MGO_TSHEG_SHAD_MAzbSIGN_GRU_CAN_RGYINGSlMED_RGYINGS
    pINVERTED_MCHU_CANrLCE_TSA_CANjI_RTAGSjMAR_TSHESiCHU_CANiNYI_ZLA_NAA_DAoRDEL_DKAR_GCIGdNYISeSUM
    eRDEL_NAGnNAG_GCIGdNYISeSUMeRDEL_DKARrJES_SU_NGA_ROnNAM_BCADjSNA_LDANiYANG_RTAGSiR_TSHES
    nUBJOINED_LETTER_-AcAbBAbHAdCAbHAdDAbDAbHAdHAcZAbHAeFIXED-FORM_RAcWAcYAnGAbHAdHAcJAcKAbHAcSSA
    eLAcMAcNAbGAcNAcYAdPAbHAdRAcSAbHAcSAdTAbHAcSAbHAdTAbHAeWAcYAcZAbHAkSIGN_INVERTED_MCHU_CAN
    rLCE_TSA_CANlMCHU_CANwYLLABLE_OMjMBOL_DRIL_BUhNOR_BUa_BZHI_-KHYILlGSUM_-KHYILlNYIS_-KHYIL
    sPADMA_GDANjHUR_PAhRDO_RJEa_RGYA_GRAMyVOWEL_SIGN_AAcEaEcIaIcOaOcREVERSED_IaIlUaUcVOCALIC_LaLcR
    aRzcCKETeE_OVER_INFINITYpFINAGH_CONSONANT_JOINERqLETTER_AHAGGAR_YAZHlYER_YAGH
    jBERBER_ACADEMY_YAHbJsTAWELLEMET_YAZnUAREG_YAGHbNcHbKaHcNGcQbZHlYAaAbBaHcCHcDaDaHcHcFbGaHaHdHaH
    cJbKaHaHdLbMbNbPbQbRaRcSaHbScTaHbTcVbWbYbZaHbZdEaYcIbObUjMODIFIER_LETTER_LABIALIZATION_MARK
    zjSEPARATOR_MARKvGERa_FACEhHT_TRIFOLIATE_SNOWFLAKEyLDEa_OPERATORa_ABOVE_LEFTWARDS_ARROW
    pRIGHTWARDS_ARROWwWITH_DOT_ABOVEjRISING_DOTSzWITH_DOT_ABOVEfBELOWjRING_ABOVEtMER_CLOCK
    hS_WITH_LEFT_HALF_BLACKpRIGHT_HALF_BLACKzNYa_TWO_DOTS_OVER_ONE_DOT_PUNCTUATIONzlRED_FACE
    hHUTA_ABBREVIATION_SIGNqNJIeDIGIT_EIGHTfFIVEdOUReNINEeONEdSEVENeIXdTHREEeWOdZEROkGVANGfLETTER_A
    aAbIbUcBAbHAdCAbHAdDAbDAbHAdHAdEbGAbHAdHAcIaIcJAbHAdKAbHAdLAcMAcNAbGAcNAcYAdObPAbHAdRAcSAbHAcSA
    dTAbHAcTAbHAeUaUcVAbOCALIC_LaLcRaRkYAjOMcSIGN_ANUSVARAhVAGRAHAiCANDRABINDUlNUKTAfVIRAMAeSARGA
    mVOWEL_SIGN_AAbIbUcEbIaIcObSHORT_EbOhUaUcVOCALIC_LaLcRaRzbONIAN_SIGN_CAPITAL_ETkETpOILET
    eKYO_TOWERjMATOeNGUEeOLBOXeTHaBRUSHiP_ARC_ANTICLOCKWISE_ARROWa_WITH_PLUS
    zeCLOCKWISE_ARROW_WITH_MINUSzfCURLY_BRACKETnHALF_BLACK_CIRCLEmINTEGRALiLEFT_PARENTHESIS
    qRIGHT_PARENTHESISrSECTION_SIGNpTdLEFT_CORNERfROPeHALF_BRACKETrPARENTHESISlRIGHT_CORNERfROP
    eHALF_BRACKETsSQUARE_BRACKEToTORTOISE_SHELL_BRACKETwWITH_UPWARDS_ARROW_ABOVE
    zbRTOISE_SHELL_BRACKETED_CJK_UNIFIED_IDEOGRAPH-4E09c8Ce52DDdB89e6253d557d72Ce70B9d6D7
    zbLATIN_CAPITAL_LETTER_SzuTAL_RUNOUTjO_LETTER_AaEcBAbREATHY_AEcEaOcIaUkCHAdDAcEaOcGAcHAcIaUcJA
    cKAcLAcMAcNAbGAdObPAcRAcSAcTAcUbWAcYAjSIGN_RISING_TONEuRACKBALLfTOReDE_MARK_SIGNmINcMa_CAR
    fNSPLUTOfVERSAL_INTERSECTIONwIANGLE_WITH_DOT_ABOVEjROUNDED_CORNERSpSERIFS_AT_BOTTOMqUNDERBAR
    o-HEADED_RIGHTWARDS_ARROWzbULAR_BULLETgFLAG_ON_POSTmRULERnCOLONfDENT_EMBLEMlGRAM_FOR_EARTHfFIRE
    eHEAVENgLAKEeMOUNTAINiTHUNDERhWATEReINDnPLE_COLON_OPERATORoDAGGER
    gHORIZONTAL_BAR_WITH_DOUBLE_VERTICAL_STROKEwTRIPLE_VERTICAL_STROKEzrINTEGRAL
    iNESTED_GREATER-THANmLESS-THANqPLUSdRIMEfSOLIDUS_BINARY_RELATIONxTILDE
    fVERTICAL_BAR_BINARY_RELATIONpDELIMITERjRIGHT_TURNSTILEpWITH_HORIZONTAL_STROKEzpOLLaEYBUShPHY
    cICAL_DRINKfFISHlUEa_LIGHT_MOON_ARTArMPETgUGRIK_SIGNjLIPdMBLER_GLASSlRKEYcISH_LIRA_SIGN
    oNED_AMPERSANDiNGLEfBLACK_PENTAGONiSHOGI_PIECErCAPITAL_FiOMMAfDAGGERfIGIT_THREEeWO
    jGREEK_SMALL_LETTER_IOTAxNORTH_EAST_POINTING_LEAFsWEST_POINTING_LEAFwT_SIGNiOK_HAND_SIGN
    mSANS-SERIF_CAPITAL_GbLbYtEMICOLONiMALL_FgOUTH_EAST_POINTING_LEAFsWEST_POINTING_LEAF
    yWHITE_SHOGI_PIECEvTLEfWELVE_POINTED_BLACK_STARxISTED_RIGHTWARDS_ARROWS
    xO_ASTERISKS_ALIGNED_VERTICALLYzdBUTTON_MOUSEmCONSECUTIVE_EQUALS_SIGNSyDOT_LEADERgPUNCTUATION
    mS_OVER_ONE_DOT_PUNCTUATIONzeHEARTSgINTERSECTING_LOGICAL_ANDdORxJOINED_SQUARES
    oLOGICAL_AND_OPERATORmOR_OPERATORtMEN_HOLDING_HANDSrSPEECH_BUBBLESoWOMEN_HOLDING_HANDSu-EM_DASH
    lUGARITIC_LETTER_AINcLPAeBETAeDELTAeHALeGAMLAeHAINfHOaTAeIbKAFcHAdLAMDAfMEMdNUNdPUcQOPAeRASHA
    fSADEcMKAeHINdSUdTETcHANNAfOcUbWOcYODdZETAdUjWORD_DIVIDERuMBRELLAa_ON_GROUNDjWITH_RAIN_DROPS
    xNAMUSED_FACElCERTAINTY_SIGNoDERTIEfO_SYMBOLjICORN_FACEjONa_ABOVE_BAR_ABOVE_INTERSECTION
    wINTERSECTIONsBESIDE_AND_JOINED_WITH_UNIONzdWITH_LOGICAL_ORkMINUS_SIGNkOVERBARpT_SEPARATOR
    kED_SYMBOLkVERSAL_RECYCLING_SYMBOLyMARRIED_PARTNERSHIP_SYMBOLzcP_ARROW_THROUGH_CIRCLEpHEAD
    a_BETWEEN_TWO_HORIZONTAL_BARSzcIN_A_RECTANGLE_BOXzdBARB_LEFT_DOWN_BARB_LEFT_HARPOON
    mRIGHT_HARPOONzdRIGHT_DOWN_BARB_LEFT_HARPOONmRIGHT_HARPOONzjDOWN_ARROWa_WITH_BASEpBLACK_ARROW
    lDOUBLE_ARROWmSANS-SERIF_ARROWqTRIANGLE-HEADED_ARROWvWHITE_ARROWqFISH_TAIL
    jRIGHT_DIAGONAL_ELLIPSISxTACKa_WITH_CIRCLE_ABOVEx-POINTING_AIRPLANEiMILITARY_AIRPLANE
    rRED_TRIANGLEmSMALL_AIRPLANEiRED_TRIANGLEsTRIANGLE_WITH_LEFT_HALF_BLACKpRIGHT_HALF_BLACK
    zpPER_AND_LEFT_AND_LOWER_TRIANGULAR_THREE_QUARTERS_BLOCKzuOWER_ONE_EIGHTH_BLOCK
    qTRIANGULAR_HALF_BLOCKzcRIGHT_AND_LOWER_TRIANGULAR_THREE_QUARTERS_BLOCKzzbBLADE_SCISSORS
    oFIVE_EIGHTHS_BLOCKsHALF_BLOCKa_AND_LOWER_HALF_INVERSE_MEDIUM_SHADEzqCIRCLE
    gINVERSE_MEDIUM_SHADE_AND_LOWER_HALF_BLOCKziWHITE_CIRCLEuMEDIUM_SHADE
    rLEFT_BLOCK_DIAGONAL_LOWER_CENTRE_TO_LOWER_MIDDLE_RIGHTsUPPER_MIDDLE_RIGHTmRIGHT
    vLEFT_TO_LOWER_MIDDLE_RIGHTsUPPER_CENTREgMIDDLE_RIGHTzbMIDDLE_LEFT_TO_UPPER_CENTREgMIDDLE_RIGHT
    mRIGHTzhUPPER_MIDDLE_LEFT_TO_UPPER_CENTREgRIGHTzwCORNER_WITH_DOT
    pOR_LOWER_RIGHT_CURLY_BRACKET_SECTIONzlQUADRANT_CIRCULAR_ARCvTO_LOWER_RIGHT_FILLsRIANGLE
    cULAR_MEDIUM_SHADEzdONE_EIGHTH_BLOCKmQUARTER_BLOCK
    rRIGHT_BLOCK_DIAGONAL_LOWER_MIDDLE_LEFT_TO_LOWER_CENTREgRIGHT
    zhUPPER_CENTRE_TO_LOWER_MIDDLE_RIGHTmRIGHTlUPPER_MIDDLE_RIGHTzdLEFT_TO_LOWER_CENTRE
    gMIDDLE_RIGHTsUPPER_MIDDLE_RIGHTzbMIDDLE_LEFT_TO_LOWER_CENTREgMIDDLE_RIGHTmRIGHT
    zwDROP-SHADOWED_WHITE_SQUAREzbOR_LOWER_LEFT_CURLY_BRACKET_SECTIONzkPENCILgQUADRANT_CIRCULAR_ARC
    vSHADOWED_WHITE_CIRCLEgSQUAREvTO_LOWER_LEFT_FILLrRIANGLEcULAR_MEDIUM_SHADEzeSEVEN_EIGHTHS_BLOCK
    tTHREE_EIGHTHS_BLOCKnQUARTERS_BLOCKtRIANGULAR_ONE_QUARTER_BLOCKzhSIDE-DOWN_FACEoWARDS_ANCORA
    fRROWa_AND_RIGHT_ONE_EIGHTH_BLOCKzbFROM_BARiLEFTWARDS_OF_DOWNWARDS_ARROWzdTO_BAR
    gWITH_DOUBLE_STROKEnEQUILATERAL_ARROWHEADvHORIZONTAL_STROKErLARGE_TRIANGLE_ARROWHEAD
    yMEDIUM_TRIANGLE_ARROWHEADzNOTCHED_TAILmSMALL_EQUILATERAL_ARROWHEADvTRIANGLE_ARROWHEAD
    yTIP_LEFTWARDSjRIGHTWARDSzBLACK_ARROWfCIRCLED_WHITE_ARROWzCOMPRESSED_ARROWqDASHED_ARROW
    lOUBLE_ARROWmFINGER-POST_ARROWrHARPOON_WITH_BARB_LEFT_BESIDE_DOWNWARDS_HARPOON_WITH_BARB_RIGHT
    ziUPWARDS_HARPOON_WITH_BARB_RIGHTznFROM_BARiTO_BARhWARDSjRIGHT_FROM_BARiTO_BARhWARDS
    zcEAVY_ARROWfCOMPRESSED_ARROWwPAIRED_ARROWSnQUADRUPLE_ARROWpROCKETgSANS-SERIF_ARROW
    pQUARED_ARROWnTRIANGLE_ARROWHEADk-HEADED_ARROWa_LEFTWARDS_OF_DOWNWARDS_TRIANGLE-HEADED_ARROW
    ztTO_BARgWITH_BOLD_SHAFTkDOUBLE_HORIZONTAL_STROKEyHEAVY_SHAFTlLONG_TIP_LEFTWARDSjRIGHTWARDS
    tMEDIUM_SHAFTmNARROW_SHAFTmVERY_HEAVY_SHAFTzcDASHED_ARROWmPAIRED_ARROWSzbPLE_ARROW
    lWO_HEADED_ARROWn-HEADED_ARROW_FROM_SMALL_CIRCLErWITH_TRIANGLE_ARROWHEADSzqWHITE_ARROW
    a_FROM_BARa_WITH_HORIZONTAL_BARzdON_PEDESTALa_WITH_HORIZONTAL_BARoVERTICAL_BAR
    zeWITHIN_TRIANGLE_ARROWHEADzgDOUBLE_ARROWa_ON_PEDESTALzmRANUSfScVAI_COMMAfDIGIT_EIGHTfFIVEdOUR
    eNINEeONEdSEVENeIXdTHREEeWOdZEROkFULL_STOPjQUESTION_MARKnSYLLABLE_AaNcBAbEaEcHAbEaEcIbOaOcUcIbO
    aOcUcCAbEaEcIbOaOcUcDAbEaEcHAbEaEcHAbEaEcIbOaOcUcIbOaOcUcIbOaOcUcEaEaNcNcFAbEaEcIbOaOcUcGAbBAbE
    aEbNcIbOaNbOcUcEaEbNcIbOaOcUcHAaNcEaEbNcIaNcOaNbOcUaNdIaNcJAbEaEcIbOaOcUcKAaNcEaEcIbOaOcPAaNcE
    aEbNcIbOaOcUcUcLAbEaEbNGTHENERjIbOaOcUcMAbBAbEaEcIbOaOcUcEaEcGBAbEaEcIbOaOcUdIbOaOcUcNAbDAbEaE
    cIbOaLE_DOcFAcKAcMAcSOOgOcUcEaEcGaANcENcGAbEaEbNcIbOaOcUcONdIbJAbEaEcIbOaOcUcOaOcUbYAbEaEcIbOaO
    cUdOaNbOaNdPAbEaEcIbOaOcUcRAbEaEcIbOaOcUcSAbEaEcHAbEaEcIbOaOcUcIbOaOcUcTAbEaEcHAbEaEcIbOaOcUcI
    bOaOcUcUaNcVAbEaEcIbOaOcUcWAaNcEaEaNcNcIaNcOaNbOaNdUaNdYAbEaEcIbOaOcUcZAbEaEcHAbEaEcIbOaOcUcIbO
    aOcUjMBOL_BANGeDANGdO-OcONGfFAAcEENGfJONGeKEENGeUNGeNIIdTAAcINGdONGnMPIREfRIATION_SELECTOR-1a0
    a0b1b2b3b4b5b6b7b8b9c1a0b1b2b3b4b5b6b7b8b9c2a0b1b2b3b4b5b6b7b8b9c3a0b1b2b3b4b5b6b7b8b9c4a0b1b2
    b3b4b5b6b7b8b9c5a0b1b2b3b4b5b6b7b8b9c6a0b1b2b3b4b5b6b7b8b9c7a0b1b2b3b4b5b6b7b8b9c8a0b1b2b3b4b5
    b6b7b8b9c9a0b1b2b3b4b5b6b7b8b9d2a0a0b1b2b3b4b5b6b7b8b9c1a0b1b2b3b4b5b6b7b8b9c2a0b1b2b3b4b5b6b7
    b8b9c3a0b1b2b3b4b5b6b7b8b9c4a0b1b2b3b4b5b6b7b8b9c5a0b1b2b3b4b5b6c6b7b8b9c3a0b1b2b3b4b5b6b7b8b9
    c4a0b1b2b3b4b5b6b7b8b9c5a0b1b2b3b4b5b6b7b8b9c6a0b1b2b3b4b5b6b7b8b9c7a0b1b2b3b4b5b6b7b8b9c8a0b1
    b2b3b4b5b6b7b8b9c9a0b1b2b3b4b5b6b7b8b9uECTOR_OR_CROSS_PRODUCTvDIC_SIGN_ANUSVARA_ANTARGOMUKHA
    mBAHIRGOMUKHAmUBHAYATO_MUKHAoVAMAGOMUKHAa_WITH_TAILzeRDHAVISARGAlTIKRAMA
    iDOUBLE_ANUSVARA_ANTARGOMUKHAzdHEXIFORM_LONG_ANUSVARAwJIHVAMULIYAlLONG_ANUSVARAnNIHSHVASA
    jREVERSED_VISARGA_ANUDATTAiUDATTAwOTATED_ARDHAVISARGAtTHANG_LONG_ANUSVARAuTIRYAKgUPADHMANIYA
    lVISARGA_ANUDATTAa_WITH_TAILsSVARITAhUDATTAa_WITH_TAILyYAJURVEDIC_MIDLINE_SVARITA
    zgTONE_ATHARVAVEDIC_INDEPENDENT_SVARITAzhCANDRA_ABOVEfBELOWmDOT_BELOWhUBLE_RING_ABOVEkSVARITA
    oKARSHANAgTHAKA_ANUDATTAqPRENKHAhRIGVEDIC_KASHMIRI_INDEPENDENT_SVARITAzkNG_ABOVEkSHARA
    fTHREE_DOTS_BELOWpRIPLE_SVARITAnWO_DOTS_BELOWoYAJURVEDIC_AGGRAVATED_INDEPENDENT_SVARITA
    zfINDEPENDENT_SVARITAtKATHAKA_INDEPENDENT_SVARITAa_SCHROEDERzzhRSICLE
    fTICAL_BAR_BESIDE_RIGHT_TRIANGLEvDOUBLE_LEFT_TURNSTILEvTRIPLE_RIGHT_TURNSTILE
    wWITH_HORIZONTAL_STROKEzbELLIPSISiFOUR_DOTSjIDEOGRAPHIC_ITERATION_MARKzbKANA_REPEAT_MARK
    a_LOWER_HALFkUPPER_HALFpWITH_VOICED_SOUND_MARKa_UPPER_HALFzuLINEa_EXTENSIONjWITH_CIRCLE_ABOVE
    fBELOWmMIDDLE_DOTuMALE_WITH_STROKE_SIGNvONE_EIGHTH_BLOCK-2b3b4b5b6b7sSIX_DOTSiTAB_KEYeULATION
    a_SETnILDEeRAFFIC_LIGHTnZIGZAG_LINErY_BOLD_GREEK_CROSSqHEAVY_EIGHT_POINTED_BLACK_STAR
    sSPOKED_ASTERISKvFIVE_SPOKED_ASTERISKuGREEK_CROSSlREVERSE_SOLIDUSpSALTIREgIX_SPOKED_ASTERISK
    sOLIDUShWHITE_CIRCLEgSQUAREsMUCH_GREATER-THANmLESS-THANrSTAeIBRATION_MODEmCTORY_HANDkDEO_CAMERA
    gGAMEfCASSETTElETNAMESE_ALTERNATE_READING_MARK_CAcNHAYzkWDATA_SQUAREnOLINeRGO
    dTHKUQI_CAPITAL_LETTER_AbBBEcEcCEbHEdDEbHEdEaIcFEcGAcHAbHAdIaJEdJEcKAcLAbLAdMEcNEbJEdObPEcQAcRE
    cSEbHEdTEbHEdUbVEcXEcYbZErSMALL_LETTER_AbBBEcEcCEbHEdDEbHEdEaIcFEcGAcHAbHAdIaJEdJEcKAcLAbLAdME
    cNEbJEdObPEcQAcREcSEbHEdTEbHEdUbVEcXEcYbZExOIDED_GREEK_CROSSqLCANOeLEYBALLhUME_INTEGRALoS1a0a0
    b1b2b3b4b5b6b7b8b9c1a0b1b2b3b4b5b6b7b8b9c2a0b1b2b3b4b5b6b7b8b9c3a0b1b2b3b4b5b6b7b8b9c4a0b1b2b3
    b4b5b6b7b8b9c5a0b1b2b3b4b5b6b7b8b9c6a0b1b2b3b4b5b6b7b8b9c7a0b1b2b3b4b5b6b7b8b9c8a0b1b2b3b4b5b6
    b7b8b9c9a0b1b2b3b4b5b6b7b8b9d2a0a0b1b2b3b4b5b6b7b8b9c1a0b1b2b3b4b5b6b7b8b9c2a0b1b2b3b4b5b6b7b8
    b9c3a0b1b2b3b4b5b6b7b8b9c4a0b1b2b3b4b5b6b7b8b9c5a0b1b2b3b4b5b6c6b7b8b9c3a0b1b2b3b4b5b6b7b8b9c4
    a0b1b2b3b4b5b6b7b8b9c5a0b1b2b3b4b5b6b7b8b9c6a0b1b2b3b4b5b6b7b8b9c7a0b1b2b3b4b5b6b7b8b9c8a0b1b2
    b3b4b5b6b7b8b9c9a0b1b2b3b4b5b6b7b8b9dTaScULCANUSfGAR_FRACTION_FIVE_EIGHTHShSIXTHSkOUR_FIFTHS
    lONE_EIGHTHgFIFTHfHALFeNINTHfQUARTERhSEVENTHgIXTHfTENTHeHIRDjSEVEN_EIGHTHSnTHREE_EIGHTHShFIFTHS
    gQUARTERSnWO_FIFTHSgTHIRDSkZERO_THIRDSzcWAFFLEeNCHO_DIGIT_EIGHTfFIVEdOUReNINEeONEdSEVENeIX
    dTHREEeWOdZEROkLETTER_AaAaNaGdNGcUcBAcCAcDAcEaNcFAcGAcHAcIaNGdJAcKAbHAdLAbLHAeMAcNAbGAcYAdOaNaG
    dPAbHAdRAcSAbHAdTAbHAcRAcSAdUaENdVAcWAcYAbIHdZAjNGUN_SIGNjTONE_KOIaNIfTUPaNI
    oING_CRESCENT_MOON_SYMBOLuGIBBOUS_MOON_SYMBOLyRANG_CITI_CAPITAL_LETTER_AaMbNGcTcBUcDAcEaNNbYdGA
    cHARcIYOdOLOcRReIIcKOcNGAAdUNGeOaDDdPUcSIIcSUUeTTEdUCbUcVIYOeWIcYAbObUaJsDIGIT_EIGHTfFIVEdOUR
    eNINEeONEdSEVENeIXdTHREEeWOdZEROkNUMBER_EIGHTYgFIFTYeORTYfNINETYgSEVENTYgIXTYfTENcHIRTYfWENTY
    nOMcSMALL_LETTER_AaMbNGcTcBUcDAcEaNNbYdGAcHARcIYOdOLOcRReIIcKOcNGAAdUNGeOaDDdPUcSIIcSUUeTTEdUC
    bUcVIYOeWIcYAbObUaJzNING_SIGNkSTEBASKETjTCHcER_BUFFALOhCLOSETgPOLOeWAVEfMELON
    iVE_ARROW_POINTING_DIRECTLY_LEFTeRIGHTzeDASHgING_BLACK_FLAGkHAND_SIGNjWHITE_FLAGoY_DASHeLINE
    dOW_LINEiOVERLINElXING_CRESCENT_MOON_SYMBOLuGIBBOUS_MOON_SYMBOLzEARY_CAT_FACEiFACEiDDING
    eGE-TAILED_RIGHTWARDS_ARROWzcIERSTRASS_ELLIPTIC_FUNCTIONzbGHT_LIFTERlST_SYRIAC_CROSSqHALEdEEL
    a_OF_DHARMAkCHAIR_SYMBOLpITE_ARROW_SHAFT_WIDTH_ONEdTWO_THIRDSzdBULLETgCHESS_BISHOP
    a_ROTATED_NINETY_DEGREESoTWO_HUNDRED_SEVENTY_DEGREESzrEQUIHOPPERa_ROTATED_NINETY_DEGREESziKING
    a_ROTATED_NINETY_DEGREESoTWO_HUNDRED_SEVENTY_DEGREESzoNIGHTa_ROTATED_FORTY-FIVE_DEGREES
    sNINETY_DEGREESoONE_HUNDRED_THIRTY-FIVE_DEGREESzgTHREE_HUNDRED_FIFTEEN_DEGREES
    zdWO_HUNDRED_SEVENTY_DEGREESpTWENTY-FIVE_DEGREESzp-BISHOPgQUEENfROOKlPAWN
    a_ROTATED_NINETY_DEGREESoTWO_HUNDRED_SEVENTY_DEGREESzpQUEENa_ROTATED_NINETY_DEGREES
    oTWO_HUNDRED_SEVENTY_DEGREESzqROOKa_ROTATED_NINETY_DEGREESoTWO_HUNDRED_SEVENTY_DEGREES
    zpTURNED_BISHOPgKINGdNIGHTgPAWNeQUEENfROOKqIRCLEa_CONTAINING_BLACK_SMALL_CIRCLEzeWITH_DOT_RIGHT
    hWN_ARROWkLOWER_LEFT_QUADRANTnRIGHT_QUADRANTuTWO_DOTSiUPPER_LEFT_QUADRANTnRIGHT_QUADRANT
    zgLUB_SUITiONCAVE-SIDED_DIAMONDa_WITH_LEFTWARDS_TICKoRIGHTWARDS_TICKzrDIAMOND
    a_CONTAINING_BLACK_MEDIUM_DIAMONDoSMALL_DIAMONDnVERY_SMALL_DIAMONDzkIN_SQUAREjSUIT
    eWITH_CENTRED_DOTxOWN_POINTING_BACKHAND_INDEXoINDEXfLEFT_HAND_INDEXz-POINTING_SMALL_TRIANGLE
    oTRIANGLEvRAUGHTS_KINGeMANmEXCLAMATION_MARK_ORNAMENTzFLAGa_WITH_HORIZONTAL_MIDDLE_BLACK_STRIPE
    znORETTEfWERfOUR_POINTED_CUSPeSTARqROWNING_FACEnHARD_SHELL_FLOPPY_DISKvEARTa_SUIThVY_CHECK_MARK
    kSALTIRE_WITH_ROUNDED_CORNERSzhXAGONgORIZONTAL_ELLIPSEqURGLASSjLARGE_SQUAREkTIN_CROSS
    kEFT_LANE_MERGEkPOINTING_BACKHAND_INDEXoINDEXp-POINTING_POINTERhSMALL_TRIANGLEoTRIANGLE
    vOZENGE_CONTAINING_BLACK_SMALL_LOZENGEznMEDIUM_DIAMONDhLOZENGEhSMALL_SQUARElQUAREfTAR
    kOON_SELENAlNIBdPARALLELOGRAMmENNANTeTAGONiQUESTION_MARK_ORNAMENTwRECTANGLE
    iIGHT_POINTING_BACKHAND_INDEXoINDEXp-POINTING_PENTAGONhOINTERhSMALL_TRIANGLEoTRIANGLExSCISSORS
    hESAME_DOTjHOGI_PIECEkMALL_LOZENGEhSQUAREfTARiILING_FACElPADE_SUITjQUAREa_BUTTON
    gCONTAINING_BLACK_MEDIUM_SQUAREnSMALL_SQUAREmVERY_SMALL_SQUAREzjWITH_CENTRE_VERTICAL_LINE
    uLEFTWARDS_TICKnOWER_LEFT_QUADRANTnRIGHT_QUADRANTuRIGHTWARDS_TICKoOUNDED_CORNERS
    pUPPER_LEFT_QUADRANTnRIGHT_QUADRANTuVERTICAL_BISECTING_LINEzjTARdUNa_BEHIND_CLOUDa_WITH_RAIN
    wWITH_RAYSeSMALL_CLOUDuTELEPHONEiOUCHTONE_TELEPHONEsRAPEZIUM
    hIANGLE_CONTAINING_SMALL_WHITE_TRIANGLEzoWO-WAY_LEFT_WAY_TRAFFICyUP_POINTING_BACKHAND_INDEX
    oINDEXp-POINTING_CHEVRONhSMALL_TRIANGLEoTRIANGLEa_WITH_DOTzeVERTICAL_BARdELLIPSEhRECTANGLE
    pY_SMALL_SQUAREs-FEATHERED_RIGHTWARDS_ARROWzgIDE-HEADED_DOWNWARDS_BARB_ARROWkHEAVY_BARB_ARROW
    qLIGHT_BARB_ARROWqMEDIUM_BARB_ARROWrVERY_HEAVY_BARB_ARROWzgLEFTWARDS_BARB_ARROW
    kHEAVY_BARB_ARROWqLIGHT_BARB_ARROWqMEDIUM_BARB_ARROWrVERY_HEAVY_BARB_ARROW
    zgNORTH_EAST_BARB_ARROWkHEAVY_BARB_ARROWqLIGHT_BARB_ARROWqMEDIUM_BARB_ARROW
    rVERY_HEAVY_BARB_ARROWzbWEST_BARB_ARROWkHEAVY_BARB_ARROWqLIGHT_BARB_ARROWqMEDIUM_BARB_ARROW
    rVERY_HEAVY_BARB_ARROWzhRIGHTWARDS_BARB_ARROWkHEAVY_BARB_ARROWqLIGHT_BARB_ARROW
    qMEDIUM_BARB_ARROWrVERY_HEAVY_BARB_ARROWzhSOUTH_EAST_BARB_ARROWkHEAVY_BARB_ARROW
    qLIGHT_BARB_ARROWqMEDIUM_BARB_ARROWrVERY_HEAVY_BARB_ARROWzbWEST_BARB_ARROWkHEAVY_BARB_ARROW
    qLIGHT_BARB_ARROWqMEDIUM_BARB_ARROWrVERY_HEAVY_BARB_ARROWzhUPWARDS_BARB_ARROWkHEAVY_BARB_ARROW
    qLIGHT_BARB_ARROWqMEDIUM_BARB_ARROWrVERY_HEAVY_BARB_ARROWzoGGLY_VERTICAL_LINEsLTED_FLOWER
    lND_BLOWING_FACEmCHIMEgOWdE_GLASShKING_FACEkRED_KEYBOARDnJbOLF_FACEhMANa_WITH_BUNNY_EARS
    qS_BOOTSfCLOTHEShHATdSANDALkENS_SYMBOLlN_SIGNgODcRD_JOINERgSEPARATOR_MIDDLE_DOTwLD_MAPgM
    bRIED_FACElRAPPED_PRESENTnEATH_PRODUCTlNCHdSTLERShITING_HANDmX_IN_A_RECTANGLE_BOXt-RAY
    eIANGQI_BLACK_CANNONfHARIOThELEPHANTiGENERALhHORSEfMANDARINiSOLDIERnRED_CANNONfHARIOThELEPHANT
    iGENERALhHORSEfMANDARINiSOLDIERsORdYAWNING_FACElELLOW_HEARTkN_SIGNgZIDI_COMBINING_HAMZA_MARK
    kMADDA_MARKuHYPHENATION_MARKqLETTER_BEcCHHIMdIMdIMdDADbLdELIFdTbWbYNdFAcGAFdHAYcHAdJAcKAFcHAF
    eLAMa_WITH_DOT_ABOVEsMIMdNUNdOWcPEbHEdQAFdRAbHAdSADcEbHINdINdTAbHEdUMcVAa_ALTERNATE_FORMrWAWdXA
    bHEYNfYOTa_WITH_CIRCUMFLEX_ABOVEzZAaLcEpI_RADICAL_BBUTdURdCHEcIPcUOPdYaPbTdDDURdUcGAbEPcGOPcUO
    dOTdHMOcXITcOPcUOeJJIEcUTcYcOcKEbITdLIaEcYRdMIbOPdNBIEdYIPcOPdZUPeOPcPUTcYTdQOTdSHATcOPcURcYcSI
    dTATcUcVEPcURdWOcYITcOcZAbOTcUPbRcZIETnSYLLABLE_AaPbTbXcBAaPbTbXcBAaPbTbXcEaPbXcIaEaPbTbXcPbTbX
    cOaPbTbXcUaOaPbXcPbRaXcTbXcYaPbTbXdEaPbXcIaEaPbTbXcPbTbXcOaPbTbXcUaOaPbXcPbRaXcTbXcYaPbRaXcTbX
    dCAaPbTbXcEaPbXcHAaPbTbXcEaPbTbXcOaPbTbXcUaOaPbTbXcPbRaXcXcYaPbRaXcTbXdIaEaPbTbXcPbTbXcOaPbTbX
    cUaOaPbXcPbRaXcTbXcYaPbRaXcTbXdDAaPbTbXcDAaPbTbXcEaPbXcIaEaPbXcPbTbXcOaPbTbXcUaOaPbXcPbRaXcTbX
    dEaPbXcIaEaPbXcPbTbXcOaPbTbXcUaOaXcPbRaXcTbXdEaXcFAaPbTbXcIaPbTbXcOaPbXcUaPbRaXcTbXcYaPbTbXdGA
    aPbTbXcEaPbTbXcGAaPbTbXcEaPbTbXcIaEaPbXcTbXcOaPbTbXcUaOaPbTbXcPbRaXcTbXdIaEaPbTbXcPbTbXcOaPbTbX
    cUaOaPbTbXcPbRaXcTbXdHAaPbTbXcEaPbXcIEaXcTcLAaPbTbXcEaPbXcIaEaPbXcPbTbXcOaPbXcUaOaPbXcPbRaXcTbX
    cYaPbRaXcTbXdMAaPbTbXcIaEaPbXcPbTbXcOaPbTbXcUaOaPbXcPbRaXcTbXcYaPbRaXcXdNAaPbTbXcEaPbXcIaEaPbT
    bXcPbTbXcOPbTbXcUOaXcTdOaPbTbXcUOaPbTbXdXAaPbTbXcEaPbXcIaEaPbTbXcPbTbXcOaPbTbXcUOaPbTbXfIaEaPbT
    bXcPbTaERATION_MARKnXcJIaEaPbTbXcPbTbXcJIaEaPbTbXcPbTbXcOaPbTbXcUaOaPbXcPbRaXcTbXcYaPbTbXdOaPbT
    bXcUaOaPbTbXcPbRaXcTbXcYaPbRaXcTbXdKAaPbTbXcEaPbTbXcIaEaPbXcPbTbXcOaPbTbXcUaOaPbXcPbRaXcTbXdLA
    aPbTbXcEaPbXcIaEaPbTbXcPbTbXcOaPbTbXcUaOaPbTbXcPbRaXcTbXcYaPbRaXcTbXdMAaPbTbXcEaXcGAaPbTbXcEaP
    bXcIEaXdOaPbTbXcUaOaPbXcPbRaXcTbXdIaEaPbXcPbTbXcOaPbTbXcUaOaPbTbXcPbRaXcTbXcYaPbTbXdNAaPbXcBAaP
    bTbXcIaEaPbXcPbTbXcOaPbTbXcUaPbRaXcTbXcYaPbRaXcTbXdDAaPbTbXcEaPbXcIaEaXcPbTbXcOaPbTbXcUaPbRaXcT
    bXdEaPbXcGAaPbTbXcEaPbXcIEaPbXdOaPbTbXcUOaTbXeIaEaPbXcPbTbXcJIaEaPbTbXcPbTbXcOaPbTbXcUaOaXcPbR
    aXcXcYaPbRaXcTbXdOaPbTbXcRAaPbTbXcEaPbTbXcOaPbXcUaPbRaXcTbXcYaPbRaXcTbXdUaOaPbXcPbRaXcTbXcYIaE
    aPbTbXcPbTbXcOaPbTbXcUaOaPbXcPbTbXdZAaPbTbXcEaXcIaEaPbXcPbTbXcOPbXcUaOaXcPbRaXcXcYaPbRaXcTbXeO
    aPbTbXcPAaPbTbXcIaEaPbXcPbTbXcOaPbTbXcUaOaPbXcPbRaXcTbXcYaPbRaXcTbXdQIaEaPbTbXcPbTbXcOaPbTbXcU
    aOaPbTbXcPbRaXcTbXcYaPbRaXcTbXdRAaPbTbXcEaPbXcOaPbTbXcRAaXcEaPbTbXcOaPbTbXcUaOaXcPbRaXcTbXcYaP
    bRaXcTbXdUaOaPbXcPbRaXcTbXcYaPbRaXcTbXdSAaPbTbXcEaPbXcHAaPbTbXcEaPbTbXcOaPbTbXcUaOaPbXcPbRaXcT
    bXcYaPbRaXcTbXdIaEaPbXcPbTbXcOaPbTbXcSAaPbTbXcEaPbXcIaEaPbXcPbTbXcOaPbTbXcUaPbTbXcYaPbRaXcTbXdU
    aOaPbXcPbRaXcTbXcYaPbRaXcTbXdTAaPbTbXcEaPbXcIaEaPbXcPbTbXcOaPbTbXcUaOaPbTbXcPbRaXcTbXdUOaPbXdVA
    aPbTbXcEPbXcIaEaPbTbXcPbTbXcOaPbTbXcUaPbRaXcTbXcYaPbRaXcTbXdWAaPbTbXcEaPbXcOaPbXcUaOaPbXeXIaEaP
    bTbXcPbTbXcOaPbTbXcUOaXdYaPbRaXcTbXdYIaEaPbTbXcPbTbXcOaPbTbXcUaOaPbTbXcPbRaXcTbXcYaPbRaXcTbXdZA
    aPbTbXcEaPbXcHAaPbTbXcEaPbTbXcOaPbTbXcUaOaPbXcPbRaXcTbXcYaPbRaXcTbXdIaEaPbXcPbTbXcOaPbTbXcUaOaP
    bXcPbRaXcTbXcYaPbRaXcTbXcZAaPbTbXcEaPbXcIaEaPbTbXcPbTbXcOaPbXcUaPbRaXcXcYaPbRaXcTbXoN_YANGhO-YO
    fZ_NOTATION_BAG_MEMBERSHIPoDOMAIN_ANTIRESTRICTIONwLEFT_BINDING_BRACKETpIMAGE_BRACKET
    sRANGE_ANTIRESTRICTIONuELATIONAL_COMPOSITIONvIGHT_BINDING_BRACKETpIMAGE_BRACKET
    tSCHEMA_COMPOSITIONlPIPINGfROJECTIONqPOTeTYPE_COLON
    uANABAZAR_SQUARE_CLOSING_DOUBLE-LINED_HEAD_MARKwHEAD_MARKpUSTER-FINAL_LETTER_LAcRAcVAcYA
    pINITIAL_LETTER_RAzFINAL_CONSONANT_MARKuINITIAL_DOUBLE-LINED_HEAD_MARKwHEAD_MARKrLETTER_-AcAbBA
    bHAdCAbHAdDAbDAbHAdHAcZAbHAeGAbHAdHAcJAcKAbHAcSSAeLAcMAcNAbGAcNAcYAdPAbHAdRAcSAbHAcSAdTAbHAcSA
    bHAdTAbHAeVAcYAcZAbHAkMARK_DOUBLE_SHADlLONG_TSHEGkSHADeTSHEGkSIGN_ANUSVARAiCANDRA_WITH_ORNAMENT
    oBINDUa_WITH_ORNAMENTzVIRAMAeSARGAlUBJOINERjVOWEL_LENGTH_MARKlSIGN_AIbUcEbIbOaEcREVERSED_IkUaE
    zeEBRA_FACEiRO_WIDTH_JOINERgNO-BREAK_SPACEmN-JOINERkSPACEoUSdIPPER-MOUTH_FACE
    qNAMENNY_COMBINING_ATTACHING_VERTICAL_OMETxLOWER_TONAL_RANGE_INDICATORzcMARK_BORZAYAhCHASHKA
    a_POLNAYAoURVED_OMETlDEMESTVENNY_ZADERZHKAuVOETOCHIEkGORAZDO_NIZKO_ON_LEFTeRIGHT
    iS_KRYZHEM_ON_LEFTeRIGHTyVYSOKOoKACHKAfRYZHa_ON_LEFTmUPNAYAhLOMKAfMALO_POVYSHE_ON_LEFTeRIGHT
    iS_KHOKHLOM_ON_LEFTeRIGHTqRYZHEMiTRANNOuNIZKO_ON_LEFTeRIGHTiS_KRYZHEM_ON_LEFTeRIGHTyOBLACHKOhN
    bTSECHKAiPODCHASHIEa_WITH_VERTICAL_STROKEzdVERTKAhVYSHE_ON_LEFTeRIGHTiS_KHOKHLOM_ON_LEFTeRIGHT
    qRYZHEMiTRANNOpRAVNOdZSEKAhSKOBAeOROCHYA_NOZHKAoREDNE_ON_LEFTeRIGHToTRANNO_MALO_POVYSHEuTIKHAYA
    gOCHKAfSATA_ON_LEFTeRIGHTiS_KRYZHEMpUDARKAgVYSOKO_ON_LEFTeRIGHTiS_KHOKHLOM_ON_LEFTeRIGHTqRYZHEM
    qZADERZHKAiELOcVOKkTONAL_RANGE_MARK_MRACHNOhSVETLOgTRESVETLOzlNEUME_CHASHKAfELYUSTKA
    kDEMESTVENNY_KLYUCHqRBITSAhOUBLE_ZAPYATAYApUDAdVA_V_CHELNUmFITAeGOLUBCHIK_BORZYfMRACHNYhSVETLY
    gTIKHYeRESVETLYtKHAMILOgLYUCHfOBYLAfRYUKa_TIKHYiZHeUFISMAhMECHIKa_KLYUCHENEPOSTOYANNYmPOVODNY
    hVOYkPOVODNYoNEMKAfOBLAKOfSOKAa_KLYUCHEVAYA_NEPOSTOYANNAYAoSVETLAYAtRYUKOVAYA_SVETLAYAtSVETLAYA
    iTRESVETLAYArPALKAdRAKLITgUKdEREVODKAa_NEPOSTOYANNAYAxODCHASHIEiLKULIZMYkREVERSED_CHELYUSTKAsOG
    dSKAMEYTSA_DVOECHELNAYA_KLYUCHEVAYAlNEPOSTOYANNAYAoPROSTAYAiSVETLAYAvKLYUCHENEPOSTOYANNAYA
    oVAYA_SVETLAYAiTIKHAYAtMRACHNAYAjSVETLAYAiTIKHAYAgRESVETLAYAuLOZHITIEa_S_KRYZHEMhZAPYATOY
    kZAKRYTOErTATYAa_NEPOSTOYANNAYAoS_DVUMYA_ZAPYATYMIqKRYZHEMa_I_ZAPYATOYsROGOMfZAPYATOY
    a_I_KRYZHEMhPODCHASHIEMyZAKRYTAYAa_S_ZAPYATOYzOPITSAa_S_OCHKOMiWITH_SOROCHYA_NOZHKA
    zcRELA_DVOECHELNAYAa_KLYUCHEVAYApOKRYZHEVAYAkPOVODNAYAa_KLYUCHEVAYAzgGROMNAYA
    a_WITH_SINGLE_ZAPYATAYAzbOKRYZHEVAYAa_POVODNAYAuPOVODNAYAa_WITH_DOUBLE_ZAPYATAYA
    qSINGLE_ZAPYATAYAzlKLYUCHENEPOSTOYANNAYAoPOVODNAYApRYUKOVAYAa_GROMNAYAa_WITH_SINGLE_ZAPYATAYA
    zbOKRYZHEVAYAa_POVODNAYAuPOVODNAYAa_WITH_DOUBLE_ZAPYATAYAqSINGLE_ZAPYATAYAzlPOVODNAYAjTRYASKA
    pZHEVAYAkMRACHNOTIKHAYAoNEPOSTOYANNAYAoPOLUPOVODNAYAlVODNAYAiROSTAYAiTIKHAYA_PUTNAYA
    oRYASOGLASNAYAiPOVODNAYAjSTRELNAYAwVRAKHIYA_KLYUCHEVAYA_MRACHNAYAjPROSTAYAiSVETLAYAiTRESVETLAYA
    xMRACHNAYAjPROSTAYAiSVETLAYAiTRESVETLAYAuZANOZHEKgPYATAYAiMEYTSA
    nPRIZNAK_MODIFIER_DIRECTION_FLIPoKRYZHfLEVEL-2b3hROGzdOMBIEfWJbNBSPdJcSPa"

end Walkthrough.Text
