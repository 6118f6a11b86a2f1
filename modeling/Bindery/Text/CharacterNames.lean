import Bindery.Text.Blank
import Bindery.Text.Digits

/-!
# Names of characters

The names by which a text literal can give a character, their aliases among them.  The syllables of
Korean and the ideographs that are numbered have names by rule, and the others stand in a table.
-/

namespace Bindery.Text

/-- The names that are given by no rule, in order, with low lines for the blanks in them. Small
letters stand before each of them: together they give how many characters are taken off the end of
the name before it, and what is left starts the name. -/
def nameTable : String := "
  aABACUSfC_CURRENTiCORDIONfUNT_OFiKaNOWLEDGEjTIVATE_ARABIC_FORM_SHAPINGtSYMMETRIC_SWAPPINGzUTE_ACCE
  NTfNGLEkDDRESSED_TO_THE_SUBJECTwHESIVE_BANDAGEoI_SHAKTIiLAM_ALIF_LENGTHENERpCAPITAL_LETTER_ALIFeBA
  bHEdCHIdDAALIeHAdEbFAcGAbBEdHAcIbJIIMeKAFcHAcPOdLAAMeMIIMeNHAcUNcYAdObPEcQAAFeRAcSHAcINNYIIYHEkTUc
  UbVAcWAWdYAbHEdZALrONSONANT_MODIFIERsDIGIT_EIGHTfFIVEdOUReNINEeONEdSEVENeIXdTHREEeWOdZEROkGEMINATE
  _CONSONANT_MODIFIERuION_MARKpHAMZAfINITIAL_EXCLAMATION_MARKqQUESTION_MARKvNASALIZATION_MARKqUKTAfS
  MALL_LETTER_ALIFeBAbHEdCHIdDAALIeHAdEbFAcGAbBEdHAcIbJIIMeKAFcHAcPOdLAAMeMIIMeNHAcUNcYAdObPEcQAAFeR
  AcSHAcINNYIIYHEkTUcUbVAcWAWdYAbHEdZALqVOWEL_LENGTHENERuMETOSeISSION_TICKETSpULTeEGEAN_CHECK_MARKkD
  RY_MEASURE_FIRST_SUBUNITzLIQUID_MEASURE_FIRST_SUBUNITzdMEASURE_SECOND_SUBUNIToTHIRD_SUBUNITvNUMBER
  _EIGHTa_HUNDREDhTHOUSANDjYa_THOUSANDpFIFTYa_THOUSANDmVEa_HUNDREDhTHOUSANDmORTYa_THOUSANDmURa_HUNDR
  EDhTHOUSANDnNINEa_HUNDREDhTHOUSANDjTYa_THOUSANDpONEa_HUNDREDhTHOUSANDmSEVENa_HUNDREDhTHOUSANDjTYa_
  THOUSANDpIXa_HUNDREDhTHOUSANDjTYa_THOUSANDoTENa_THOUSANDlHIRTYa_THOUSANDnREEa_HUNDREDhTHOUSANDnWEN
  TYa_THOUSANDnOa_HUNDREDhTHOUSANDtWEIGHT_BASE_UNITjFIRST_SUBUNITmOURTH_SUBUNIToSECOND_SUBUNIToTHIRD
  _SUBUNITtORD_SEPARATOR_DOTdLINEyRIAL_TRAMWAYnFGHANI_SIGNlHOM_CONSONANT_SIGN_MEDIAL_LAbIGATING_RAlR
  AyDIGIT_EIGHTfFIVEdOUReNINEeONEdSEVENeIXdTHREEeWOdZEROkLETTER_AaLTERNATE_BAcGAcTAmBAbHAdCAbHAdDAbD
  AbHAdHAdGAbHAdHAcJAbHAdKAbHAdLAbLAdMAcNAbGAcNAcYAdPAbHAdRAcSAcTAbHAcTAbHAlNUMBER_TENcWENTYnSIGN_KI
  LLERgRULAIfSECTIONgMALL_SECTIONrYMBOL_VIjVOWEL_SIGN_AaAbIbMbWcEbIaIcObUaUrIRPLANEa_ARRIVINGiDEPART
  URErKTIESELSKABlLARM_CLOCKjCHEMICAL_SYMBOL_FOR_AIRcLEMBICfKALIa-2gUMdMALGAMgNTIMONY_ORElQUA_REGIAa
  -2hVITAEa-2iFORTISjRSENICgSHESeURIPIGMENTlBATH_OF_MARYeVAPOURSoISMUTH_OREkLACK_SULFURlORAXa-2b3gRI
  CKfCADUCEUSgLXcPUT_MORTUUMmINNABARhOPPER_ANTIMONIATElOREjROCUS_OF_COPPERa-2iIRONmUCIBLEa-2b3b4b5kD
  AY-NIGHTiISSOLVEa-2hTILLhEARTHfFIREeGOLDdUMdHALF_DRAMeOUNCEjORSE_DUNGiUReIRON_OREa-2g-COPPER_OREpL
  EAD_OREhODESTONEjMARCASITEiERCURY_SUBLIMATEa-2b3sONTHfNIGHTdTREfOILdPHILOSOPHERS_SULFURsOT_ASHEShW
  DERaED_BRICKnRECIPITATEkURIFYeTREFACTIONmQUICK_LIMEhNTESSENCEmREALGARa-2hGULUSa_OF_ANTIMONYa-2kIRO
  Ni-2b3b4hTORTfOCK_SALTa-2lSAL-AMMONIACjTa_OF_ANTIMONYiCOPPER_ANTIMONIATEzCEPTER_OF_JOVEoILVERfOAPd
  PIRITfTARRED_TRIDENTnRATUM_SUPER_STRATUMa-2wUBLIMATE_OF_ANTIMONYiCOPPERgSALT_OF_ANTIMONYiCOPPERtIO
  NjLFURgTARTARa-2hIN_OREeCTUREhRIDENTgUTTYfURINEfVERDIGRISiINEGARa_OF_ANTIMONYm-2b3hTRIOLa-2jWATERd
  XxEF_SYMBOLiMBICeRTdIEN_MONSTERlL_AROUND-PROFILEoEQUAL_TOkMaOST_EQUAL_OR_EQUAL_TOlTOa_WITH_CIRCUMF
  LEX_ACCENTzlTERNATE_ONE-WAY_LEFT_WAY_TRAFFICzbIVE_KEY_SYMBOLvMALGAMATION_OR_COPRODUCTxBULANCEhERIC
  AN_FOOTBALLpPERSANDgHORAgNATOLIAN_HIEROGLYPH_A001b2b3b4b5b6b7b8b9c10aAc1b2b3b4b5b6b7b8b9c20b1b2b3b
  4b5b6aAc7b8b9c30b1b2b3b4b5b6b7b8b9aAd40b1aAc2b3b4b5aAc6aAbBc7b8b9c50b1b2b3b4b5b6b7b8b9c60b1b2b3b4b
  5b6aAbBbCc7b8b9c70b1b2b3b4b5b6b7b8b9c80b1b2b3b4b5b6b7b8b9c90b1b2b3b4b5b6b7aAc8aAc9d100aAc1aAc2aAc3
  b4aAbBbCc5aAbBc6b7aAbBbCc8b9c10aAbBc1b2b3b4b5aAc6b7b8b9c20b1b2b3b4b5aAc6b7b8b9c30b1b2b3b4b5aAc6b7b
  8b9c40b1b2b3b4b5b6b7b8b9c50b1b2b3b4b5b6b7b8b9c60b1b2b3b4b5b6b7b8b9c70b1b2b3b4b5b6b7b8b9c80b1b2b3b4
  b5b6b7b8b9c90b1b2b3b4b5b6b7b8b9d200b1b2aAbBc3b4b5b6b7aAc8b9aAd10b1b2b3b4b5aAc6aAc7b8b9c20b1b2b3b4b
  5b6b7aAc8b9c30b1b2b3b4b5b6b7b8b9c40b1b2b3b4b5b6b7b8b9c50b1b2b3b4b5b6b7b8b9c60b1b2b3b4b5b6b7aAc8b9c
  70b1b2b3b4b5b6b7b8b9c80b1b2b3b4b5b6b7b8b9aAd90b1b2b3b4aAc5b6b7b8b9aAe300b1b2b3b4b5b6b7b8b9aAd10b1b
  2b3b4b5b6b7b8b9c20b1b2b3b4b5b6b7b8b9aAd30b1b2AbBbCc3b4b5b6aAbBbCc7b8b9c40b1b2b3b4b5b6b7b8b9c50b1b2
  b3b4b5b6b7b8b9aAd60b1b2b3b4aAc5b6b7b8aAc9c70b1aAc2b3b4b5b6b7b8b9c80b1aAc2b3_RA_OR_RIjAc4b5b6aAc7b8
  b9c90b1b2b3_EIGHTh4b5b6b7b8b9d400b1b2b3b4b5b6b7b8b9c10_BEGIN_LOGOGRAM_MARKuA_END_LOGOGRAM_MARKu1b2
  b3b4b5b6b7b8b9c20b1b2b3b4b5b6b7b8b9c30b1b2b3b4b5b6b7b8b9c40b1b2b3b4b5b6b7b8b9c50aAc1b2b3b4b5b6b7aA
  c8b9c60b1b2b3b4b5b6b7b8b9c70b1b2b3b4b5b6b7b8b9c80b1b2b3b4b5b6b7b8b9c90b1b2b3b4b5b6b7d501b2b3b4b5b6
  b7b8b9c10b1b2b3b4b5b6b7b8b9c20b1b2b3b4b5b6b7b8b9c30uMICAL_HEARToCHOReD_WITH_DOTkGER_SYMBOLjLEa_WIT
  H_S_INSIDEiUNDERBARqRY_FACEhSTROM_SIGNkUISHED_FACEmKHcTaENNA_WITH_BARSoICLOCKWISE_CLOSED_CIRCLE_AR
  ROWsONTOUR_INTEGRALqDOWNWARDS_AND_UPWARDS_OPEN_CIRCLE_ARROWSzpGAPPED_CIRCLE_ARROWtINTEGRATIONlOPEN
  _CIRCLE_ARROWrTOP_SEMICIRCLE_ARROWtRIANGLE-HEADED_BOTTOM_U-SHAPED_ARROWvLEFT_U-SHAPED_ARROWtOPEN_C
  IRCLE_ARROWrRIGHT_U-SHAPED_ARROWuTOP_U-SHAPED_ARROWzwPCbL_FUNCTIONAL_SYMBOL_ALPHAa_UNDERBARoBACKSL
  ASH_BARnCIRCLE_BACKSLASHjDIAERESISjJOTdSTARcILEfUNDERBARoOMMA_BARjDEL_DIAERESISjSTILEfTILDEgTA_STI
  LEfUNDERBARnIAMOND_UNDERBARpOWN_CARET_TILDElSHOE_STILEkTACK_JOTdUNDERBARoWARDS_VANEoEPSILON_UNDERB
  ARqGREATER-THAN_DIAERESISwI-BEAMfOTAa_UNDERBARnJOT_DIAERESISjUNDERBARmLEFT_SHOE_STILElWARDS_VANEoO
  MEGAa_UNDERBARoQUADa_BACKSLASHjCIRCLEfOLONfDELaTAeIAMONDfVIDEfOWN_CARETgWARDS_ARROWpEQUALfGREATER-
  THANmJOTdLEFTWARDS_ARROWnSS-THANjNOT_EQUALjQUESTIONiRIGHTWARDS_ARROWqSLASHfUP_CARETgWARDS_ARROWqOT
  E_QUADeUNDERBARoRHOcIGHTWARDS_VANEpSEMICOLON_UNDERBARrLASH_BARiQUISH_QUADkTAR_DIAERESISmILE_TILDEl
  TILDE_DIAERESISpUP_CARET_TILDElSHOE_JOTiTACK_DIAERESISjJOTdOVERBARnWARDS_VANEmZILDEzOLLONeSTROPHEi
  PLICATION_PROGRAM_COMMANDyROACHES_THE_LIMITpXIMATELY_BUT_NOT_ACTUALLY_EQUAL_TOzEQUAL_OR_EQUAL_TOlT
  Oa_OR_THE_IMAGE_OFzmQUARIUShRABIC_BASELINE_ROUND_DOTsCOMMAeURLY_DAMMAaTANiFATHAaTANiKASRAaTANoDAMM
  Aa_ISOLATED_FORMnMEDIAL_FORMlWITH_DOTjTANa_ISOLATED_FORMuTE_SEPARATORnECIMAL_SEPARATORqISPUTED_END
  _OF_AYAHtOUBLE_RIGHT_ARROWHEAD_ABOVEa_WITH_DOTzgD_MADDAnEMPTY_CENTRE_HIGH_STOPjLOW_STOPuND_OF_AYAH
  eTEXT_MARKqFATHAa_ISOLATED_FORMnMEDIAL_FORMlWITH_DOT_ABOVEjRINGeTWO_DOTSoTANa_ISOLATED_FORMvIVE_PO
  INTED_STARqOOTNOTE_MARKERoULL_STOPjHALF_MADDA_OVER_MADDAtMZA_ABOVEfBELOWlINVERTED_DAMMAoKASRAa_ISO
  LATED_FORMnMEDIAL_FORMlWITH_DOT_BELOWpTANa_ISOLATED_FORMwLARGE_CIRCLE_BELOWmROUND_DOT_ABOVEfBELOWf
  INSIDE_CIRCLE_BELOWzjEFT_ARROWHEAD_ABOVEfBELOWsTTER_AEbFRICAN_FEHdNOONeQAFa_WITH_THREE_DOTS_ABOVEz
  hINa_FINAL_FORMkINITIAL_FORMlSOLATED_FORMnMEDIAL_FORMlWITH_THREE_DOTS_ABOVEfBELOWfPOINTING_DOWNWAR
  DS_ABOVEzjWO_DOTS_ABOVEfVERTICALLY_ABOVEziLEFa_FINAL_FORMkISOLATED_FORMnMAKSURAa_FINAL_FORMkISOLAT
  ED_FORMvWASLAa_FINAL_FORMkISOLATED_FORMsITH_ATTACHED_BOTTOM_RIGHT_KASRAa_AND_DOT_ABOVEjLEFT_RINGzh
  FATHAfKASRAfLEFT_HAMZAfROUND_DOToRIGHT_HAMZAfROUND_DOToOUND_DOT_ABOVEfBELOWpTOP_RIGHT_FATHAa_AND_D
  OT_ABOVEjLEFT_RINGznDOT_ABOVEjEXTENDED_ARABIC-INDIC_DIGIT_THREE_ABOVEkWO_ABOVEzmHAMZA_ABOVEa_FINAL
  _FORMkISOLATED_FORMtBELOWa_FINAL_FORMkISOLATED_FORMzLEFT_MIDDLE_STROKEsMADDA_ABOVEa_FINAL_FORMkISO
  LATED_FORMzRIGHT_MIDDLE_STROKEa_AND_DOT_ABOVEjLEFT_RINGziWAVY_HAMZA_ABOVEfBELOWzbBEEHa_FINAL_FORMk
  INITIAL_FORMlSOLATED_FORMnMEDIAL_FORMoHa_FINAL_FORMkINITIAL_FORMlSOLATED_FORMnMEDIAL_FORMlWITH_DOT
  _BELOW_AND_THREE_DOTS_ABOVEzfHAMZA_ABOVElINVERTED_SMALL_V_BELOWwSMALL_MEEM_ABOVEkVa_BELOWnTHREE_DO
  TS_HORIZONTALLY_BELOWsPOINTING_UPWARDS_BELOWa_AND_TWO_DOTS_ABOVEzzbWO_DOTS_BELOW_AND_DOT_ABOVEzjEH
  a_FINAL_FORMkINITIAL_FORMlSOLATED_FORMnMEDIAL_FORMrDADa_FINAL_FORMkINITIAL_FORMlSOLATED_FORMnMEDIA
  L_FORMlWITH_DOT_BELOWqHALa_FINAL_FORMkISOLATED_FORMrLa_FINAL_FORMkISOLATED_FORMnWITH_DOT_BELOWa_AN
  D_SMALL_TAHxFOUR_DOTS_ABOVEpINVERTED_SMALL_V_BELOWnVkRINGeTHREE_DOTS_ABOVE_DOWNWARDSpBELOWpWO_DOTS
  _VERTICALLY_BELOW_AND_SMALL_TAHzwDAHALa_FINAL_FORMkISOLATED_FORMrLa_FINAL_FORMkISOLATED_FORMrOTLES
  S_BEHdFEHdQAFkULa_FINAL_FORMkISOLATED_FORMqYEHa_FINAL_FORMkINITIAL_FORMlSOLATED_FORMnMEDIAL_FORMqE
  a_FINAL_FORMkINITIAL_FORMlSOLATED_FORMnMEDIAL_FORMnFARSI_YEHa_FINAL_FORMkINITIAL_FORMlSOLATED_FORM
  nMEDIAL_FORMlWITH_EXTENDED_ARABIC-INDIC_DIGIT_FOUR_BELOWkTHREE_ABOVEkWO_ABOVEzmINVERTED_VkTHREE_DO
  TS_ABOVEpWO_DOTS_ABOVEzdEHa_FINAL_FORMkINITIAL_FORMlSOLATED_FORMnMEDIAL_FORMlWITH_DOT_BELOWa_AND_T
  HREE_DOTS_ABOVEzbMOVED_BELOWpTHREE_DOTS_BELOWfPOINTING_UPWARDS_BELOWzhWO_DOTS_BELOWxGAFa_FINAL_FOR
  MkINITIAL_FORMlSOLATED_FORMnMEDIAL_FORMlWITH_INVERTED_STROKEpRINGeTHREE_DOTS_ABOVEpWO_DOTS_BELOWwH
  AINa_FINAL_FORMkINITIAL_FORMlSOLATED_FORMnMEDIAL_FORMlWITH_DOT_BELOWjTHREE_DOTS_ABOVEzbRAFdUEHa_FI
  NAL_FORMkINITIAL_FORMlSOLATED_FORMnMEDIAL_FORMqHAHa_FINAL_FORMkINITIAL_FORMlSOLATED_FORMnMEDIAL_FO
  RMlWITH_EXTENDED_ARABIC-INDIC_DIGIT_FOUR_BELOWznHAMZA_ABOVElINVERTED_SMALL_V_BELOWwSMALL_ARABIC_LE
  TTER_TAH_ABOVEeND_TWO_DOTSmBELOWzeTHREE_DOTS_ABOVEfPOINTING_UPWARDS_BELOWzhWO_DOTS_ABOVEfVERTICAL_
  ABOVEzfMZAa_ISOLATED_FORMsEHa_DOACHASHMEEa_FINAL_FORMkINITIAL_FORMlSOLATED_FORMnMEDIAL_FORMxFINAL_
  FORMkGOALa_FINAL_FORMkINITIAL_FORMlSOLATED_FORMnMEDIAL_FORMlWITH_HAMZA_ABOVEvINITIAL_FORMlSOLATED_
  FORMnMEDIAL_FORMlWITH_INVERTED_VkYEH_ABOVEa_FINAL_FORMkISOLATED_FORMzgIGH_HAMZAa_ALEFeWAWdYEHoJEEM
  a_FINAL_FORMkINITIAL_FORMlSOLATED_FORMnMEDIAL_FORMlWITH_THREE_DOTS_ABOVEfBELOWpWO_DOTS_ABOVEwHa_FI
  NAL_FORMkISOLATED_FORMrKAFa_FINAL_FORMkINITIAL_FORMlSOLATED_FORMnMEDIAL_FORMlWITH_DOT_ABOVEfBELOWj
  RINGeTHREE_DOTS_BELOWpWO_DOTS_ABOVEvSHMIRI_YEHlEHEHa_FINAL_FORMkINITIAL_FORMlSOLATED_FORMnMEDIAL_F
  ORMlWITH_DOT_ABOVEjSMALL_VhTHREE_DOTS_ABOVEfBELOWfPOINTING_UPWARDS_BELOWzhWO_DOTS_ABOVEfVERTICALLY
  _BELOWzkHAHa_FINAL_FORMkINITIAL_FORMlSOLATED_FORMnMEDIAL_FORMpIRGHIZ_OEa_FINAL_FORMkISOLATED_FORMq
  YUa_FINAL_FORMkISOLATED_FORMyLAMa_FINAL_FORMkINITIAL_FORMlSOLATED_FORMnMEDIAL_FORMlWITH_BARdDOT_AB
  OVEhUBLE_BARkSMALL_ARABIC_LETTER_TAH_ABOVExVhTHREE_DOTS_ABOVEfBELOWyOW_ALEFiMARKdEEMa_FINAL_FORMkI
  NITIAL_FORMlSOLATED_FORMnMEDIAL_FORMlWITH_DOT_ABOVEfBELOWjTHREE_DOTS_ABOVEzbNGa_FINAL_FORMkINITIAL
  _FORMlSOLATED_FORMnMEDIAL_FORMmOEHa_FINAL_FORMkINITIAL_FORMlSOLATED_FORMnMEDIAL_FORMqOONa_FINAL_FO
  RMkGHUNNAa_FINAL_FORMkISOLATED_FORMuINITIAL_FORMlSOLATED_FORMnMEDIAL_FORMlWITH_DOT_BELOWjINVERTED_
  SMALL_VqRINGeSMALL_TAHdVhTHREE_DOTS_ABOVEpWO_DOTS_BELOWxYEHa_FINAL_FORMkINITIAL_FORMlSOLATED_FORMn
  MEDIAL_FORMqOEa_FINAL_FORMkISOLATED_FORMqPEHa_FINAL_FORMkINITIAL_FORMlSOLATED_FORMnMEDIAL_FORMlWIT
  H_SMALL_MEEM_ABOVEkVnEHa_FINAL_FORMkINITIAL_FORMlSOLATED_FORMnMEDIAL_FORMrQAFa_FINAL_FORMkINITIAL_
  FORMlSOLATED_FORMnMEDIAL_FORMlWITH_DOT_ABOVEfBELOWa_AND_NO_DOTS_ABOVEzcTHREE_DOTS_ABOVEzREHa_FINAL
  _FORMkISOLATED_FORMnWITH_DOT_BELOWa_AND_DOT_ABOVExFOUR_DOTS_ABOVEpHAMZA_ABOVElINVERTED_VkLOOPeRING
  eSMALL_ARABIC_LETTER_TAH_AND_TWO_DOTSzfNOON_ABOVEkVa_BELOWmTROKEgTWO_DOTS_ABOVEfVERTICALLY_ABOVEzi
  NOONa_FINAL_FORMkINITIAL_FORMlSOLATED_FORMnMEDIAL_FORMqOHINGYA_YEHlREHa_FINAL_FORMkISOLATED_FORMsS
  ADa_FINAL_FORMkINITIAL_FORMlSOLATED_FORMnMEDIAL_FORMlWITH_THREE_DOTS_ABOVEfBELOWpWO_DOTS_BELOWwEEN
  a_FINAL_FORMkINITIAL_FORMlSOLATED_FORMnMEDIAL_FORMlWITH_DOT_BELOW_AND_DOT_ABOVExEXTENDED_ARABIC-IN
  DIC_DIGIT_FOUR_ABOVEznFOUR_DOTS_ABOVEpINVERTED_VkSMALL_ARABIC_LETTER_TAH_AND_TWO_DOTSzlTHREE_DOTS_
  BELOWa_AND_THREE_DOTS_ABOVEzlWO_DOTS_VERTICALLY_ABOVEzjHEENa_FINAL_FORMkINITIAL_FORMlSOLATED_FORMn
  MEDIAL_FORMlWITH_DOT_BELOWtTRAIGHT_WAWlUPERSCRIPT_ALEFpWASH_KAFjTAHa_FINAL_FORMkINITIAL_FORMlSOLAT
  ED_FORMnMEDIAL_FORMlWITH_DOT_BELOWjTHREE_DOTS_ABOVEfBELOWpWO_DOTS_ABOVEwCHEHa_FINAL_FORMkINITIAL_F
  ORMlSOLATED_FORMnMEDIAL_FORMlWITH_DOT_ABOVEjSMALL_VnEHa_FINAL_FORMkINITIAL_FORMlSOLATED_FORMnMEDIA
  L_FORMsEHa_FINAL_FORMkINITIAL_FORMlSOLATED_FORMnMARBUTAa_FINAL_FORMkGOALeISOLATED_FORMuEDIAL_FORMl
  WITH_RINGeSMALL_TEH_ABOVEjVhTHREE_DOTS_ABOVE_DOWNWARDSzhEHa_FINAL_FORMkINITIAL_FORMlSOLATED_FORMnM
  EDIAL_FORMqHALa_FINAL_FORMkISOLATED_FORMqEHa_FINAL_FORMkINITIAL_FORMlSOLATED_FORMnMEDIAL_FORMoIN_Y
  EHhTEHa_FINAL_FORMkINITIAL_FORMlSOLATED_FORMnMEDIAL_FORMlWITH_SMALL_VnEHa_FINAL_FORMkINITIAL_FORMl
  SOLATED_FORMnMEDIAL_FORMsUa_FINAL_FORMkISOLATED_FORMnWITH_HAMZA_ABOVEa_ISOLATED_FORMzgIGHUR_KAZAKH
  _KIRGHIZ_ALEF_MAKSURA_INITIAL_FORMmMEDIAL_FORMzvVEa_FINAL_FORMkISOLATED_FORMoHa_FINAL_FORMkINITIAL
  _FORMlSOLATED_FORMnMEDIAL_FORMpWAWa_FINAL_FORMkISOLATED_FORMnWITH_DOT_ABOVEfWITHINkEXTENDED_ARABIC
  -INDIC_DIGIT_THREE_ABOVEkWO_ABOVEzmHAMZA_ABOVEa_FINAL_FORMkISOLATED_FORMzRINGeTWO_DOTS_ABOVExYEHa_
  BARREEa_FINAL_FORMkISOLATED_FORMnWITH_EXTENDED_ARABIC-INDIC_DIGIT_THREE_ABOVEkWO_ABOVEzmHAMZA_ABOV
  Ea_FINAL_FORMkISOLATED_FORMzmFINAL_FORMkINITIAL_FORMlSOLATED_FORMnMEDIAL_FORMlWITH_HAMZA_ABOVEa_FI
  NAL_FORMkINITIAL_FORMlSOLATED_FORMnMEDIAL_FORMxSMALL_VhTAILdHREE_DOTS_BELOWpWO_DOTS_BELOW_AND_DOT_
  ABOVEjHAMZA_ABOVElSMALL_NOON_ABOVEzsUa_FINAL_FORMkISOLATED_FORMqZAHa_FINAL_FORMkINITIAL_FORMlSOLAT
  ED_FORMnMEDIAL_FORMnINa_FINAL_FORMkISOLATED_FORMnWITH_INVERTED_V_ABOVEzhIGATURE_AIN_WITH_ALEF_MAKS
  URA_FINAL_FORMkISOLATED_FORMzbJEEM_INITIAL_FORMlSOLATED_FORMnWITH_MEEM_FINAL_FORMkINITIAL_FORMzcME
  EM_INITIAL_FORMlSOLATED_FORMnWITH_ALEF_MAKSURA_FINAL_FORMxMEEM_FINAL_FORMkINITIAL_FORMrYEH_FINAL_F
  ORMyYEH_FINAL_FORMkISOLATED_FORMzKBAR_ISOLATED_FORMsLAYHAA_AS-SALAAMmE_ISOLATED_FORMpI_AS-SALAAMbT
  U_WAS-SALAAMwM_AS-SALAAMkAA_AS-SALAAMrEF_MAKSURA_WITH_SUPERSCRIPT_ALEF_FINAL_FORMkISOLATED_FORMzsW
  ITH_FATHATAN_FINAL_FORMkISOLATED_FORMzfLAH_ISOLATED_FORMsZZA_WA_JALLmBEH_WITH_ALEF_MAKSURA_FINAL_F
  ORMkISOLATED_FORMzbHAH_INITIAL_FORMlSOLATED_FORMnWITH_YEH_FINAL_FORMwEH_INITIAL_FORMmMEDIAL_FORMpJ
  EEM_INITIAL_FORMlSOLATED_FORMsKHAH_INITIAL_FORMlSOLATED_FORMnWITH_YEH_FINAL_FORMyMEEM_FINAL_FORMkI
  NITIAL_FORMlSOLATED_FORMnMEDIAL_FORMqNOON_FINAL_FORMpREH_FINAL_FORMoYEH_FINAL_FORMkISOLATED_FORMrZ
  AIN_FINAL_FORMxISMILLAH_AR-RAHMAN_AR-RAHEEMzeDAD_WITH_ALEF_MAKSURA_FINAL_FORMkISOLATED_FORMzbHAH_I
  NITIAL_FORMlSOLATED_FORMnWITH_ALEF_MAKSURA_FINAL_FORMxYEH_FINAL_FORMxJEEM_INITIAL_FORMlSOLATED_FOR
  MsKHAH_INITIAL_FORMlSOLATED_FORMnWITH_MEEM_FINAL_FORMkINITIAL_FORMzcMEEM_INITIAL_FORMlSOLATED_FORM
  sREH_FINAL_FORMkISOLATED_FORMrYEH_FINAL_FORMkISOLATED_FORMzbFEH_WITH_ALEF_MAKSURA_FINAL_FORMkISOLA
  TED_FORMzbHAH_INITIAL_FORMlSOLATED_FORMrJEEM_INITIAL_FORMlSOLATED_FORMsKHAH_INITIAL_FORMlSOLATED_F
  ORMnWITH_MEEM_FINAL_FORMkINITIAL_FORMzcMEEM_INITIAL_FORMlSOLATED_FORMnWITH_YEH_FINAL_FORMyYEH_FINA
  L_FORMkISOLATED_FORMzbGHAIN_WITH_ALEF_MAKSURA_FINAL_FORMkISOLATED_FORMzbJEEM_INITIAL_FORMlSOLATED_
  FORMsMEEM_INITIAL_FORMlSOLATED_FORMnWITH_ALEF_MAKSURA_FINAL_FORMxMEEM_FINAL_FORMpYEH_FINAL_FORMyYE
  H_FINAL_FORMkISOLATED_FORMzdHAH_WITH_ALEF_MAKSURA_FINAL_FORMkISOLATED_FORMzbJEEM_INITIAL_FORMlSOLA
  TED_FORMnWITH_YEH_FINAL_FORMyMEEM_INITIAL_FORMlSOLATED_FORMnWITH_ALEF_MAKSURA_FINAL_FORMxYEH_FINAL
  _FORMyYEH_FINAL_FORMkISOLATED_FORMzEH_WITH_ALEF_MAKSURA_ISOLATED_FORMzbJEEM_INITIAL_FORMlSOLATED_F
  ORMsMEEM_INITIAL_FORMlSOLATED_FORMnWITH_JEEM_INITIAL_FORMrMEEM_INITIAL_FORMzcSUPERSCRIPT_ALEF_INIT
  IAL_FORMzeYEH_ISOLATED_FORMzbJALLAJALALOUHOUoEEM_WITH_ALEF_MAKSURA_FINAL_FORMkISOLATED_FORMzbHAH_I
  NITIAL_FORMlSOLATED_FORMnWITH_ALEF_MAKSURA_FINAL_FORMxYEH_FINAL_FORMxMEEM_INITIAL_FORMlSOLATED_FOR
  MnWITH_ALEF_MAKSURA_FINAL_FORMxHAH_FINAL_FORMkINITIAL_FORMqYEH_FINAL_FORMyYEH_FINAL_FORMkISOLATED_
  FORMzcKAF_WITH_ALEF_FINAL_FORMkISOLATED_FORMnMAKSURA_FINAL_FORMkISOLATED_FORMzbHAH_INITIAL_FORMlSO
  LATED_FORMrJEEM_INITIAL_FORMlSOLATED_FORMsKHAH_INITIAL_FORMlSOLATED_FORMsLAM_FINAL_FORMkINITIAL_FO
  RMlSOLATED_FORMnMEDIAL_FORMpMEEM_FINAL_FORMkINITIAL_FORMlSOLATED_FORMnMEDIAL_FORMlWITH_MEEM_FINAL_
  FORMkINITIAL_FORMrYEH_FINAL_FORMyYEH_FINAL_FORMkISOLATED_FORMzHAH_WITH_ALEF_MAKSURA_FINAL_FORMkISO
  LATED_FORMzbHAH_ISOLATED_FORMrJEEM_INITIAL_FORMlSOLATED_FORMsMEEM_INITIAL_FORMlSOLATED_FORMsYEH_FI
  NAL_FORMkISOLATED_FORMzcLAM_WITH_ALEF_FINAL_FORMkISOLATED_FORMnMAKSURA_FINAL_FORMkISOLATED_FORMvWI
  TH_HAMZA_ABOVE_FINAL_FORMkISOLATED_FORMtBELOW_FINAL_FORMkISOLATED_FORMzMADDA_ABOVE_FINAL_FORMkISOL
  ATED_FORMzkHAH_INITIAL_FORMlSOLATED_FORMnWITH_ALEF_MAKSURA_FINAL_FORMxMEEM_FINAL_FORMkINITIAL_FORM
  rYEH_FINAL_FORMwEH_INITIAL_FORMqJEEM_INITIAL_FORMlSOLATED_FORMnWITH_JEEM_FINAL_FORMkINITIAL_FORMrM
  EEM_FINAL_FORMkINITIAL_FORMrYEH_FINAL_FORMyKHAH_INITIAL_FORMlSOLATED_FORMnWITH_MEEM_FINAL_FORMkINI
  TIAL_FORMzcMEEM_FINAL_FORMkINITIAL_FORMlSOLATED_FORMnMEDIAL_FORMlWITH_HAH_FINAL_FORMkINITIAL_FORMq
  YEH_FINAL_FORMyYEH_FINAL_FORMkISOLATED_FORMzbMEEM_WITH_ALEF_FINAL_FORMkMAKSURA_ISOLATED_FORMzbHAH_
  INITIAL_FORMlSOLATED_FORMnWITH_JEEM_INITIAL_FORMrMEEM_INITIAL_FORMrYEH_FINAL_FORMxJEEM_INITIAL_FOR
  MlSOLATED_FORMnWITH_HAH_INITIAL_FORMqKHAH_INITIAL_FORMrMEEM_INITIAL_FORMrYEH_FINAL_FORMyKHAH_INITI
  AL_FORMlSOLATED_FORMnWITH_JEEM_INITIAL_FORMrMEEM_INITIAL_FORMrYEH_FINAL_FORMyMEEM_FINAL_FORMkINITI
  AL_FORMlSOLATED_FORMnWITH_YEH_FINAL_FORMyYEH_ISOLATED_FORMzbOHAMMAD_ISOLATED_FORMwNOON_WITH_ALEF_M
  AKSURA_FINAL_FORMkISOLATED_FORMzbHAH_INITIAL_FORMlSOLATED_FORMnWITH_ALEF_MAKSURA_FINAL_FORMxMEEM_I
  NITIAL_FORMrYEH_FINAL_FORMwEH_INITIAL_FORMmMEDIAL_FORMpJEEM_INITIAL_FORMlSOLATED_FORMnWITH_ALEF_MA
  KSURA_FINAL_FORMxHAH_FINAL_FORMkINITIAL_FORMqMEEM_FINAL_FORMkINITIAL_FORMrYEH_FINAL_FORMyKHAH_INIT
  IAL_FORMlSOLATED_FORMsMEEM_FINAL_FORMkINITIAL_FORMlSOLATED_FORMnMEDIAL_FORMlWITH_ALEF_MAKSURA_FINA
  L_FORMxYEH_FINAL_FORMyNOON_FINAL_FORMpREH_FINAL_FORMoYEH_FINAL_FORMkISOLATED_FORMrZAIN_FINAL_FORMz
  QAF_WITH_ALEF_MAKSURA_FINAL_FORMkISOLATED_FORMzbHAH_INITIAL_FORMlSOLATED_FORMrMEEM_INITIAL_FORMlSO
  LATED_FORMnWITH_HAH_FINAL_FORMkINITIAL_FORMqMEEM_FINAL_FORMpYEH_FINAL_FORMyYEH_FINAL_FORMkISOLATED
  _FORMyLA_USED_AS_KORANIC_STOP_SIGN_ISOLATED_FORMzsUDDISA_SIRRAHoRADI_ALLAAHU_ANHaAAcUMaAAdNNAsHIMA
  HU_ALLAAHhM_ALLAAHoSOUL_ISOLATED_FORMtEH_WITH_SUPERSCRIPT_ALEF_ISOLATED_FORMzoSAD_WITH_ALEF_MAKSUR
  A_FINAL_FORMkISOLATED_FORMzbHAH_INITIAL_FORMlSOLATED_FORMnWITH_HAH_FINAL_FORMkINITIAL_FORMqYEH_FIN
  AL_FORMxKHAH_INITIAL_FORMrMEEM_INITIAL_FORMlSOLATED_FORMnWITH_MEEM_FINAL_FORMkINITIAL_FORMzcREH_FI
  NAL_FORMkISOLATED_FORMrYEH_FINAL_FORMkISOLATED_FORMyLAAMUHU_ALAYNAAnM_ISOLATED_FORMqLA_ISOLATED_FO
  RMnUSED_AS_KORANIC_STOP_SIGN_ISOLATED_FORMzpLLAAHU_ALAYHI_WA-AALIHtHOU_ALAYHE_WASALLAMsU_ALAYHI_WA
  AALIHEE_WA-SALLAMzlEEN_WITH_ALEF_MAKSURA_FINAL_FORMkISOLATED_FORMzbHAH_INITIAL_FORMlSOLATED_FORMnM
  EDIAL_FORMlWITH_JEEM_INITIAL_FORMzEH_INITIAL_FORMmMEDIAL_FORMpJEEM_INITIAL_FORMlSOLATED_FORMnMEDIA
  L_FORMlWITH_ALEF_MAKSURA_FINAL_FORMxHAH_INITIAL_FORMzbKHAH_INITIAL_FORMlSOLATED_FORMnMEDIAL_FORMlW
  ITH_ALEF_MAKSURA_FINAL_FORMxYEH_FINAL_FORMyMEEM_INITIAL_FORMlSOLATED_FORMnMEDIAL_FORMlWITH_HAH_FIN
  AL_FORMkINITIAL_FORMqJEEM_INITIAL_FORMrMEEM_FINAL_FORMkINITIAL_FORMzcREH_FINAL_FORMkISOLATED_FORMr
  YEH_FINAL_FORMkISOLATED_FORMzbHADDA_WITH_DAMMA_ISOLATED_FORMnMEDIAL_FORMmTAN_ISOLATED_FORMwFATHA_I
  SOLATED_FORMnMEDIAL_FORMrKASRA_ISOLATED_FORMnMEDIAL_FORMmTAN_ISOLATED_FORMwSUPERSCRIPT_ALEF_ISOLAT
  ED_FORMzpEEN_WITH_ALEF_MAKSURA_FINAL_FORMkISOLATED_FORMzbHAH_FINAL_FORMkINITIAL_FORMlSOLATED_FORMn
  MEDIAL_FORMlWITH_MEEM_FINAL_FORMkINITIAL_FORMrYEH_FINAL_FORMwEH_INITIAL_FORMmMEDIAL_FORMpJEEM_FINA
  L_FORMkINITIAL_FORMlSOLATED_FORMnMEDIAL_FORMlWITH_YEH_FINAL_FORMyKHAH_FINAL_FORMkINITIAL_FORMlSOLA
  TED_FORMnMEDIAL_FORMqMEEM_FINAL_FORMkINITIAL_FORMlSOLATED_FORMnMEDIAL_FORMlWITH_KHAH_FINAL_FORMkIN
  ITIAL_FORMrMEEM_FINAL_FORMkINITIAL_FORMzcREH_FINAL_FORMkISOLATED_FORMrYEH_FINAL_FORMkISOLATED_FORM
  zcUBHAANAHU_WA_TAAALAAvTABAARAKA_WA-TAAALAAsH_WITH_ALEF_MAKSURA_FINAL_FORMkISOLATED_FORMzbHAH_INIT
  IAL_FORMlSOLATED_FORMrMEEM_INITIAL_FORMlSOLATED_FORMnMEDIAL_FORMlWITH_HAH_FINAL_FORMkINITIAL_FORMq
  MEEM_INITIAL_FORMrYEH_FINAL_FORMyYEH_FINAL_FORMkISOLATED_FORMzEH_WITH_ALEF_MAKSURA_FINAL_FORMkISOL
  ATED_FORMzbHAH_INITIAL_FORMlSOLATED_FORMnWITH_JEEM_FINAL_FORMkINITIAL_FORMrMEEM_INITIAL_FORMzEH_IN
  ITIAL_FORMmMEDIAL_FORMpJEEM_INITIAL_FORMlSOLATED_FORMnWITH_ALEF_MAKSURA_FINAL_FORMxMEEM_INITIAL_FO
  RMrYEH_FINAL_FORMyKHAH_INITIAL_FORMlSOLATED_FORMnWITH_ALEF_MAKSURA_FINAL_FORMxMEEM_INITIAL_FORMrYE
  H_FINAL_FORMyMEEM_FINAL_FORMkINITIAL_FORMlSOLATED_FORMnMEDIAL_FORMlWITH_ALEF_MAKSURA_FINAL_FORMxHA
  H_INITIAL_FORMqJEEM_INITIAL_FORMrKHAH_INITIAL_FORMrYEH_FINAL_FORMyNOON_FINAL_FORMpREH_FINAL_FORMoY
  EH_FINAL_FORMkISOLATED_FORMrZAIN_FINAL_FORMxHAL_WITH_SUPERSCRIPT_ALEF_ISOLATED_FORMznEH_WITH_ALEF_
  MAKSURA_FINAL_FORMkISOLATED_FORMzbHEH_MEDIAL_FORMpJEEM_ISOLATED_FORMsMEEM_FINAL_FORMkINITIAL_FORMl
  SOLATED_FORMnMEDIAL_FORMqNOON_FINAL_FORMpREH_FINAL_FORMoYEH_FINAL_FORMkISOLATED_FORMrZAIN_FINAL_FO
  RMzUIGHUR_KIRGHIZ_YEH_WITH_HAMZA_ABOVE_WITH_ALEF_MAKSURA_FINAL_FORMkINITIAL_FORMlSOLATED_FORMzzrWA
  SALLAM_ISOLATED_FORMwYEH_WITH_ALEF_MAKSURA_FINAL_FORMkISOLATED_FORMzbHAH_INITIAL_FORMlSOLATED_FORM
  nWITH_YEH_FINAL_FORMvMZA_ABOVE_WITH_AE_FINAL_FORMkISOLATED_FORMpLEF_FINAL_FORMkISOLATED_FORMnMAKSU
  RA_FINAL_FORMkISOLATED_FORMzbE_FINAL_FORMkINITIAL_FORMlSOLATED_FORMpHAH_INITIAL_FORMlSOLATED_FORMq
  EH_INITIAL_FORMmMEDIAL_FORMpJEEM_INITIAL_FORMlSOLATED_FORMsKHAH_INITIAL_FORMrMEEM_FINAL_FORMkINITI
  AL_FORMlSOLATED_FORMnMEDIAL_FORMqNOON_FINAL_FORMpOE_FINAL_FORMkISOLATED_FORMqREH_FINAL_FORMoU_FINA
  L_FORMkISOLATED_FORMpWAW_FINAL_FORMkISOLATED_FORMrYEH_FINAL_FORMkISOLATED_FORMqU_FINAL_FORMkISOLAT
  ED_FORMqZAIN_FINAL_FORMzgEH_INITIAL_FORMmMEDIAL_FORMpJEEM_INITIAL_FORMlSOLATED_FORMnWITH_YEH_FINAL
  _FORMyKHAH_INITIAL_FORMlSOLATED_FORMsMEEM_FINAL_FORMkINITIAL_FORMlSOLATED_FORMnMEDIAL_FORMlWITH_ME
  EM_FINAL_FORMkINITIAL_FORMrYEH_FINAL_FORMyNOON_FINAL_FORMpREH_FINAL_FORMoYEH_FINAL_FORMkISOLATED_F
  ORMrZAIN_FINAL_FORMyZAH_WITH_MEEM_INITIAL_FORMlSOLATED_FORMnMEDIAL_FORMzjMADDA_WAAJIBhH_ABOVEkRK_N
  OON_GHUNNAlSIDEWAYS_NOON_GHUNNAxTHEMATICAL_AINcLEFeBEHdDADbLcOTLESS_BEHdFEHdNOONeQAFjUBLE-STRUCK_A
  INdBEHdDADbLdFEHdGHAINfHAHdJEEMeKHAHeLAMdMEEMeNOONeQAFdREHdSADcEENdHEENfTAHcEHcHALcEHeWAWdYEHdZAHb
  INsFEHdGHAINfHAHdINITIAL_AINdBEHdDADdFEHdGHAINfHAHcEHdJEEMeKAFcHAHeLAMdMEEMeNOONeQAFdSADcEENdHEENf
  TEHcHEHeYEHlJEEMeKAFcHAHeLAMcOOPED_AINcLEFeBEHdDADbLdFEHdGHAINfHAHcEHdJEEMeKHAHeLAMdMEEMeNOONeQAFd
  REHdSADcEENdHEENfTAHcEHcHALcEHeWAWdYEHdZAHbINlMEEMeNOONeOPERATOR_HAH_WITH_DALmMEEM_WITH_HAH_WITH_T
  ATWEELzkQAFdREHdSADcEENdHEENeTRETCHED_AINdBEHdDADcOTLESS_BEHdFEHlFEHdGHAINfHAHcEHdJEEMeKAFcHAHeMEE
  MeNOONeQAFdSADcEENdHEENfTAHcEHcHEHeYEHdZAHnTAHbILED_AINdDADcOTLESS_NOONeQAFlGHAINfHAHdJEEMeKHAHeLA
  MdNOONeQAFdSADcEENdHEENfYEHjEHcHALcEHeWAWdYEHdZAHbINrNUMBER_MARK_ABOVEkSIGNlOPEN_DAMMATANiFATHATAN
  iKASRATANnPERCENT_SIGNlIASTRE_MARK_ABOVErLACE_OF_SAJDAHoOETIC_VERSE_SIGNpUND_MARK_ABOVEqQUESTION_M
  ARKnRAISED_ROUND_DOToYcEVERSED_DAMMAnIGHT_ARROWHEAD_ABOVEa_WITH_DOToBELOWuOUNDED_HIGH_STOP_WITH_FI
  LLED_CENTREzlSEMICOLONiHADDAa_ISOLATED_FORMnMEDIAL_FORMrIGN_ALAYHE_ASSALLAMpMISRAfRADI_ALLAHOU_ANH
  UpHMATULLAH_ALAYHEsSAFHAdLLALLAHOU_ALAYHE_WASSALLAMzbMVATeNAHeINDHI_AMPERSANDjPOSTPOSITION_MENxTAK
  HALLUSnMALL_DAMMAfFARSI_YEHhTHAfHIGH_AINdDOTLESS_HEAD_OF_KHAHuFARSI_YEHiOOTNOTE_MARKERpJEEMeLAM_AL
  EFhIGATURE_ALEF_WITH_LAM_WITH_YEHwQAF_WITH_LAM_WITH_ALEF_MAKSURAzfSAD_WITH_LAM_WITH_ALEF_MAKSURAzo
  MADDAeEEM_INITIAL_FORMlSOLATED_FORMsNOONa_WITH_KASRApQAFdROUNDED_ZEROmSADcEENdIGN_SAFHAkTAHcHREE_D
  OTSkUPRIGHT_RECTANGULAR_ZEROyWAWcORD_AL-JUZfN-NISFgR-RUBfS-SAJDAhTH-THALATHAmQIFdSAHbKTAfWAQFAkYEH
  a_BARREE_WITH_TWO_DOTS_BELOWzfZAHbINjKASRAfLOW_MEEMeNOON_WITH_KASRApSEENeWAWcORD_IMAALAfSHMAAMhTAS
  HEELqWAWdYEHiTART_OF_RUB_EL_HIZBtUBSCRIPT_ALEFmKUNa_BELOWfISOLATED_FORMnMEDIAL_FORMpPERSCRIPT_ALEF
  _MOKHASSASzYMBOL_DOT_ABOVEfBELOWhUBLE_VERTICAL_BAR_BELOWzFOUR_DOTS_ABOVEfBELOWpRINGeSMALL_TAH_ABOV
  EfBELOWpTHREE_DOTS_ABOVEfBELOWfPOINTING_DOWNWARDS_ABOVEfBELOWzjWO_DOTS_ABOVEfBELOWfVERTICALLY_ABOV
  EfBELOWzWASLA_ABOVEsTAIL_FRAGMENTlTWEELa_WITH_FATHATAN_ABOVEoOVERSTRUCK_HAMZAfWAWoTWO_DOTS_BELOWzb
  HOUSANDS_SEPARATORsONE_LOOP_ABOVEfBELOWkONE_DOT_ABOVEfBELOWnTWO_DOTS_ABOVEfBELOWsRIPLE_DOT_PUNCTUA
  TION_MARKzbURNED_DAMMA_BELOWsVERTICAL_TAILmOWEL_SIGN_DOT_BELOWjINVERTED_SMALL_V_ABOVEwSMALL_V_ABOV
  EyWAVY_HAMZA_BELOWqZWARAKAYj-INDIC_CUBE_ROOTjDIGIT_EIGHTfFIVEdOUReNINEeONEdSEVENeIXdTHREEeWOdZEROk
  FOURTH_ROOTlPER_MILLE_SIGNkTEN_THOUSAND_SIGNzhCbIESdMENIAN_ABBREVIATION_MARKqPOSTROPHEkCAPITAL_LET
  TER_AYBdBENdCAbHAbEHdOcDAcECHcHbTcFEHdGHADdIMdHOcINIdJAbHEHeKEHbNdLIWNeMENdNOWdOHcPEHcIWReRAbEHdSE
  HcHAdTIWNdOcVEWcOcXEHdYIaWNeZAbHErOMMAfDRAM_SIGNjEMPHASIS_MARKmXCLAMATION_MARKqFULL_STOPjHYPHENgMO
  DIFIER_LETTER_LEFT_HALF_RINGzfQUESTION_MARKnSMALL_LETTER_AYBdBENdCAbHAbEHdOcDAcECHcHbTcFEHdGHADdIM
  dHOcINIdJAbHEHeKEHbNdLIWNeMENdNOWdOHcPEHcIWReRAbEHdSEHcHAdTIWNdObURNED_AYBkVEWcOcXEHdYIa_WITH_STRO
  KEmWNeZAbHEjIGATURE_ECH_YIWNiMEN_ECHdINIdNOWdXEHhVEW_NOWzeROW_POINTING_DOWNWARDS_THEN_CURVING_LEFT
  WARDSjRIGHTWARDSziRIGHTWARDS_THEN_CURVING_DOWNWARDSjSOUTH_WESTkUPWARDSzgUPWARDS_THEN_NORTH_WESTziH
  EAD-SHAPED_POINTERwTICULATED_LORRYnST_PALETTEnSCENDING_NODElIA_SYMBOLkSERTIONhTERISKa_OPERATORkMfO
  NISHED_FACEmRAEAdONOMICAL_SYMBOL_FOR_URANUSzdYMPTOTICALLY_EQUAL_TOwTHLETIC_SHOElOM_SYMBOLkUBERGINE
  hSTRAL_SIGNkTO_RICKSHAWjMATED_TELLER_MACHINEtOBILEjVESTAN_ABBREVIATION_MARKrLETTER_AaAaNbOcEaEcNbO
  cBEbHEdCEcDEbHEdEaEcFEcGEbGEcHEdHEbMEdIaIcJEcKEcLEcMEcNEbGEbVEcYEdNEcYEdOaOcPEcREcSEbHEbYEdSHEeTEb
  HEcTEdUaUcVEcXEbVEcYEdYEbYEdZEbHEqOCADOgXEdBABYa_ANGELfBOTTLEgCHICKfSYMBOLjCK_OF_ENVELOPElWITH_LEF
  TWARDS_ARROW_ABOVEzc-TILTED_SHADOWED_WHITE_RIGHTWARDS_ARROWzoSLANTED_SOUTH_ARROW_WITH_HOOKED_TAILj
  RIZONTAL_TAILzoPACEgONcTRIAN_CAMELmDGERdMINTON_RACQUET_AND_SHUTTLECOCKzgGELcGAGE_CLAIMkUETTE_BREAD
  mLINESE_ADEG_ADEGjCARIK_PAMUNGKAHhRERENhSIKIkDIGIT_EIGHTfFIVEdOUReNINEeONEdSEVENeIXdTHREEeWOdZEROk
  LETTER_AIKARAfKARAa_TEDUNGlRCHAIC_JNYAlSYURA_SASAKmBAa_KEMBANGkCAa_LACAhDAa_MADUdURDA_ALPAPRANAjMA
  HAPRANAsEF_SASAKhKARAfGAa_GORAhHAcIKARAa_TEDUNGmJAa_JERAhKAa_MAHAPRANAkF_SASAKiHOT_SASAKkLAa_LENGA
  a_TEDUNGpMAcNAa_RAMBATiGAcYAdOKARAa_TEDUNGmPAa_KAPALiRAa_REPAa_TEDUNGoSAa_SAGAcPAhTAa_LATIKfMURDA_
  MAHAPRANApTAWAgZIR_SASAKkUKARAa_TEDUNGmVE_SASAKiWAcYAcZAL_SASAKqMUSICAL_SYMBOL_COMBINING_BENDEfEND
  EPfGONGeJEGOGANhKEMPLIa_WITH_JEGOGANpULa_WITH_JEGOGANtTEGEHpDAENGdINGdNGa_GEDEeSURANGkENGcUNGeINGd
  ONGdUNGeLEFT-HAND_CLOSED_PLAKcUKlOPEN_PANGdINGdUNGtRIGHT-HAND_CLOSED_TAKcUKkOPEN_DAGcUGzjPAMADAa_L
  ANTANGlENENGgNTIa_LANTANGnSIGN_BISAHfCECEKfREREKANhSURANGgULU_CANDRAgRICEMoVOWEL_SIGN_LA_LENGAa_TE
  DUNGpPEPETa_TEDUNGmRA_REPAa_TEDUNGoSUKUa_ILUTjTALINGa_REPAa_TEDUNGlTEDUNGmEDUNGgULUa_SARItWINDUlL_
  OF_YARNiET_SHOESiOONa-SPOKED_ASTERISKsT_BOLD_SCRIPT_XlXa_WITH_BALLOTfOLD_CHECKfSCRIPT_XnCHECKfLIGH
  T_XhSCRIPT_XiXkSCRIPT_XiXgMUM_COLONdMBINING_MARK_KOQNDONhTUKWENTISvMAfFULL_STOPjLETTER_AbEEcFAAMAE
  fEEcOMcUcIbKAbENbTbUXdIbOaGHOMeVUUePAcUbYEEeLAbEEEEeIbOQcUcMaAbBAAcENdEEEEdNcIbObUcNAbDAAdGAbGAcKW
  AENgIbJAEMdEEcUAEeSHAdTEEcUUdUaAEdYIdObPAbEEbUXdHASE-A_FIRIeGBIEE_FONiHEUAEGHEUAEgRAEjKAFAcQcETbUK
  EUTNDAjPOQdUOQeLAPAQeET_KUTgOMMAEfUaAEPfMAEKEUPeMaBGBIEEgKPENeVEUXfNYIdSIdNSUAEfP_PIEETiBANYIdQdEU
  NJOMNDEUQlGBASAfON_NGGEUAETkOMEUTdPUQgVEUAENGAMkNAA_MFONgQcDA_LEERAEWAjANGGEUAETlENcGANGUeGENdKUE_
  MFONfNZEUMjIKAdJAMdKAARAEfINDIfSHAbIEEfTAPa_MFAAeNTAAhOQPENgYETcIaT_MONGKEUAEQoZA_MFONgUN_MEUTjPA_
  LEERAEWAjAMbRAEeMSHAEfSHAEfETcON_MFON_PIPAEMBAcGBIEEqPA_NJI_PIPAEMBAcGBIEEvUPdROMdSEUNYAMgHINDA_PA
  _NJIkRAEeOQ_NSHUT_YUMmUENSHUEThMdISAdONJAMeQbTcUUdTEUAENdTEUWENiITA_MFONiU_MAEMBAhAEPfU_YUQ_NAEiNK
  NOWNhVEEfB_FEEbUXeGHEUGHENbUAEMlKAMcEUAEMdPUQdYEUXgIEEMdQdLAANAEeM_NSHUT_NYAMnETcOM_NTEUMjMAa_NJEU
  AENAgUQAhBA_MAELEEhARAEfEURIeIT_MBAAKETkUOQeEUQbT_NGGEETkFIYAQeON_TEUAEQkONTIEENiNDU_NJAAhGGAAMdEU
  _MBUgUOQa_LARGEkKINDI_MVOPkOMdSENcHUETfTIEE_SHEUOQlYAEMAEfI_NTEUMjPARUMeEESHIfITcUNGAAMhSAKEUAEgET
  _TUfHET_NJAQgUAEQTUiIEEdUEdTAAMdU_MAEMGBIEEjNSIEEiVEUMeWUAETfYAFU_LEERAEWAmEURAEiC_BUNGeFUEdGBAYIe
  HAPbRAEgKAAcEN_FATIGUEhLAWfTbUKAQdMbSEUXdHEUAEPjPARAQfUOP_NKAARAEkTdLAMbPcIQcUcMA_KEUAERIhNSIEEgEM
  BAdSIeBAA_CABBAGE-TREEmPICKETiNYIeEEKEETfRAEdUMbXdIaRIEENfTcUAEMdEdGBASAQgIEEdUAEeNANSANAQgQcDAMbP
  cEUAEREEfTdIDAdOMBUfGAQcGENcUaAEN_NYAMiEETdMbONeKAQcUE_MAEMBAkOMdJAEMcMcEEEEdUXdUEQeSAbEUAENfHAQdO
  McUNbOT_NGOMjTAAcENbUNGBAgU_MBIThYIR_MKPARAQ_MEUNqZAbEUMfPENcINbRIEENhRUcSETFONeUXdHIQcUEQeUAETfTA
  ASHAEgETbUTEUXgITA_YUEfUAEPhVEUAEPENfXeWANGKUOQhUPdYAAcEUQdU_MUOMAEhMbWOQhD_FAAcEUFEUAETjGHAAcEUAE
  gKETbUAETMEUNhMbOT_MBUAEiPdUaNbOMcQcWAETeYEEeLEEEEdTbUAEPdMdIEEdOQcUMdMaAENJETfLEERIgBAAa_SEVENiUO
  dEEEEdUNbTdFEUAEcTdIEEdOaNdGBEUNdIEEdOFUMgONIdUbVOPeNDAMcEEbUXdONdGGAAMaAEePcEUXdUOMdWAENfKAPcEUAE
  QdRIeIEEdUNcYEEfIbJAPcEUAEMdTdIaEEdUEQeSHEEcUTdIEEPbTeUMdTEEbUMdUUdUbYAMcETcIbUEePAPcEEbUTAEfIPcUQ
  bUTeRAEMdEN_MUCHeOLDgIIdSAPbQcEUAEQfHEEbUAEcXdIIcOQcUcOTcUAEcEbUdTAEcEEEEdUAENdNbTdIbOQcUaOTeWAPcU
  AENfYAEMMAEgENcUOMbPcWOQhE_AbFAaQcEEcOMcU_CALLeIbREMEDYhEaTeGBETbUXeHAAMAEfETbUAEcNbXdOMeIbKETbUAE
  cXdIbObPEUXeUETcOPcTdLAAMcPbQcEUAEMfOMbONbTcQcUcMAaEaMcPbQcBEEbUMeENcFEUQeGBAbENeIaEEdONcUAEdVIdNA
  aEcDAA_MY_HOUSEiSOFTNESSkPcIAQcQcUNdGAbEUREUTgGEEEEdUAEaTfUAESHAE_NYAMlPbRAEfKAaAMIeEUAEMdXdUMbPdO
  PbQcUAEaTfJAEMLIfEEa_EPOCHhUXeKOMdSHIEEdUEbOPfTAPcUMdYI_BETWEENhCLEAVERkZAQcUQeObPA_PEOPLEfLURALhA
  aMdEEMcUTbXdIaEEQcTdOaONdUaAEbQcEbMdRAEbQcEUXdIMGBAgSAAcEEbTcHEUAEQfIQcOaQdOMcUAENfTAAaQcEN_NTEUMi
  MbQcENbUaAEQfOOaNcQcUAEcMaAEfVEEbUAEeOMdWEUXdUEbOdYAPcEUAEaTdMbXdIEEcTcOQ_COVERfSWIMMINGlUAENdEQcN
  bQfF_EEcFOMdKAbENbTcObPAcUbYEEeLAbIbOQdMaAbBAAcENdEEEEeOcNDAAdGGAcKWAENgIbJAEMdUAEeSHAdTEEdUaAEdYI
  dPEEbUXdUAEeREEbNbUXdIEEcIcUcSAMBAeEUXdHIIcObUcIbUUdTAAbEcETdUbVUEQeWAbUEdYAbOQkIbUAEcEdRAEcEEbNbU
  XdIEEcIcUcSAMBAeEUXdHEUXdIIcObUcIbUUdTAAbEcENbTcIcUbWAbUEdYAbOQcUQkNJAEMLIhQUESTION_MARKnSEMICOLON
  nNANAdJOcKaNOTE_WITH_DOLLAR_SIGNlEURO_SIGNjPOUND_SIGNkYEN_SIGNuR_CHARTfOF_SOAPiBER_POLEjSEBALLfKET
  aBALL_AND_HOOPqSA_VAH_COMBINING_HIGH_TONEf-LOW_TONEnLOW_TONEf-MID_TONEmMID_TONEsFULL_STOPjLETTER_A
  bBAcCEcDHIIdOcEaEbNNIeFAcGAHcBUdHWAHeIbJOcKAbPAHeMBEdOaOcPAcSEcTOcUaWUdVUcWAaDDAfYEINdIEdZOrTaAK_C
  ONSONANT_SIGN_HbNGrLETTER_AbBAcCAcDAcGAcHAcIbJAcKARO_BAhLAcMAaNDAILING_HAcNAcSAmBAdNAbDAcGAcORTHER
  N_TAkYAdPAaKPAK_WAjRAcSAbIMALUNGUN_AbGAcHAcLAcMAcPAcRAcSAcWAcYAmOUTHERN_TAlUbWAcYAjPANGOLATfONGONA
  NkSIGN_TOMPIjYMBOL_BINDU_JUDULfNA_METEKiPANGOLAThINARBORASxVOWEL_SIGN_EaEcIbKARO_IbOgObPAKPAK_EiUa
  _FOR_SIMALUNGUN_SAziHaTUBeTERYgEACH_WITH_UMBRELLAqMED_ASCENDING_MUSICAL_NOTESxDESCENDING_MUSICAL_N
  OTESyEIGHTH_NOTESmSIXTEENTH_NOTEStNScR_FACEfDED_PERSONlTING_HEARTkVEReCAUSEfDbER_MUGfTLEeLaLa_PEPP
  ERgSYMBOLgWITH_CANCELLATION_STROKEzHOP_BELLkNGALI_ABBREVIATION_SIGNqNJIdU_LENGTH_MARKoCURRENCY_DEN
  OMINATOR_SIXTEENtNUMERATOR_FOUReONEa_LESS_THAN_THE_DENOMINATORzeTHREEeWOwDIGIT_EIGHTfFIVEdOUReNINE
  eONEdSEVENeIXdTHREEeWOdZEROkGANDA_MARKkISSHARgLETTER_AaAbIbUcBAbHAdCAbHAdDAbDAbHAdHAdEbGAbHAdHAcIa
  IcJAbHAdKAbHAaNDA_TAjLAcMAcNAbGAcNAcYAdObPAbHAdRAa_WITH_LOWER_DIAGONALoMIDDLE_DIAGONALwHAcRAdSAbHA
  cSAdTAbHAcTAbHAeUaUcVEDIC_ANUSVARAnOCALIC_LaLcRaRkYAbYAkRUPEE_MARKeSIGNkSANDHI_MARKkIGN_ANUSVARAhV
  AGRAHAiCANDRABINDUlNUKTAfVIRAMAeSARGAmVOWEL_SIGN_AAbIbUcEbIaIcObUaUcVOCALIC_LaLcRaRzbT_ARROW_POINT
  ING_DOWNWARDS_THEN_NORTH_EASTzqO_BOXgZENE_RINGa_WITH_CIRCLEwT_SYMBOLhWEENfVERAGE_BOXlHAIKSUKI_DAND
  AeIGIT_EIGHTfFIVEdOUReNINEeONEdSEVENeIXdTHREEeWOdZEROjOUBLE_DANDAmGAP_FILLER-1b2mHUNDREDS_UNIT_MAR
  KsLETTER_AaAbIbUcBAbHAdCAbHAdDAbDAbHAdHAdEbGAbHAdHAcIaIcJAbHAdKAbHAdLAcMAcNAbGAcNAcYAdObPAbHAdRAcS
  AbHAcSAdTAbHAcTAbHAeUaUcVAbOCALIC_LbRaRkYAjNUMBER_EIGHTaYgFIFTYdVEdORTYdUReNINEaTYgONEdSEVENaTYgIX
  aTYfTENcHIRTYeREEeWENTYeOkSIGN_ANUSVARAhVAGRAHAiCANDRABINDUlVIRAMAeSARGAmVOWEL_SIGN_AAbIbUcEbIaIcO
  bUaUcVOCALIC_LbRaRvWORD_SEPARATORxICYCLEbISThG_REVERSE_SOLIDUSpSOLIDUSjKINIeLLED_CAPgIARDShOHAZARD
  _SIGNmRDbTHDAY_CAKElSONdTCOIN_SIGNjING_LIPjLACK_BOWTIEgCENTRE_WHITE_STARqHESS_BISHOPa_ROTATED_NINE
  TY_DEGREESoTWO_HUNDRED_SEVENTY_DEGREESzrEQUIHOPPERa_ROTATED_NINETY_DEGREESziKINGa_ROTATED_NINETY_D
  EGREESoTWO_HUNDRED_SEVENTY_DEGREESzoNIGHTa_ROTATED_FORTY-FIVE_DEGREESsNINETY_DEGREESoONE_HUNDRED_T
  HIRTY-FIVE_DEGREESzgTHREE_HUNDRED_FIFTEEN_DEGREESzdWO_HUNDRED_SEVENTY_DEGREESpTWENTY-FIVE_DEGREESz
  p-BISHOPgQUEENfROOKlPAWNa_ROTATED_NINETY_DEGREESoTWO_HUNDRED_SEVENTY_DEGREESzpQUEENa_ROTATED_NINET
  Y_DEGREESoTWO_HUNDRED_SEVENTY_DEGREESzqROOKa_ROTATED_NINETY_DEGREESoTWO_HUNDRED_SEVENTY_DEGREESzpT
  URNED_BISHOPgKINGdNIGHTgPAWNeQUEENfROOKqIRCLEa_FOR_RECORDkWITH_DOWN_ARROWkTWO_WHITE_DOTSoWHITE_DOT
  _RIGHTzbLUB_SUITiROSS_ON_SHIELDoURVED_DOWNWARDS_AND_LEFTWARDS_ARROWpRIGHTWARDS_ARROWzfLEFTWARDS_AN
  D_DOWNWARDS_ARROWpUPWARDS_ARROWzcRIGHTWARDS_AND_DOWNWARDS_ARROWpUPWARDS_ARROWzdUPWARDS_AND_LEFTWAR
  DS_ARROWpRIGHTWARDS_ARROWzkDIAMONDa_CENTREDhMINUS_WHITE_XnON_CROSSiSUITeWITH_DOWN_ARROWwOWN_POINTI
  NG_BACKHAND_INDEXy-POINTING_DOUBLE_TRIANGLEpISOSCELES_RIGHT_TRIANGLEySMALL_TRIANGLEoTRIANGLEsWARDS
  _EQUILATERAL_ARROWHEADzfRAUGHTS_KINGeMANkOPLEThFLAGcORETTEhOLDEReUR_POINTED_STARrHARD_SHELL_FLOPPY
  _DISKvEARTa_SUITiXAGONgORIZONTAL_ELLIPSEqURGLASSjLARGE_CIRCLEgSQUARElEFT_LANE_MERGEkPOINTING_BACKH
  AND_INDEXoINDEXp-POINTING_DOUBLE_TRIANGLEa_WITH_VERTICAL_BARziISOSCELES_RIGHT_TRIANGLEyPOINTERhSMA
  LL_TRIANGLEoTRIANGLEsWARDS_BULLETgEQUILATERAL_ARROWHEADzfOWER_LEFT_TRIANGLEnRIGHT_TRIANGLEsZENGEhM
  EDIUM_DIAMONDgOWN-POINTING_TRIANGLEa_CENTREDzfLEFT-POINTING_TRIANGLEa_CENTREDzeOZENGEhRIGHT-POINTI
  NG_TRIANGLEa_CENTREDzgSMALL_DIAMONDhLOZENGEhSQUARElQUAREgUP-POINTING_TRIANGLEa_CENTREDzjOON_LILITH
  lNIBdOCTAGONhPARALLELOGRAMmENNANTeTAGONhUSHPINhQUESTION_MARK_ORNAMENTwRECTANGLEiIGHT_POINTING_BACK
  HAND_INDEXoINDEXp-POINTING_DOUBLE_TRIANGLEa_WITH_VERTICAL_BARziISOSCELES_RIGHT_TRIANGLEyPENTAGONhO
  INTERhSMALL_TRIANGLEoTRIANGLEa_WITH_DOUBLE_VERTICAL_BARzsWARDS_ARROWaHEADjBULLETgEQUILATERAL_ARROW
  HEADzgOSETTEhSAFETY_SCISSORSoCISSORShHOGI_PIECEkKULL_AND_CROSSBONEStLIGHTLY_SMALL_CIRCLEgSQUAREuMA
  LL_DIAMONDhLOZENGEhSQUAREfTARiILING_FACElNOWMANgPADE_SUITjQUAREa_BUTTONgCENTREDhFOR_STOPoTARdUN_WI
  TH_RAYSnTELEPHONEiINY_DIAMONDhLOZENGEhSQUAREkOUCHTONE_TELEPHONEsRUCKeWO-WAY_LEFT_WAY_TRAFFICyUNIVE
  RSAL_RECYCLING_SYMBOLzP_POINTING_BACKHAND_INDEXy-POINTING_DOUBLE_TRIANGLEpISOSCELES_RIGHT_TRIANGLE
  ySMALL_TRIANGLEoTRIANGLEsPER_LEFT_TRIANGLEnRIGHT_TRIANGLEsWARDS_EQUILATERAL_ARROWHEADzeVERTICAL_EL
  LIPSEhRECTANGLEpY_SMALL_DIAMONDhLOZENGEhSQUAREs-FEATHERED_NORTH_EAST_ARROWqRIGHTWARDS_ARROWqSOUTH_
  EAST_ARROWzbLETTER_CAPITAL_CbHbIbRbZtNK_SYMBOLkOCK_SEXTANT-1a2a3a4a5b6c5a6c6c4a5a6c6c5a6c6c3a4a5a6
  c6c56c6c4a5a6c6c5a6c6c2a3a4a5a6c6c5a6c6c4a5a6d5a6c6c3a4a5a6c6c5a6c6c4a5a6c6c5a6c6mSSOMeWFISHgUE_BO
  OKeHEARTgBERRIESkOARcLD_EIGHT_SPOKED_ASTERISKvFIVE_SPOKED_ASTERISKuGREEK_CROSSlSALTIREgIX_SPOKED_A
  STERISKtWHITE_CIRCLEgSQUAREpMaBcNEcOKaMARKa_TABSjScMERANGhPOMOFO_FINAL_LETTER_GbHbKbPbToLETTER_AaH
  bIaNNdMbNaGbNcUaNNeBaUcCaHcDbEaEbHbIbNaGbNcRcFbGaHbNbUbWcHbIaHbMbNNaNdRbUcJaIcKaWcLaHcMbNaGaGcNcOa
  _WITH_DOT_ABOVEpEbMbNGbNcObUcPbQbRbSaHcTbUaNNdVbXbZaHbIbYqTTLE_WITH_POPPING_CORKuOM_ARC_ANTICLOCKW
  ISE_ARROWxCURLY_BRACKETnHALF_BLACK_CIRCLEmINTEGRALiLEFT_PARENTHESISqRIGHT_PARENTHESISwLEFT_CORNERf
  ROPeHALF_BRACKETrPARENTHESISlRIGHT_CORNERfROPeHALF_BRACKETsSQUARE_BRACKETa_OVER_TOP_SQUARE_BRACKET
  znTORTOISE_SHELL_BRACKETzcUQUETa_OF_FLOWERSqW_AND_ARROWkL_OF_HYGIEIAkWITH_SPOONlINGeTIEa_WITH_LEFT
  _HALF_BLACKpRIGHT_HALF_BLACKzbX_DRAWINGS_DOUBLE_DOWN_AND_HORIZONTALkLEFTeRIGHToHORIZONTALkUP_AND_H
  ORIZONTALkLEFTeRIGHTmVERTICALa_AND_HORIZONTALkLEFTeRIGHTxWN_DOUBLE_AND_HORIZONTAL_SINGLErLEFT_SING
  LElRIGHT_SINGLExHEAVY_AND_HORIZONTAL_LIGHTqLEFT_LIGHTfUP_LIGHTnRIGHT_LIGHTfUP_LIGHToUP_HORIZONTAL_
  LIGHTzeLIGHT_AND_HORIZONTAL_HEAVYqLEFT_HEAVYfUP_HEAVYnRIGHT_HEAVYfUP_HEAVYoUP_HORIZONTAL_HEAVYzeSI
  NGLE_AND_HORIZONTAL_DOUBLErLEFT_DOUBLElRIGHT_DOUBLEzdHEAVY_DOUBLE_DASH_HORIZONTALkVERTICALsWNa_AND
  _HORIZONTALkLEFTeRIGHToHORIZONTALkLEFTa_AND_LIGHT_RIGHTuQUADRUPLE_DASH_HORIZONTALkVERTICALxRIGHTfT
  RIPLE_DASH_HORIZONTALkVERTICALuUPa_AND_HORIZONTALkLEFTdIGHT_DOWNkRIGHTmVERTICALa_AND_HORIZONTALkLE
  FTeRIGHTyLEFT_DOWN_HEAVY_AND_RIGHT_UP_LIGHTzeHEAVY_AND_RIGHT_DOWN_LIGHTkUP_LIGHTiVERTICAL_LIGHTzfL
  IGHT_AND_RIGHT_DOWN_HEAVYkUP_HEAVYiVERTICAL_HEAVYzfUP_HEAVY_AND_RIGHT_DOWN_LIGHTziIGHT_ARC_DOWN_AN
  D_LEFTeRIGHToUP_AND_LEFTeRIGHTqDIAGONAL_CROSSfDIAMONDhMIDDLE_LEFT_TO_LOWER_CENTREa_TO_MIDDLE_RIGHT
  zdUPPER_CENTRE_TO_MIDDLE_RIGHTa_TO_LOWER_CENTREzzcRIGHT_TO_LOWER_CENTREmUPPER_CENTRE_TO_MIDDLE_LEF
  T_TO_LOWER_CENTREzzjUPPER_CENTRE_TO_MIDDLE_LEFTa_AND_MIDDLE_RIGHT_TO_LOWER_CENTREzhTO_LOWER_CENTRE
  a_TO_MIDDLE_RIGHTzlRIGHTa_AND_MIDDLE_LEFT_TO_LOWER_CENTREzgTO_LOWER_CENTREa_TO_MIDDLE_LEFTzzdLEFT_
  TO_LOWER_RIGHTtRIGHT_TO_LOWER_LEFTziOUBLE_DASH_HORIZONTALkVERTICALsWNa_AND_HORIZONTALkLEFTeRIGHToH
  ORIZONTALa_WITH_VERTICAL_STROKEzgLEFTa_AND_HEAVY_RIGHTuQUADRUPLE_DASH_HORIZONTALkVERTICALxRIGHTfTR
  IPLE_DASH_HORIZONTALkVERTICALuUPa_AND_HEAVY_DOWNjORIZONTALkLEFTeRIGHTmVERTICALa_AND_HORIZONTALkLEF
  TeRIGHTyRIGHT_DOWN_HEAVY_AND_LEFT_UP_LIGHTzdHEAVY_AND_LEFT_DOWN_LIGHTkUP_LIGHTiVERTICAL_LIGHTzeLIG
  HT_AND_LEFT_DOWN_HEAVYkUP_HEAVYiVERTICAL_HEAVYzeUP_HEAVY_AND_LEFT_DOWN_LIGHTzjUP_DOUBLE_AND_HORIZO
  NTAL_SINGLErLEFT_SINGLElRIGHT_SINGLExHEAVY_AND_DOWN_HORIZONTAL_LIGHTvHORIZONTAL_LIGHTqLEFT_DOWN_LI
  GHTkLIGHTkRIGHT_DOWN_LIGHTkLIGHTvLIGHT_AND_DOWN_HORIZONTAL_HEAVYvHORIZONTAL_HEAVYqLEFT_DOWN_HEAVYk
  HEAVYkRIGHT_DOWN_HEAVYkHEAVYvSINGLE_AND_HORIZONTAL_DOUBLErLEFT_DOUBLElRIGHT_DOUBLEzbVERTICAL_DOUBL
  E_AND_HORIZONTAL_SINGLErLEFT_SINGLElRIGHT_SINGLExHEAVY_AND_HORIZONTAL_LIGHTqLEFT_LIGHTkRIGHT_LIGHT
  vLIGHT_AND_HORIZONTAL_HEAVYqLEFT_HEAVYkRIGHT_HEAVYvSINGLE_AND_HORIZONTAL_DOUBLErLEFT_DOUBLElRIGHT_
  DOUBLEzrING_GLOVEkYaS_SYMBOLkPHcRAHMI_DANDAeIGIT_EIGHTfFIVEdOUReNINEeONEdSEVENeIXdTHREEeWOdZEROjOU
  BLE_DANDAmLETTER_AaAbIbUcBAbHAdCAbHAdDAbDAbHAdHAdEbGAbHAdHAcIaIcJAbHAdKAbHAdLAbLAdMAcNAbGAcNAcYAdO
  aLD_TAMIL_LLAbLAeNNNAeRRAdSHORT_EbOrPAbHAdRAcSAbHAcSAdTAbHAcTAbHAeUaUcVAbOCALIC_LaLcRaRkYAjNUMBER_
  EIGHTaYgFIFTYdVEdORTYdUReJOINERgNINEaTYgONEa_HUNDREDhTHOUSANDmSEVENaTYgIXaTYfTENcHIRTYeREEeWENTYeO
  kPUNCTUATION_CRESCENT_BARmDOTbUBLE_DOTkLINEdOTUSrSIGN_ANUSVARAiCANDRABINDUlJIHVAMULIYAlOLD_TAMIL_V
  IRAMAqUPADHMANIYAlVISARGAmVIRAMAfOWEL_SIGN_AAbIbUcBHATTIPROLU_AAoEbIaIcOaLD_TAMIL_SHORT_EbOrUaUcVO
  CALIC_LaLcRaRzILLE_PATTERN_BLANKfDOTS-1a2a3a4a5a6a7a8c8c7a8c8c6a7a8c8c7a8c8c5a6a7a8c8c7a8c8c6a7a8c
  8c7a8c8c4a5a6a7a8c8c7a8c8c6a7a8c8c7a8c8c5a6a7a8c8c7a8c8c6a7a8c8c7a8c8c3a4a5a6a7a8c8c7a8c8c6a7a8c8c
  7a8c8c5a6a7a8c8c7a8c8c6a7a8c8c7a8c8c4a5a6a7a8c8c7a8c8c6a7a8c8c7a8c8c5a6a7a8c8c7a8c8c6a7a8c8c7a8c8c
  2a3a4a5a6a7a8c8c7a8c8c6a7a8c8c7a8c8c5a6a7a8c8c7a8c8c6a7a8c8c7a8c8c4a5a6a7a8c8c7a8c8c6a7a8c8c7a8c8c
  5a6a7a8c8c7a8c8c6a7a8c8c7a8c8c3a4a5a6a7a8c8c7a8c8c6a7a8c8c7a8c8c5a6a7a8c8c7a8c8c6a7a8c8c7a8c8c4a5a
  6a7a8c8c7a8c8c6a7a8c8c7a8c8c5a6a7a8c8c7a8c8c6a7a8c8c7a8c8sNdEADbK_PERMITTED_HEREqST-FEEDINGlVEdICK
  cDE_WITH_VEILlGE_AT_NIGHTmEFCASEeSeOCCOLIfKEN_BARdCIRCLE_WITH_NORTHWEST_ARROWzcHEARTjOMcWN_HEARTkS
  bUBBLE_TEAeSfCKETeGaINESE_END_OF_SECTIONoLETTER_AbBAcCAcDAcGAcHAcJAcKAcLAcMAbPAdNAbGAbKAdRAcYAbCAe
  PAcRAcSAcTAcVAcYAjPALLAWAhVOWEL_SIGN_AEcEbIbObUtHID_LETTER_AbBAcDAcGAcHAcIbKAcLAcMAcNAbGAdPAcRAcSA
  cTAcUbWAcYAjVOWEL_SIGN_IbUqILDING_CONSTRUCTIONtLLETa_OPERATORlHORNa_WITH_SOUND_WAVESvSEYEgRRITOfSa
  _STOPfT_IN_SILHOUETTEoS_IN_SILHOUETTErTTERaFLYiYTE_ORDER_MARKnZANTINE_MUSICAL_SYMBOL_AGOGI_ARGIbOT
  ERIiGORGIbOTERIjMESIcTRIAgPOLI_ARGIeGORGIpNATRICHISMAkTIKENOKYLISMAhMAjPESO_EKFONITIKONkXO_NEOlLIc
  ODERMA_ARCHAIONiNEOjSTROFOI_SYNDESMOS_NEOnTELOUS_ICHIMATOSsSa_DIPLIfNEOlTHEMAhRGONbSYNTHETONlKTIKO
  _DIcGAcKEcNIcPAcVOUdZOkCHAMILIbONgOREVMA_ARCHAIONiNEOkROA_KLITONgSPATHIgZYGOSlDASEIAfIARGONeSTOLI_
  APLI_MEGALIfIKRIkDIPLIfTHESEOSoESIS_APLI_DYO_DODEKATArDIGRAMMOS_EX_DODEKATAvMONOGRAMMOS_TESSERA_DO
  DEKATAzdTETARTIMORIONmRIGRAMMOS_OKTO_DODEKATAvTIMORIONqFTOGGOS_OUkGORGONa_PARESTIGMENON_ARISTERA_A
  NOdKATOnDEXIAzRAMMA_GGjPLIa_ARCHAIONnYOdEKSTREPTONjLAFRONgNARXIS_KAI_FTHORA_VOUuDOFONONiPEGERMAhTE
  RON_ARGOSYNTHETONnPARAKALESMArXO_EKFONITIKONpFANEROSIS_DIFONIASiMONOFONIASkTETRAFONIASuHTORA_SKLIR
  ON_CHROMA_VASISzbTHORA_ARCHAIONa_DEYTEROU_ICHOUxDIATONIKI_DIcKEcNANAdI_ANOdKATOhPAcZOmENARMONIOS_A
  NTIFONIAuI_YFESIS_TETARTIMORIONwMALAKON_CHROMA_DIFONIASiMONOFONIASzNAOS_ICHOSjENANOgSKLIRON_CHROMA
  _SYNAFIgVASISmDIATONON_DIzbGENIKI_DIESISgYFESISmORGON_ARCHAIONiNEO_ANOdKATOiPARESTIGMENON_ARISTERA
  iDEXIAvSYNTHETONlTHMIKON_N_APLOUNgDIPLOUNtRONTHISMATAmICHADINgMIDIARGONhFONONeTHORAbONjSAKIA_TELOU
  S_ICHIMATOSvON_ARCHAIONiNEOiKATAVA_TROMIKONjSMAgHISTIhENTIMA_ARCHAIONiNEO_ANOdKATOeMESOjTAa_ARCHAI
  ONiNEO_ANOdKATOeMESOrLASMAa_ANOdKATOkONTEVMAa_ALLOlRONISfUFISMAhRATIMA_ALLOdRCHAIONiNEOeTAdOKOUFIS
  MAiYPORROONnEMASTIhYLISMAhLEIMMA_DYO_CHRONONlENOS_CHRONOUmIMISEOS_CHRONOUpTESSARON_CHRONONpRION_CH
  RONONsMOIeYGISMAhMARTYRIA_ALLI_DEYTEROS_ICHOSoPROTOS_ICHOSrDEYTEROS_ICHOSoLEGETOS_ICHOSnPLAGIOS_IC
  HOSfTETARTOS_ICHOSvROTOS_ICHOShVARYS_ICHOSqTETARTOS_ICHOSfLEGETOS_ICHOSvRIFONIASgTOS_ICHOSmVARYS_I
  CHOStIKRON_ISONlNANAeOLIGON_ARCHAIONiNEOjMALONfXEIA_DIPLIfEKFONITIKONlNEOeI_ARCHAIONoYRANISMA_ARCH
  AIONiNEOnPARAKALESMA_ARCHAIONiNEOkLITIKIa_ARCHAIONiNEOmICHONhELASTONa_NEOkRISPOMENIjTASMAcTIbOKOUF
  ISMAoIASMA_ARCHAIONiNEOjSIFISTOLYGISMAhNa_NEOfPARAKALESMAlSYNAGMAmLIbONgRAPISMAgEVMAfSAXIMATAhEISM
  Aa_NEOjIMANSIS_ARSEOSa_DISIMOUhTETRASIMOUjRISIMOUpTHESEOSa_DISIMOUhTETRASIMOUjRISIMOUyTAVROSa_APOD
  EXIAoIGMAeRAGGISMATAlYNAGMA_ARCHAIONiMETA_STAVROUmNEOiEVMAfRMAaTIKIjTELEIAeSSERAfTRAPLIhHEMAa_APLO
  UNhTISMOS_ESOcXOmS_KAI_APOTHESoITAeINAGMAgRIAbGORGONgPLIeOMIKOLYGISMAhN_ALLOdRCHAIONiNEOfPARAKALES
  MAkSIFISTONjSYNAGMAoVAREIA_DIPLIfEKFONITIKONlNEOeI_ARCHAIONoTHYfXIRON_KLASMAmYFEN_ANOdKATOgSIS_APL
  I_DYO_DODEKATArDIGRAMMOS_EX_DODEKATAvMONOGRAMMOS_TESSERA_DODEKATAzdTRIGRAMMOS_OKTO_DODEKATAvTIMORI
  ONrPOKRISISa_DIPLImRROIfSILIzgCACTUSeDA_UNAfUCEUSgLENDARfL_ME_HANDkMERAa_WITH_FLASHoPINGfNaADIAN_S
  YLLABICS_AaAaIbYcIaVILIK_BiNbTHAPASCAN_MbSlYcBEAVER_DENE_LbRmIBLE-CREE_YlLACKFOOT_AbEbIbKAbEbIbOcN
  AbEbIbOcObSbWaAbEbIbOmCaAaAaIcRRIER_CHAbEaEcIbObUdDEEbNE_GEEfTAL_ShIbLAbEaEcIbObUcZAbEaEcIbObUdEEc
  GAaAcEaEcHAbEaEcIbObUcIbObUbWAbUdHaEEcIbWAbEaEcIbObUdIaNITIAL_ZjJAbEaEcIbJAbEaEcIbObUcObUbWAdKHAbE
  aEcIbObUcKaAbEaEcIbObUdLAbEaEcHAbEaEcIbObUcIbObUcMAbEaEcIbObUcNAbEaEcGbIbObUcPaAbEaEcIbObUcRAbEaEc
  IbObUcSAbEaEcHaAbEaEcIbObUcIbObUcTHAbEaEcIbObUcLAbEaEcHAbEaEcIbObUcIbObUcSAbEaEcIbObUcTAbEaEcIbObS
  AbEaEcIbObUcUdWAbEaEcIbObUcYAbEaEcIbObUcZaAbEaEcIbObUjEbHI_SIGNhIaIcOaOcWAaAcEbIaIcOaOeEaASTERN_Wi
  NcFaAaAaIdEbIaIbNAL_ACUTEfBOTTOM_HALF_RINGqDOUBLE_ACUTEfSHORT_VERTICAL_STROKESzcWN_TACKjGRAVEfMIDD
  LE_DOTkPLUSeRAISED_DOTjIGHT_HALF_RINGnNGeSHORT_HORIZONTAL_STROKEwMALL_RINGkTOP_HALF_RINGsOaOcULL_S
  TOPiWAAeGLOTTAL_STOPmHKbYPHENgIaIbNcKaAaAaIcYcEbIaIcOaOcWaAaAbYcEbIaIcOaOeLaAaAaIcYcEbHaAaAcIaIcOa
  OdIaIcOaOcWAaAcEbIaIcOaOeMaAaAaIcYcEaDIAL_LbRhHbIaIcOaOaSE-CREE_SKmWAaAcEbIaIcOaOeNa-CREE_THEbIaIk
  AaAaIcSKAPI_CWAAeKWAAeMWAAeNWAAeS-WcCWAdKWaAdPWAdTWAdWAAeTWAAeWAAcOOdYWAAkTTILIK_HAaAcIaIcOaOdSHRA
  aAcIaIcOaOmYcEbGaAaAaIcIcIaIcOaOdHbIaIcNGaAaAcIaIcOaOeOaObYcUNAVIK_HaAaAcEbIaIcOaOgUT_HiWAaAcEbIaI
  cOaOeOaJIBWAY_CbKbMbNaWIaIcOaOePbSaHcTiNbObYcPaAaAaIcYcEbIaIcOaObYcWAaAcEbIaIcOaObYeQaAaAaIcIcIaIc
  OaOdRa-CREE_REbWEjAaAaIcYcEbIaIcOaOcWAaAcEEcIaIcOaOeSaAaAaIcYaISI_HAbEbIbOaOdJIbUaUdMbSHAbEbIbOaOc
  WEeTHcYIiEbHaAaAbYcEbIaIcOaObYcWAaAcEbIaIcOaObYeIaIcOaObUTH-SLAVEY_KAHcEHcIHcOHoYcPAbEbIbOcWaAaAcE
  bIaIcOaOeTaAaAaIcYcEbHa-CREE_THaAaAcEbIaIcOaOkAaAcEbIaIcOaOcWAaAcEdIaIcLHAbEbIbOaOcWEeOaOcTAbEbHaA
  aAcEbIbOaOcWEdIbOcWAaAcEbIaIcOaOdYAbEbIbOdWAaAbYcEaST-CREE_CWAaAcEbIaIcOaOeFWAAeKWAaAcEbIaIcOaOeLa
  AaAcEbOaOcWAaAcEbIaIcOaOeMaWAaAcEbIaIcOaOeNWAaAcEdPaWAaAcEbIaIcOaOeRaAbEbIbObWAAeSHWAaAcEbIaIcOaOe
  WAaAcEbIaIcOaOeTHWAAeWAaAcEbIaIcOaOeWAaAcEbIaIcOaOdYaWAaAcEbIaIcOaOkERN_WiIaIcOaOaDS-CREE_FINAL_TH
  iTHaAbEbIbObWAaAcEEcIaIcOaOqYa-CREE_COOdKOOdLOOdMOOdNOOdOOcPOOcWAAeSOOdTOOdWbYOOjAaAaIcYcEbIaIcOaO
  bYcWAaAcEbIaIcOaOuCELa_CHARACTERjTAGeLATION_XjRdDLEcYcNED_FOODiOEdPITULUMgRICORNhR_SLIDINGiD_FILE_
  BOXiINDEXa_DIVIDERSqE_OFdTa_INSERTION_POINTsIAN_LETTER_Aa2cBbC-18c39eDa2cEa2cGa2cIaIcKa2cLaDa2dMaB
  a2b3b4dNaDbGbNcObPa2cQbRaRcSaHa2cSbTa2dTaTa2dUaUaUa2b3bUeXmONbUSEL_HORSElP_STREAMERjENTRY_SAWkRIAG
  E_RETURNlOTeSTLEeTa_FACEa_WITH_TEARS_OF_JOYmWRY_SMILEvUCASIAN_ALBANIAN_CITATION_MARKnLETTER_ALTcOR
  dBETdCARbYNdHAaTcIbOYdYAWbYeDATcYANdZAYcYAYfEBbYNdFAMdGHEYSeIMdHEYTeINYAdRBcWNdJAYNdHOXeKARcIWdLAN
  cYITeMAQdNOWCeONcPENcIWReQARbYdRATdSEYKdHAaKcOYeTAScIWRdYAYeVEYZeXEYNeYAYDdOWDeZARLdHAbILzcTION_SI
  GNlCHcEDI_SIGNfLLAfLTIC_CROSSkNT_SIGNfRE_LINE_SYMBOLmLINE_LOW_LINEiOVERLINErRESeGJcHAINScRcKMA_AU_
  MARKhDANDAeIGIT_EIGHTfFIVEdOUReNINEeONEdSEVENeIXdTHREEeWOdZEROjOUBLE_DANDAmLETTER_AAcBAAcHAAeCAAcH
  AAeDAAcDAAcHAAeHAAeEbGAAcHAAeHAAdIbJAAcHAAeKAAcHAAeLAAcHAAeMAAdNAAcGAAdNAAdYAAePAAcHAAeRAAdSAAdTAA
  cHAAdTAAcHAAfUbVAAdWAAdYAAcYAAlMAAYYAAhO_MARKgQUESTION_MARKnSECTION_MARKlIGN_ANUSVARAiCANDRABINDUl
  VISARGAmVIRAMAfOWEL_SIGN_AaAbIbUcEaIcIaIcOaIcUaUrM_CONSONANT_SIGN_FINAL_HbMbNGiLAcRAcWAcYArDIGIT_E
  IGHTfFIVEdOUReNINEeONEdSEVENeIXdTHREEeWOdZEROkLETTER_AaIcBAbBAcHAdCHAbHAeDAbDAcHAdEbFINAL_CHcGbKbL
  bNaGcPbRbSScTbYhGAbHAdHAcIbJAbHAdKAbHAdLAcMAbUEdNAbGAbUEdHAbJAcUEdUEdObPAbHAcPAdRAcSAbSAdTAbHAdUbV
  AcYAjPUNCTUATION_DANDAeOUBLE_DANDAmSPIRALgTRIPLE_DANDAyVOWEL_SIGN_AAbIbUcEIcIaIcOaEcUaEpRACTER_TAB
  ULATIONa_SETdWITH_JUSTIFICATIONzdIEjT_WITH_DOWNWARDS_TRENDpUPWARDS_TRENDa_AND_YEN_SIGNzkECK_MARKfE
  R_BOARDa_FILLpERING_MEGAPHONEoSE_WEDGEjQUERED_FLAGlROKEE_LETTER_AbDAbEbIbLAcObUbVcEbGAbEbIbObUbVcH
  AbEbIbNAcObUbVcIbKAcLAbEbIbObUbVcMAbEbIbObUbVcNAaHcEbIbObUbVcObQUAbEbIbObUbVdSaAbEbIbObUbVcTAbEbIb
  LAbEbIbObUbVcSAbEbIbObUbVdUbVbWAbEbIbObUbVcYAbEbIbObUbVjSMALL_LETTER_AbDAbEbIbLAcObUbVcEbGAbEbIbOb
  UbVcHAbEbIbNAcObUbVcIbKAcLAbEbIbObUbVcMAbEbIbObUbVcNAaHcEbIbObUbVcObQUAbEbIbObUbVdSaAbEbIbObUbVcTA
  bEbIbLAbEbIbObUbVcSAbEbIbObUbVdUbVbWAbEbIbObUbVcYAbEbIbObUbVuRIESdY_BLOSSOMlSTNUTgI_RHOeCKENeLDaRE
  N_CROSSINGoPMUNKfRONeOCOLATE_BARkPSTICKShRASMIAN_LETTER_ALEPHeYINeBETHeCURLED_WAWkDALETHgGIMELfHEa
  THeKAPHeLAMEDHgMEMdNUNdPEcRESHeSAMEKHfHINdMALL_ALEPHlTAWdWAWdYODHeZAYINmNUMBER_FOUReONEa_HUNDREDlT
  ENcHREEeWENTYeOtRISTMAS_TREEmURCHfINEMAeRCLE_DIVIDED_BY_HORIZONTAL_BAR_AND_TOP_HALF_DIVIDED_BY_VER
  TICAL_BARzzmWITH_ALL_BUT_UPPER_LEFT_QUADRANT_BLACKziHORIZONTAL_BARoLEFT_HALF_BLACKoOWER_HALF_BLACK
  qRIGHT_HALF_BLACKqSMALL_CIRCLE_TO_THE_RIGHTyUPERIMPOSED_XoTWO_HORIZONTAL_STROKES_TO_THE_RIGHTzkUPP
  ER_HALF_BLACKkRIGHT_QUADRANT_BLACKzbVERTICAL_FILLtD_ANTICLOCKWISE_ARROWg-ROTATED_DIVISION_SIGNzjST
  ERISK_OPERATORrBOLD_XfULLETgC_WITH_OVERLAID_BACKSLASHyCbDbROSS_FORMEEa_WITH_FOUR_DOTSjTWO_DOTSuPOM
  MEEhING_LANESoDASHdIGIT_EIGHTfFIVEdOUReNINEeONEdSEVENeIXdTHREEeWOdZEROiVISION_SIGNdLASHnOLLAR_SIGN
  _WITH_OVERLAID_BACKSLASHziT_OPERATORmEQUALSgGREATER-THANmHANGUL_CHIEUCHa_AiIEUCa_AhHIEUHa_AhIEUNGa
  _AbUhKHIEUKHa_AiIYEOKa_AiMIEUMa_AhNIEUNa_AhPHIEUPHa_AiIEUPa_AhRIEULa_AhSIOSa_AgTHIEUTHa_AiIKEUTa_A
  oEAVY_WHITE_RIGHTWARDS_ARROWzcORIZONTAL_BAR_WITH_NOTCHyUMAN_FIGUREmIDEOGRAPH_ACCEPTfDVANTAGEiLLIAN
  CEhTTENTIONjCENTREfONGRATULATIONmPYcRRECThEARTHeIGHTeNTERPRISEjXCELLENTjFEMALEfINANCIALhREcVEdOURe
  HAVEdIGHeITEMeKINDERGARTENlOTOeLABOReEFTdOWdMALEdEDICINEgTALeOONeNAMEdIGHTdNEeONEdPRINTfQUESTIONiR
  ELIGIONgSOURCEfTdIGHTfSCHOOLfECRETeVENeIXcOCIETYgPECIALgTOCKdUDYeUITABLEgNbPERVISEjTENcHREEeWOdWAT
  EReOODnNFORMATION_SOURCErTALIC_LATIN_CAPITAL_LETTER_CbRzeKATAKANA_AbEbHAbEbIbObUcIbKAbEbIbObUcMAbE
  bIbObUcNAbEbIbObUcObRAbEbIbObUcSAbEbIbObUcTAbEbIbObUcUbWAbEbIbOcYAbObUkOREAN_CHARACTER_CHAMKOgJUEU
  IwLATIN_CAPITAL_LETTER_AbBbCbDbEbFbGbHbIbJbKbLbMbNbObPbQbRbSbTbUbVbWbXbYbZqSMALL_LETTER_AbBbCbDbEb
  FbGbHbIbJbKbLbMbNbObPbQbRbSbTbUbVbWbXbYbZtESS-THANjMINUSeULTIPLICATION_SIGN_WITH_CIRCUMFLEX_ACCENT
  zrNUMBER_EIGHTEENdY_ON_BLACK_SQUAREvLEVENgFIFTEENdYa_ON_BLACK_SQUAREuORTYa_EIGHTfFIVEdOUReNINEeON_
  BLACK_SQUAREnEdSEVENeIXdTHREEeWOhURTEENiNINETEENiSEVENTEENdY_ON_BLACK_SQUAREwIXTEENdY_ON_BLACK_SQU
  AREvTENa_ON_BLACK_SQUAREsHIRTEENdYa_EIGHTfFIVEdOUReNINEeON_BLACK_SQUAREnEdSEVENeIXdTHREEeWOjWELVEd
  NTYa_EIGHTfFIVEdOUReNINEeON_BLACK_SQUAREnEdSEVENeIXdTHREEeWOrOPEN_CENTRE_EIGHT_POINTED_STARzfPARAL
  LELhERPENDICULARmLUSdOSTAL_MARKlREVERSE_SOLIDUSoING_OPERATORnSQUAREgTIMESeRIANGLEa_DOWNnVERTICAL_B
  ARmWHITE_BULLETgSTARjZcXbZERO_WITH_SLASHtULATION_FUNCTIONpMFLEX_ACCENTmS_TENTjTYSCAPEa_AT_DUSKqJK_
  COMPATIBILITY_IDEOGRAPH-2F800b1b2b3b4b5b6b7b8b9bAbBbCbDbEbFc10b1b2b3b4b5b6b7b8b9bAbBbCbDbEbFc20b1b
  2b3b4b5b6b7b8b9bAbBbCbDbEbFc30b1b2b3b4b5b6b7b8b9bAbBbCbDbEbFc40b1b2b3b4b5b6b7b8b9bAbBbCbDbEbFc50b1
  b2b3b4b5b6b7b8b9bAbBbCbDbEbFc60b1b2b3b4b5b6b7b8b9bAbBbCbDbEbFc70b1b2b3b4b5b6b7b8b9bAbBbCbDbEbFc80b
  1b2b3b4b5b6b7b8b9bAbBbCbDbEbFc90b1b2b3b4b5b6b7b8b9bAbBbCbDbEbFcA0b1b2b3b4b5b6b7b8b9bAbBbCbDbEbFcB0
  b1b2b3b4b5b6b7b8b9bAbBbCbDbEbFcC0b1b2b3b4b5b6b7b8b9bAbBbCbDbEbFcD0b1b2b3b4b5b6b7b8b9bAbBbCbDbEbFcE
  0b1b2b3b4b5b6b7b8b9bAbBbCbDbEbFcF0b1b2b3b4b5b6b7b8b9bAbBbCbDbEbFd900b1b2b3b4b5b6b7b8b9bAbBbCbDbEbF
  c10b1b2b3b4b5b6b7b8b9bAbBbCbDbEbFc20b1b2b3b4b5b6b7b8b9bAbBbCbDbEbFc30b1b2b3b4b5b6b7b8b9bAbBbCbDbEb
  Fc40b1b2b3b4b5b6b7b8b9bAbBbCbDbEbFc50b1b2b3b4b5b6b7b8b9bAbBbCbDbEbFc60b1b2b3b4b5b6b7b8b9bAbBbCbDbE
  bFc70b1b2b3b4b5b6b7b8b9bAbBbCbDbEbFc80b1b2b3b4b5b6b7b8b9bAbBbCbDbEbFc90b1b2b3b4b5b6b7b8b9bAbBbCbDb
  EbFcA0b1b2b3b4b5b6b7b8b9bAbBbCbDbEbFcB0b1b2b3b4b5b6b7b8b9bAbBbCbDbEbFcC0b1b2b3b4b5b6b7b8b9bAbBbCbD
  bEbFcD0b1b2b3b4b5b6b7b8b9bAbBbCbDbEbFcE0b1b2b3b4b5b6b7b8b9bAbBbCbDbEbFcF0b1b2b3b4b5b6b7b8b9bAbBbCb
  DbEbFdA00b1b2b3b4b5b6b7b8b9bAbBbCbDbEbFc10b1b2b3b4b5b6b7b8b9bAbBbCbDfF900b1b2b3b4b5b6b7b8b9bAbBbCb
  DbEbFc10b1b2b3b4b5b6b7b8b9bAbBbCbDbEbFc20b1b2b3b4b5b6b7b8b9bAbBbCbDbEbFc30b1b2b3b4b5b6b7b8b9bAbBbC
  bDbEbFc40b1b2b3b4b5b6b7b8b9bAbBbCbDbEbFc50b1b2b3b4b5b6b7b8b9bAbBbCbDbEbFc60b1b2b3b4b5b6b7b8b9bAbBb
  CbDbEbFc70b1b2b3b4b5b6b7b8b9bAbBbCbDbEbFc80b1b2b3b4b5b6b7b8b9bAbBbCbDbEbFc90b1b2b3b4b5b6b7b8b9bAbB
  bCbDbEbFcA0b1b2b3b4b5b6b7b8b9bAbBbCbDbEbFcB0b1b2b3b4b5b6b7b8b9bAbBbCbDbEbFcC0b1b2b3b4b5b6b7b8b9bAb
  BbCbDbEbFcD0b1b2b3b4b5b6b7b8b9bAbBbCbDbEbFcE0b1b2b3b4b5b6b7b8b9bAbBbCbDbEbFcF0b1b2b3b4b5b6b7b8b9bA
  bBbCbDbEbFdA00b1b2b3b4b5b6b7b8b9bAbBbCbDbEbFc10b1b2b3b4b5b6b7b8b9bAbBbCbDbEbFc20b1b2b3b4b5b6b7b8b9
  bAbBbCbDbEbFc30b1b2b3b4b5b6b7b8b9bAbBbCbDbEbFc40b1b2b3b4b5b6b7b8b9bAbBbCbDbEbFc50b1b2b3b4b5b6b7b8b
  9bAbBbCbDbEbFc60b1b2b3b4b5b6b7b8b9bAbBbCbDc70b1b2b3b4b5b6b7b8b9bAbBbCbDbEbFc80b1b2b3b4b5b6b7b8b9bA
  bBbCbDbEbFc90b1b2b3b4b5b6b7b8b9bAbBbCbDbEbFcA0b1b2b3b4b5b6b7b8b9bAbBbCbDbEbFcB0b1b2b3b4b5b6b7b8b9b
  AbBbCbDbEbFcC0b1b2b3b4b5b6b7b8b9bAbBbCbDbEbFcD0b1b2b3b4b5b6b7b8b9zdRADICAL_BAMBOOfLUEdOLT_OF_CLOTH
  lNEcXcRUSH_ONEdTWOjC-SIMPLIFIED_BIRDeCARTeDRAGONgEATcVENeFISHdLYcROGeGATEdOLDeHORSEfLEAFdONGeSALTd
  EEcHELLeILKdPEECHgTANNED_LEATHERnOOTHeURTLEgWINDqHOKEeITYcVILIANhLIFFdOTHESgOWdDEATHeIVINATIONjOGd
  EAT_ONEdTHREEeWOgWEcYEdFIREdOOTeGHOSTeRASS_ONEdTHREEeWOjHANDdEADbRT_ONEdTWOiORNeJ-SIMPLIFIED_DRAGO
  NgEVENeTOOTHeURTLEsADEeKNIFE_ONEdTWOjLAME_FOUReONEdTHREEeWOhONG_ONEdTWOiMEATcSHdOONcRTAReTHEReUND_
  ONEdTWOjNET_FOUReONEdTHREEeWOhOLDdPAW_ONEdTWOgERSONgRAINcMbPcEPEATgSEALcCOND_ONEdTHREEeWOjHEEPeILK
  cMPLIFIED_HALF_TREE_TRUNKoORNeWALKdHEATfYELLOWqMALL_ONEdTWOiNAKEdOUT_ONEdTWOiPIRIT_ONEdTWOjUNdTABL
  EeHREADfIGEReURTLEgWALK_ONEdTWOgTER_ONEdTWOiEST_ONEdTWOqSTROKE_BXGdDbHaGbPaWGdXWGdZaGbTbWaGcZaPbZa
  GfNbPaDbGbZcQbSaGbPbTbWaGbZcZaWGcZdTaNcWGcXGmLAMSHELL_MOBILE_PHONEtPPER_BOARDiING_HANDS_SIGNqSSICA
  L_BUILDINGqEAR_SCREEN_SYMBOLrINKING_BEER_MUGSjGLASSESnPBOARDhOCK_FACE_EIGHT_OCLOCKh-THIRTYlLEVEN_O
  CLOCKh-THIRTYnFIVE_OCLOCKh-THIRTYkOUR_OCLOCKh-THIRTYlNINE_OCLOCKh-THIRTYlONE_OCLOCKh-THIRTYkSEVEN_
  OCLOCKh-THIRTYlIX_OCLOCKh-THIRTYkTEN_OCLOCKh-THIRTYjHREE_OCLOCKh-THIRTYlWELVE_OCLOCKh-THIRTYlO_OCL
  OCKh-THIRTYqWISE_CLOSED_CIRCLE_ARROWsONTOUR_INTEGRALqDOWNWARDS_AND_UPWARDS_OPEN_CIRCLE_ARROWSzpGAP
  PED_CIRCLE_ARROWtINTEGRALiOPEN_CIRCLE_ARROWrRIGHT_AND_LEFT_SEMICIRCLE_ARROWSzcWARDS_AND_LEFTWARDS_
  OPEN_CIRCLE_ARROWSa_WITH_CIRCLED_ONE_OVERLAYzzsTOP_SEMICIRCLE_ARROWtRIANGLE-HEADED_OPEN_CIRCLE_ARR
  OWzpSE_UPdD_BOOKeINTERSECTION_WITH_SERIFSyLOCK_WITH_KEYnMAILBOX_WITH_LOWERED_FLAGmRAISED_FLAGySUBS
  ETa_OR_EQUAL_TOqPERSETa_OR_EQUAL_TOuUMBRELLAhNION_WITH_SERIFSa_AND_SMASH_PRODUCTzoUDa_WITH_LIGHTNI
  NGjRAINeSNOWeTORNADOpWN_FACEjOATcCKROACHfTAIL_GLASSlONUTfFFINeINcLLISION_SYMBOLnONa_EQUALSgSIGNiMB
  INING_ACUTE_ACCENTa_BELOWmTONE_MARKk-GRAVE-ACUTElMACRONlLMOST_EQUAL_TO_ABOVEfBELOWuNNUITY_SYMBOLmT
  ICLOCKWISE_ARROW_ABOVElRING_OVERLAYzSTERISK_ABOVEfBELOWoBINDU_BELOWkREVEa_BELOWg-MACRONkIDGE_ABOVE
  fBELOWmCANDRABINDUjRONa_BELOWkEDILLAgIRCUMFLEX_ACCENTa_BELOWwLOCKWISE_ARROW_ABOVElRING_OVERLAYvOMM
  A_ABOVEa_RIGHTlBELOWjNJOINING_MACRONa_BELOWwYRILLIC_DASIA_PNEUMATAoHUNDRED_MILLIONS_SIGNnTHOUSANDS
  _SIGNwKAVYKAgLETTER_AbBEbIG_YUShCHEdDEbJERVfEFbLbMbNbRbSa-TEfFITAeGHEdHAaRD_SIGNjIaEbOTIFIED_AbBIG
  _YUShEkKAcLITTLE_YUSkMONOGRAPH_UKmOaMEGAfPEcSHAbCHAeOFT_SIGNjTEbSEdUaKRAINIAN_IEmVEcYATcERUdIbUcZE
  bHEkMILLIONS_SIGNnPALATALIZATIONmYEROKgOKRYTIEhSILI_PNEUMATAoTEN_MILLIONS_SIGNqHOUSAND_MILLIONS_SI
  GNvITLOa_LEFT_HALFjRIGHT_HALFqVZMEToDELETION_MARKlVANAGARI_DIGIT_EIGHTfFIVEdOUReNINEeONEdSEVENeIXd
  THREEeWOdZEROkLETTER_AbKAcNAcPAcRAcUbVIjSIGN_AVAGRAHAxIAERESISa_BELOWg-RINGnOT_ABOVEa_LEFTeRIGHTlB
  ELOWa_LEFTlTED_ACUTE_ACCENTmGRAVE_ACCENTrUBLE_ACUTE_ACCENTmBREVEa_BELOWlCIRCUMFLEX_ABOVEqGRAVE_ACC
  ENTmINVERTED_BREVEa_BELOWuLOW_LINEiMACRONa_BELOWmOPEN_MARK_BELOWoVERLINEiPARENTHESES_ABOVEqLUS_SIG
  N_ABOVEfBELOWpRIGHTWARDS_ARROW_BELOWuNG_BELOWkTILDEa_LEFT_HALFjRIGHT_HALFqVERTICAL_LINE_ABOVEfBELO
  WkSTROKE_OVERLAYyD_CIRCUMFLEX_ACCENTxWN_TACK_BELOWlWARDS_ARROWpENCLOSING_CIRCLEa_BACKSLASHqDIAMOND
  hKEYCAPgSCREENfQUAREgUPWARD_POINTING_TRIANGLEziQUALS_SIGN_BELOWrFERMATAgOUR_DOTS_ABOVEpGLAGOLITIC_
  LETTER_AZUdBIG_YUSgUKYeCHRIVIgDJERVIfOBROfFITAdRITUfGLAGOLIhHERUeIaNITIAL_IZHElOTATED_BIG_YUShSMAL
  L_YUSqZHEeKAKOeLJUDIJEhMYSLITEhNASHIfONUdPOKOJIgRITSIfSHAbTAdLOVOeMALL_YUSjTSIcVRIDOgUKUdVEDEeYATI
  dERIbUcSTUeObUcZEMLJAfHIVETEyRANTHA_DIGIT_FIVEdOUReONEdSIXdTHREEeWOdZEROkLETTER_AbKAcNAcPAcVIoPHEM
  E_JOINERmVE_ACCENTa_BELOWmTONE_MARKk-ACUTE-GRAVElMACRONkEEK_DIALYTIKA_TONOSpKORONIShMUSICAL_PENTAS
  EMEjTETRASEMEiRISEMEpPERISPOMENIlYPOGEGRAMMENItHOMOTHETIC_ABOVEoOK_ABOVEiRNeINFINITYgVERTED_BREVEa
  _BELOWjIDGE_BELOWmDOUBLE_ARCH_ABOVEfBELOWzS_BELOWiKATAKANA-HIRAGANA_SEMI-VOICED_SOUND_MARKwVOICED_
  SOUND_MARKziVYKA_ABOVE_LEFTeRIGHTsLATIN_LETTER_SMALL_CAPITAL_GbLbMbNbRwSMALL_LETTER_Aa_WITH_DIAERE
  SISpEbLPHAeObVcBaETAeCa_CEDILLAjDbEaSHcTHdFaLATTENED_OPEN_A_ABOVEwGbHbIaNSULAR_DbGbRbTjKbLa_WITH_D
  OUBLE_MIDDLE_TILDEzONG_SgMbNbOa_WITH_DIAERESISjLIGHT_CENTRALIZATION_STROKEzjPbRa_BELOWfROTUNDAjSaC
  HWAfTaURNED_W_BELOWoUa_WITH_DIAERESISjLIGHT_CENTRALIZATION_STROKEzjVbWa_BELOWhXbZtEFT_ANGLE_ABOVEf
  BELOWkRROW_ABOVEfBELOWgHEAD_ABOVEfBELOWpHALF_RING_ABOVEfBELOWnRPOON_ABOVEnPARENTHESIS_ABOVE_LEFTkB
  ELOW_LEFTwRIGHT_ARROW_ABOVEfBELOWrTACK_BELOWlWARDS_ARROW_OVERLAYnHARPOON_WITH_BARB_DOWNWARDSzlIGAT
  URE_LEFT_HALFa_BELOWpRIGHT_HALFa_BELOWwHT_CENTRALIZATION_STROKE_BELOWzhONG_DOUBLE_SOLIDUS_OVERLAYw
  SOLIDUS_OVERLAYoTROKE_OVERLAYoVERTICAL_LINE_OVERLAYyW_LINEiMACRONa_BELOWfLEFT_HALFa_BELOWpRIGHT_HA
  LFa_BELOWr-ACUTEfBREVEfGRAVElINUS_SIGN_BELOWqNOT_TILDE_ABOVEoUMBER_SIGN_ABOVErOGONEKa_ABOVElLD_PER
  MIC_LETTER_ANcDOIdNENOEfSIIdZATAvPEN_MARK_BELOWoVERLINEiPALATALIZED_HOOK_BELOWuRENTHESES_ABOVEfBEL
  OWfOVERLAYsLUS_SIGN_ABOVEfBELOWpRETROFLEX_HOOK_BELOWsVERSE_SOLIDUS_OVERLAYqD_COMMA_ABOVEtIGHT_ARRO
  W_ABOVEfBELOWgHEAD_ABOVEeND_DOWN_ARROWHEAD_BELOWuUP_ARROWHEAD_BELOWwBELOWpHALF_RING_ABOVEfBELOWnRP
  OON_ABOVEnPARENTHESIS_ABOVE_RIGHTlBELOW_RIGHTxTACK_BELOWlWARDS_HARPOON_WITH_BARB_DOWNWARDSzlNG_ABO
  VEfBELOWfOVERLAYmSEAGULL_BELOWmHORT_SOLIDUS_OVERLAYoTROKE_OVERLAYoVERTICAL_LINE_OVERLAYzbNAKE_BELO
  WkQUARE_BELOWeRACKETS_ABOVEuTRONG_CENTRALIZATION_STROKE_BELOWziUSPENSION_MARKpTHREE_DOTS_ABOVEpILD
  Ea_BELOWfLEFT_HALF_BELOWpOVERLAYhRIGHT_HALF_BELOWvRIPLE_ACUTE_ACCENTmDOTdUNDERDOToURNED_COMMA_ABOV
  EsUP_TACK_ABOVEfBELOWlWARDS_ARROW_BELOWsR_ABOVEhS_ABOVEiVERTICAL_LINE_ABOVEfBELOWkTILDEoWIDE_BRIDG
  E_ABOVEmINVERTED_BRIDGE_BELOWyGGLY_LINE_BELOWrX_ABOVEfBELOWg-X_BELOWjZIGZAG_ABOVEfBELOWtETcMAbERCI
  AL_ATcMINUS_SIGNsPASSdLEMENTgOSITION_SYMBOLoRESSIONjNFETTI_BALLjOUNDED_FACElUSED_FACEkGRUENT_WITH_
  DOT_ABOVEvICAL_TAPERkJUNCTIONiSTRUCTION_SIGNeWORKERqTAINS_AS_MEMBERgNORMAL_SUBGROUPa_OR_EQUAL_TOzf
  WITH_LONG_HORIZONTAL_STROKEwOVERBARhVERTICAL_BAR_AT_END_OF_HORIZONTAL_STROKEzzINUOUS_UNDERLINE_SYM
  BOLxOUR_INTEGRALmROL_KNOBSfSEQUENCE_INTRODUCERyVENIENCE_STOREpOKED_RICEhIEbNGfPTIC_CAPITAL_LETTER_
  AKHMIMIC_KHEImLFAeBOHAIRIC_KHEInCROSSED_SHEIkYPTOGRAMMIC_EIEdGANGIAgNIcSHEIsDALDAeEIcIALECT-P_ALEF
  eHORIeKAPAeNImEIEdFEIcIcGAMMAdNGIAgHATEdORIeIAUDAfKAPAdHEIcIcSIdL-SHAPED_HAkAULAfMIcNIcOaLD_COPTIC
  _AINdDJAdESHdGANGIAgHAaTcEIcORIeOOUdSHEIcIMAmNUBIAN_NGIcYIdSHIMAfWAUnOUdPIbSIdROcSAMPIeHEIcIMAeIMA
  dOUdTAUcHETHEgUAcVIDAeZATAsOMBINING_NI_ABOVEiSPIRITUS_ASPERfLENISyEPACT_DIGIT_EIGHTfFIVEdOUReNINEe
  ONEdSEVENeIXdTHREEeWOjNUMBER_EIGHT_HUNDREDiYgFIFTYdVE_HUNDREDlORTYdUR_HUNDREDmNINE_HUNDREDiTYgONE_
  HUNDREDlSEVEN_HUNDREDiTYgIX_HUNDREDiTYfTENcHIRTYeREE_HUNDREDmWENTYeO_HUNDREDsTHOUSANDS_MARKuFRACTI
  ON_ONE_HALFqULL_STOPjMORPHOLOGICAL_DIVIDERvOLD_NUBIAN_DIRECT_QUESTION_MARKuFULL_STOPjINDIRECT_QUES
  TION_MARKwVERSE_DIVIDERySMALL_LETTER_AKHMIMIC_KHEImLFAeBOHAIRIC_KHEInCROSSED_SHEIkYPTOGRAMMIC_EIEd
  GANGIAgNIcSHEIsDALDAeEIcIALECT-P_ALEFeHORIeKAPAeNImEIEdFEIcIcGAMMAdNGIAgHATEdORIeIAUDAfKAPAdHEIcIc
  SIdL-SHAPED_HAkAULAfMIcNIcOaLD_COPTIC_AINdDJAdESHdGANGIAgHAaTcEIcORIeOOUdSHEIcIMAmNUBIAN_NGIcYIdSH
  IMAfWAUnOUdPIbSIdROcSAMPIeHEIcIMAeIMAdOUdTAUcHETHEgUAcVIDAeZATAqYMBOL_KAIcHI_ROgMI_ROfPI_ROfSHIMA_
  SIMAjTAUROShTAU_ROrYLEFT_SYMBOLlRIGHT_SIGNmRALcNISH_VERSE_DIVIDERsRESPONDS_TOmUCH_AND_LAMPlNTERBOR
  EeSINKgING_ROD_TENS_DIGIT_EIGHTfFIVEdOUReNINEeONEdSEVENeIXdTHREEeWOoUNIT_DIGIT_EIGHTfFIVEdOUReNINE
  eONEdSEVENeIXdTHREEeWOyPLE_WITH_HEARTpWa_FACEhRaABcEDIT_CARDiSCENT_MOONlICKETa_BAT_AND_BALLsOCODIL
  EgISSANTgSS_MARKeOF_JERUSALEMjLORRAINElPATTY_WITH_LEFT_CROSSBARnRIGHT_CROSSBARyOMMEEa_WITH_HALF-CI
  RCLE_BELOWzfED_FLAGSfNEGATIVE_SQUARED_LATIN_CAPITAL_LETTER_PzoSWORDSjING_LANESlWNdUTCHdZEIRO_SIGNl
  YING_CAT_FACEiFACEiSTAL_BALLlSIcUBE_ROOThCUMBERgNEIFORM_NUMERIC_SIGN_EIGHT_ASHdDISHeGESH2fSHAR2fUa
  _VARIANT_FORMoVARIANT_FORM_USSUa3xLAMITE_FIFTYeORTYfONE_THIRDjTWO_THIRDSsFIVE_ASHa_TENUiBAN2a_VARI
  ANT_FORMqURUeDISHeGESH2bUfSHAR2bUeIXTHS_DISHlUa_VARIANT_FORMsOUR_ASHa_TENUiBAN2a_VARIANT_FORMqURUe
  DISHeGESH2bUfSHAR2bUfUa_VARIANT_FORMoVARIANT_FORM_LIMMUa_AbBc4yNIGIDAESHdMINhNE_ASHdDISHeGESH2fSHA
  R2fUa_VARIANT_FORMoVARIANT_FORM_ILIMMUa_Ac3b4zOLD_ASSYRIAN_ONE_QUARTERhSIXTHvNE_BAN2dURUeEIGHTH_AS
  HjSHE3fGESH2bUfHALF_GURiQUARTER_ASHdGURlSHARUfTHIRD_DISHeVARIANT_FORM_AySEVEN_ASHdDISHeGESH2fSHAR2
  fUa_VARIANT_FORMoVARIANT_FORM_IMIN_AbBc3xHAR2_TIMES_GAL_PLUS_DISHeMINxIX_ASHa_TENUiDISHeGESH2fSHAR
  2fUa_VARIANT_FORMoVARIANT_FORM_ASH9vTHREE_ASHa_TENUiBAN2dURUa_VARIANT_FORMrDISHeGESH2bUfSHAR2a_VAR
  IANT_FORMoUa_VARIANT_FORMsVARIANT_FORM_ESH16c21xWO_ASHa_TENUiBAN2dURUeESHE3fGESH2bUfSHAR2bUfTHIRDS
  _DISHeVARIANT_FORM_AznPUNCTUATION_SIGN_DIAGONAL_COLONfQUADCOLONjTRICOLONrOLD_ASSYRIAN_WORD_DIVIDER
  zVERTICAL_COLONzgSIGN_Aa_TIMES_AbBADdGAN2_TENUjHAcIGIdLAGAR_GUNUkMUSHeSAGk2bBa_GUNUeTIMES_ASH2eDUN
  3_GUNUjGALbN2_TENUjHAcIGI_GUNUhMINeLAGABfNUNa_TENUiSHESHdU2eU_PLUS_U_PLUS_Uw2a_TIMES_AbBALAGfGAN2_
  TENUjME_PLUS_ENkSHA3eTAK4nDa_TIMES_ESH2mKa_TIMES_ERIN2fSHITA_PLUS_GISHxLa_TIMES_ALcDIM2eGISHeHAcKA
  D3dIcSHEdUSHkANcEPHeMARa_TIMES_KUGdSHEnNa_OVER_ANhPLUS_NAGA_OPPOSING_AN_PLUS_NAGAvSQUAREDrTHREE_TI
  MESmSHEePINdRADa_TIMES_KURmKABeSAL2dHa_KABA_TENUjOVER_ASH_OVER_ASHa_CROSSING_ASH_OVER_ASH_OVER_ASH
  zoTUG2_OVER_TUG2_TUG2_OVER_TUG2_PAPzrZIDA_TENUk2bGABgBAaDa_TIMES_DISH_TENUrG3cHAR2a_TIMES_AB2dNIcZ
  AnLa_OVER_BALjAGdRaA2eIa_TIMES_AbGARdIGI_GUNUqUa_CROSSING_BUlOVER_BU_ABcTIMES_NA2jUNlLUGa_OVER_BUL
  UGoRa2eDAa_TIMES_TAK4lGa_KISIM5_TIMES_A_PLUS_MASHkMAReBALAGeIcGAa_PLUS_MASHlIaR2dUDdHAcIRa_PLUS_LU
  kKAKdLAbUa_PLUS_MASH2lMdNEcPAP_PLUS_PAPmSIcTAK4eU2_PLUS_GIR2eMASHlSHqTIMES_KURk3cMbRaA3b4eIaBbMa_T
  IMES_IGIdSHEdU_U_Um2a_TIMES_UDlNa_KASKAL_U_GUNU_DISHuSHa_PLUS_SHUmUa_GUNUeOVER_DUhSHESHIGiBa_TIMES
  _ESH2eSHEk2cGa_TIMES_ANSHEeSHa_AT_LEFTlDINcUNdERIN2fGAbIaR2_GUNUhSHeHAbIcIGI_GUNUiKASKALfURbSHU2a_
  PLUS_KASKALsLAK-020fMa_TIMES_KURmUH_PLUS_GISHnMASHdEScIcNIcPIcSHEcI_GUNUoUDdHbNa3a_GUNUa_GUNUl4cR2
  eEa_OVER_E_NUN_OVER_NUNtTIMES_PAPk2a_TIMES_A_PLUS_HA_PLUS_DArGARdKURdMIcPAPdSALcHEdUjDINdGIRdLbNa_
  CROSSING_ENlOPPOSING_ENlSQUAREDhTIMES_GAN2a_TENUjMEkRENcIN2a_XgSH2a_CROSSING_ESH2rZENa_SHESHIG_TIM
  ES_ASHdHIcIGI_GUNUiLAaLdMEaSdSUqTIMES_Aa_PLUS_LALa_TIMES_LALtNcBADdDUN3_GUNUa_GUNUoGUDdHAa_GUNUhIG
  I_GUNUiKASKALa_SQUAREDnU3dLAaL_TIMES_LALmIbUcSHEcUcU2bDnGAa_GUNUf2a_OVER_GA2iTIMES_A_PLUS_DA_PLUS_
  HAkHAcIGIjB2_TENU_PLUS_TABqNa_PLUS_KAK_PLUS_ArSHa2a_PLUS_GALnBADbHAR2eR_PLUS_RAkURa_PLUS_RAlDAbIaM
  _GUNUeTIMES_SHEmUBbG_TIMES_IGI_GUNUiKASKALqELa_PLUS_LAjNa_TIMES_GAN2_TENUrRENeGAaN2_TENUhRa_PLUS_D
  IcNEkIa4a_PLUS_AiR2_PLUS_SUmHA_PLUS_AbLU_PLUS_ESH2sLa_PLUS_LAkI_PLUS_LIjUB2eIGI_GUNUhSH_PLUS_HU_PL
  US_ASHuKAKbSKALfIDa_PLUS_LALlU3_PLUS_ANjSHU2_PLUS_KASKALsLAaMa_TIMES_KURmUHdME_PLUS_ENjIbUSHeNEa_P
  LUS_E2cGIjUNa_OVER_NUNmPAcSALbRcHEa_PLUS_TURkIDbMdUMdTAK4eUaDa_PLUS_DUkZIZ2mBAa_CROSSING_GABAnROTA
  TED_NINETY_DEGREESzDa_OVER_GAD_GAR_OVER_GARxLa_GAD_OVER_GAD_GAR_OVER_GARzbAMdMbNa2a_CROSSING_GAN2n
  OVER_GAN2jTENUhRa3cSHANfE22cSHTINa_TIMES_KURdUoIa_CROSSING_GIlTIMES_EbUi4a_CROSSING_GI4mOVER_GI4kD
  IMdGbR2a_GUNUg3a_TIMES_A_PLUS_IGIkGAN2_TENUjIGIdLU_PLUS_IGIlPAlSALcHa_CROSSING_GISHnTENUdIMES_BADd
  GISH_CROSSING_GISHsTAK4oUa_CROSSING_GUm2a_GUNUeTIMES_IGI_GUNUiKAKa_TIMES_IGI_GUNUsNUNdSAL_PLUS_TUG
  2vDa_OVER_GUD_LUGALoPLUS_GISH_TIMES_TAK4uTIMES_A_PLUS_KURkKURlLbMa_TIMES_SHElRa7bUNbSHgHAa_GUNUeTE
  NUa_GUNUkLcIa_TIMES_ASHa_OVER_HI_TIMES_ASHs2eBADdDISHeGADdKINdNUNdSHEdUjUaB2a_TIMES_ANcHALdKASKALg
  LISHeUDlL2cSHeIa_AcBbDIMa_OVER_IDIM_BURdSQUAREDvGaIa_DIBdGUNUeOVER_IGI_SHIR_OVER_SHIR_UD_OVER_UDzj
  RIfLa_TIMES_GAN2_TENUq2cMa_CROSSING_IMlOPPOSING_IMlSQUAREDhTIMES_TAK4lINdNbRbSHdKAa_TIMES_AaDa_PLU
  S_KU3kNSHEeSH2b3eBADbLAGdRcIbUcERIN2eSH2eGAaLbN2_TENUhRa_PLUS_SHA3_PLUS_AtIaR2cSHa_CROSSING_GISHnP
  LUS_SARmUaDbR7eHI_TIMES_ASH2nIGIcMcKAaKcIaDdLIbUaMdMEa_PLUS_DUcGIcTEjIa_PLUS_NUNUZnNEbUNdPAbIcRUcS
  AaRcHAbEbIDcUaLdIGcUHURfTARcUcUa_U_Ue2bDbMUM_TIMES_PAmRa2cSHdZIj2a_CROSSING_KA2oBbD2b3b4b5a_OVER_K
  AD5mKa_TIMES_IGI_GUNUqLa_CROSSING_KALmTIMES_BADlM2b4cP_ELAMITEjSKALa_LAGAB_TIMES_U_OVER_LAGAB_TIME
  S_UzhOVER_KASKAL_LAGAB_TIMES_U_OVER_LAGAB_TIMES_UzzESH2eIa_TIMES_BADdUaDjDbNbSALcHbIM5a_OVER_KISIM
  5rUa_OVER_HI_TIMES_ASH2_KU_OVER_HI_TIMES_ASH2zq3b4a_VARIANT_FORMo7bLa_GUNUgNbRa_OPPOSING_KURoSHU2f
  WU318gLAaGABa_SQUAREDhTIMES_Aa_PLUS_DA_PLUS_HAkGARdLALjLbNbSH_ZIDA_TENUnBADcIcDARdENcGAaRcIbUDa_PL
  US_GUDmHAaLcI_TIMES_NUNmIGI_GUNUhMa_PLUS_HAcLUkKIaNcU3bLa_PLUS_HI_PLUS_AsLAGABeISHdUaLdMEa_PLUS_EN
  jUSHeNEcSHE_PLUS_SUMkITA_PLUS_GISH_PLUS_ERIN2kTENUsU2a_PLUS_SHU2nUMdTAGbK4dE_PLUS_A_PLUS_SU_PLUS_N
  AzUa_PLUS_AbU_PLUS_Uo2_PLUS_ASHkDbSHdZU_OVER_ZUsRa_GUNUa_OVER_LAGAR_GUNU_SHEyTIMES_SHEa_PLUS_SUMwH
  SHUeK-003c21b5c30c50b1c62c79_OVER_LAK-079_GUNUu80b1_OVER_LAK-081p92d130c42d210b9c20b5b8c38c65b6d34
  3b7b8c83b4c90d441b9a_TIMES_GUcIGIdPAP_PLUS_LU3dPAP_PLUS_LU3vU2_PLUS_BAt50b7c70c83c90b2b3b5d550d608
  c17a_TIMES_ASHdBADdDUN3_GUNU_GUNUoKU3dLAcTARcEcU2bDbRUDAo36c48a_TIMES_DUBdGAcIGIa_GUNUiNIcPAP_PLUS
  _PAP_PLUS_LU3vSHESH_PLUS_KInUDbRUDAp724c49fLa_TIMES_LALlMa_TIMES_KURa_PLUS_RUuIaLbMMU2eSHdUa_TIMES
  _BADk2a_CROSSING_LU2mGUNU_TIMES_ASHoOPPOSING_LU2mSHESHIGa_TIMES_BADqQUAREDhTENUdIMES_ALcBADdDISHeE
  SH2a_PLUS_LALiTENUjGAN2_TENUjHALcI_TIMES_BADmIMcKAD2b3a_PLUS_ASHmIcLA_PLUS_ASHjGABfME_PLUS_ENkNEbU
  cPAPa_PLUS_PAP_PLUS_LU3vSHUcI_PLUS_ASHjK2_PLUS_BUmTAK4dUG2m3bGALa_OPPOSING_LUGALnVER_LUGALkSHESHIG
  lHbLbMa_OVER_LUMa_GAR_OVER_GARzMAa_GUNUeTIMES_TAK4l2bHbRbSHa2eEaSaHdIa_PLUS_ZA7jNcUa_OVER_MUiGa_GU
  NUgNSUBeRGU2eSHa_CROSSING_MUSHnOVER_MUSHa_TIMES_A_PLUS_NAjGAcKAKtTIMES_AbKURdZAj3a_GUNUeTIMES_Aa_P
  LUS_DIjDIcZAoNAa2b4bGAa_INVERTEDiOPPOSING_NAGAnTIMES_SHU_TENUpRdMa_NUTILLUi2dEa_SHESHIGhTIMES_AbUD
  kIa_TIMES_Ei2bMa_TIMES_GAN2_TENUhR_PLUS_GAN2_TENUzbNa9bDA2a_TIMES_ANbSHa_PLUS_ASHmBALdDIM_GUNUiGIa
  SHdUDbLdHIcKESH2fLAK-050hMASHdE_PLUS_GAN2_TENUrNEbUNdPAP_PLUS_PAPmSHEa_PLUS_A_ANdSHa_PLUS_ASHvUa_P
  LUS_Uh2_PLUS_ASHkRUDAeSHoSAGeUa11a_OVER_NU11_BUR_OVER_BURwROTATED_NINETY_DEGREESwTENUhNa_CROSSING_
  NUNa_LAGAR_OVER_LAGARzeLAGAR_TIMES_GARdMASHeSALa_OVER_NUN_LAGAR_TIMES_SALzdUSHpOVER_NUNiTENUfUZa_A
  B2_TIMES_ASHGABgBIcDUGdGUDdIGI_GUNUiKAD3eLAcNEcSILA3fU2mKISIM5_TIMES_BIa_UxPAaDbNbPcESH2a_ASTERISK
  nIa_CROSSING_PIlTIMES_AaBcBIbUcEbIaBcUa2jR2bIGa_OPPOSING_PIRIGoTIMES_KALdUDcZAoRAaBcIbUcSAaGa_GUNU
  a_TIMES_HAnNUTILLUhOVER_SAGiTIMES_AbDUaBdENcHAcIGI_GUNUiKAKcURdLUMdMIcNUNdSALcHE_AT_LEFTjIDeTABbK4
  eU2bBbMbRbSHlLa_LAGAB_TIMES_ASH2sNGA2eRcHAa3a_TIMES_AbBADdGISHeNEcSHU2eTURdUa_PLUS_Aq6a_TENUgB6cR2
  dEa_HUcOVER_SHEa_GAD_OVER_GAD_GAR_OVER_GARzTAB_OVER_TAB_GAR_OVER_GARzjPLUS_HUB2eNAM2eSARjG9cNbSHa2
  bLAMgIDa_TIMES_AbIMkMa_TIMES_AbBALcULUGfDINdGARdIGIa_GUNUiKUSHU2gLULdMUGdSALlNIGdRa_OVER_SHIR_BUR_
  OVER_BURwTENUgTAdUa_OVER_INVERTED_SHUs2a_PLUS_DUG_TIMES_NImE2_TIMES_ANsBURfIa_GUNUeTIMES_TAK4lGa4a
  _OVER_SIG4_SHU2rK2cLA3eUa_OVER_SUiDa2cHURdMaASHeRa9eTAa_ASTERISKiGUNUeTIMES_HIcMIjBa_OVER_TAB_NI_O
  VER_NI_DISH_OVER_DISHzjSQUAREDjGa_TIMES_BIcGUDdSHEbUdTUG2eUDkK4a_PLUS_SAGlRcEa_GUNUgIa_TENUf2bLbRa
  _OVER_TIRa_GAD_OVER_GAD_GAR_OVER_GARzjTIMES_TAK4nUaG2cKbMa_TIMES_GAN2_TENUjTHREE_DISHsRa_OVER_TUR_
  ZA_OVER_ZAxUa_GUDdOVER_U_PA_OVER_PA_GAR_OVER_GARxSUR_OVER_SURmU_REVERSED_OVER_U_REVERSEDziUa_Ue2bB
  bDa_GUNUeKUSHU2gSHESHIGa_TIMES_BADrTIMES_BADdMIcU_PLUS_U_PLUS_Ua_GUNUzcUGdMa_TIMES_LAGABfMEa_PLUS_
  DAkSHA3eUiBINdUMa_TIMES_KASKALgPAmNa_GUNUgRa_CROSSING_URlSHESHIGi2a_INVERTEDiTIMES_A_PLUS_HAcNAiLc
  HAcNUNdU2a_PLUS_ASHdBIjDk4bIa3cUa_TIMES_AaSHGABgBARdDARA3eUNdGAaLbN2_TENUhRcUcHAcIGIcMbSHdKIcLAK-6
  68gU3bMdMINdPAcSHEcIG4eTUcU_PLUS_GUDjDbRUDAmDAa_TIMES_UmSHa_TIMES_AbKUaRdTAK4l2bUMXdXdTUKIeZ3a_TIM
  ES_KASKALoUdZAa_SQUARED_TIMES_KURrTENUf7bGbMXdE2cIa_OVER_ZIi3bBa_KABA_TENUlGbZ2dUa_OVER_ZU_PLUS_SA
  Rr5a_TIMES_AbTHREE_DISH_TENUxBURdMqP_ON_BLACK_SQUAREpWITH_STRAWlCAKEeIDOeRLING_STONEjY_BRACKET_EXT
  ENSIONrLOGICAL_ANDdORiOPhRENCY_EXCHANGEiSIGNjY_AND_RICElVED_STEM_PARAGRAPH_SIGN_ORNAMENTziSTARDdOM
  SfT_OF_MEATkYCLONEfLINDRICITYkPRIOT_SYLLABLE_AbEbIbJAbOcKAbEbIbObUcLAbEbIbObUcMAbEbIbObUcNAbEbIbOb
  UcObPAbEbIbObUcRAbEbIbObUcSAbEbIbObUcTAbEbIbObUcUbWAbEbIbOcXAbEcZAbOpO-MINOAN_SIGN_CM001b2b4b5b6b7
  b8b9c10b1b2aBc3b5b7b9c21b3b4b5b6b7b8b9c30b3b4b5b6b7b8b9c40b1b4b6b7b9c50b1b2b3b4b5b6b8b9c60b1b2b3b4
  b6b7b8b9c70b1b2b3b4b5aBc6b8b9c80b1b2b3b4b5b6b7b8b9c90b1b2b4b5b6b7b8b9d100b1b2b3b4b5b7b8b9c10b2b4d3
  01b2vRILLIC_CAPITAL_LETTER_Aa_WITH_BREVEfDIAERESISpBKHASIAN_CHEa_WITH_DESCENDERsDZEdHAlLEUT_KAiBAR
  RED_Oa_WITH_DIAERESISvSHKIR_KAjEbIG_YUSfNOCULAR_OkLENDED_YUSkROAD_OMEGAkYELORUSSIAN-UKRAINIAN_IyCC
  HEdHEa_WITH_DESCENDERiIAERESISjVERTICAL_STROKExLOSED_LITTLE_YUSqROSSED_OjDCHEdEbJEaRVeOUBLE_MONOCU
  LAR_OlOhWEcZEaLOdHEcWEcZEbHEfEa_WITH_DIAERESISpFbLa_WITH_DESCENDERjHOOKeMIDDLE_HOOKlTAILlMa_WITH_T
  AILlNa_WITH_DESCENDERjHOOKeLEFT_HOOKjMIDDLE_HOOKlTAILlRa_WITH_TICKlSa_WITH_DESCENDERrFITAeGHEa_WIT
  H_DESCENDERjMIDDLE_HOOKlSTROKEa_AND_HOOKpUPTURNoJEdHAa_WITH_DESCENDERjHOOKeSTROKEmRD_SIGNiWEdIa_WI
  TH_DIAERESISjGRAVEfMACRONmEa_WITH_BREVEfGRAVEmOaTAbIFIED_AbBIG_YUShCLOSED_LITTLE_YUSrEbLITTLE_YUSk
  YATlZHITSAa_WITH_DOUBLE_GRAVE_ACCENTzhJEcKAa_WITH_DESCENDERjHOOKeSTROKEgVERTICAL_STROKEwHAKASSIAN_
  CHEnJEcOMI_DEbJEcZJEeLJEdNJEdSJEdTJEdZJEgPPAeSIdLHAcITTLE_YUSjJEdMONOCULAR_OhGRAPH_UKmNEUTRAL_YERk
  JEdOa_WITH_DIAERESISpMEGAa_WITH_TITLOpTcPEa_WITH_DESCENDERjMIDDLE_HOOKsSIdQAcREVERSED_DZEdTSEdYUcZ
  EkHAcOUND_OMEGAlSCHWAa_WITH_DIAERESIStEMISOFT_SIGNmHAbCHAdHAa_WITH_DESCENDERrORT_Ia_WITH_TAILlUfWE
  dOFT_DEcELbMcSIGNiTRAIGHT_Ua_WITH_STROKEwTCHEdEa_WITH_DESCENDERjMIDDLE_HOOKsSEbHEcSEcWEdWEdUa_WITH
  _DIAERESISiOUBLE_ACUTEmMACRONmKaRAINIAN_IEmVEcWEcYAaEbTcERUa_WITH_BACK_YERiDIAERESISsIbNbUcZEa_WIT
  H_DESCENDERiIAERESISpMLYAfHEa_WITH_BREVEfDESCENDERiIAERESISqWEkIGATURE_A_IEeEN_GHEgTE_TSExKAVYKAgL
  ETTER_MULTIOCULAR_OnPALOCHKAiSMALL_CAPITAL_ELxPAYEROKhSMALL_LETTER_Aa_WITH_BREVEfDIAERESISpBKHASIA
  N_CHEa_WITH_DESCENDERsDZEdHAlLEUT_KAiBARRED_Oa_WITH_DIAERESISvSHKIR_KAjEbIG_YUSfNOCULAR_OkLENDED_Y
  USkROAD_OMEGAkYELORUSSIAN-UKRAINIAN_IyCCHEdHEa_WITH_DESCENDERiIAERESISjVERTICAL_STROKExLOSED_LITTL
  E_YUSqROSSED_OjDCHEdEbJEaRVeOUBLE_MONOCULAR_OlOhWEcZEaLOdHEcWEcZEbHEfEa_WITH_DIAERESISpFbLa_WITH_D
  ESCENDERjHOOKeMIDDLE_HOOKlTAILlMa_WITH_TAILlNa_WITH_DESCENDERjHOOKeLEFT_HOOKjMIDDLE_HOOKlTAILlRa_W
  ITH_TICKlSa_WITH_DESCENDERrFITAeGHEa_WITH_DESCENDERjMIDDLE_HOOKlSTROKEa_AND_HOOKpUPTURNoJEdHAa_WIT
  H_DESCENDERjHOOKeSTROKEmRD_SIGNiWEdIa_WITH_DIAERESISjGRAVEfMACRONmEa_WITH_BREVEfGRAVEmOaTAbIFIED_A
  bBIG_YUShCLOSED_LITTLE_YUSrEbLITTLE_YUSkYATlZHITSAa_WITH_DOUBLE_GRAVE_ACCENTzhJEcKAa_WITH_DESCENDE
  RjHOOKeSTROKEgVERTICAL_STROKEwHAKASSIAN_CHEnJEcOMI_DEbJEcZJEeLJEdNJEdSJEdTJEdZJEgPPAeSIdLHAcITTLE_
  YUSjJEcONG-LEGGED_DEoMONOCULAR_OhGRAPH_UKmNARROW_OhEUTRAL_YERkJEdOa_WITH_DIAERESISpMEGAa_WITH_TITL
  OpTcPALOCHKAhEa_WITH_DESCENDERjMIDDLE_HOOKsSIdQAcREVERSED_DZEdTSEdYUcZEkHAcOUND_OMEGAgED_VEkSCHWAa
  _WITH_DIAERESIStEMISOFT_SIGNmHAbCHAdHAa_WITH_DESCENDERrORT_Ia_WITH_TAILlUfWEdOFT_DEcELbMcSIGNiTRAI
  GHT_Ua_WITH_STROKEwTALL_HARD_SIGNjTEcYAThCHEdEa_WITH_DESCENDERjMIDDLE_HOOKsHREE-LEGGED_TEoSEbHEcSE
  cWEdWEdUa_WITH_DIAERESISiOUBLE_ACUTEmMACRONmKaRAINIAN_IElNBLENDED_UKmVEcWEbIDE_EShYAaEbTcERUa_WITH
  _BACK_YERiDIAERESISsIbNbUcZEa_WITH_DESCENDERiIAERESISpMLYAfHEa_WITH_BREVEfDESCENDERiIAERESISqWEkIG
  ATURE_A_IEeEN_GHEgTE_TSEvTHOUSANDS_SIGNxDAGGERa_KNIFEfWITH_LEFT_GUARDkRIGHT_GUARDvLET_SYMBOLkNCERd
  GOdRK_SHADEeUNGLASSESnSH_SYMBOLgWITH_LEFT_UPTURNrED_LOW_LINEiOVERLINEiTRIANGLE-HEADED_RIGHTWARDS_A
  RROWzmTA_LINK_ESCAPEpC1b2b3b4bScEAF_PERSONjCIDUOUS_TREEkMAL_EXPONENT_SYMBOLpSEPARATOR_KEY_SYMBOLzR
  EASE_FONT_SIZE_SYMBOLxERcGREE_CELSIUShFAHRENHEITkSIGNjLaETEdIVERY_TRUCKlTA_EQUAL_TOmNTISTRY_SYMBOL
  _LIGHT_DOWN_AND_HORIZONTALa_WITH_CIRCLEgTRIANGLEiWAVEzeUP_AND_HORIZONTALa_WITH_CIRCLEgTRIANGLEiWAV
  EzcVERTICAL_AND_BOTTOM_LEFTeRIGHTmTOP_LEFTeRIGHTjWAVEiWITH_CIRCLEgTRIANGLEzsPARTMENT_STOREoRELICT_
  HOUSE_BUILDINGvSCENDING_NODEmERET_CAPITAL_LETTER_AYcBEEdCHEEeDEEdEFbLbMbNaGcRbSaHcTHcWcGAYdHbJEEdK
  AYdLONG_AaHcEbIbOaOhOIbWcPEEdSHORT_AaHcEbIbOaOiTEEcHEEeVEEdWUcYEEdZEEcHEEtSMALL_LETTER_AYcBEEdCHEE
  eDEEdEFbLbMbNaGcRbSaHcTHcWcGAYdHbJEEdKAYdLONG_AaHcEbIbOaOhOIbWcPEEdSHORT_AaHcEbIbOaOiTEEcHEEeVEEdW
  UcYEEdZEEcHEEuTa_ISLANDkKTOP_COMPUTERiWINDOWmVANAGARI_ABBREVIATION_SIGNqCUTE_ACCENTmCARETfDANDAeIG
  IT_EIGHTfFIVEdOUReNINEeONEdSEVENeIXdTHREEeWOdZEROjOUBLE_DANDAmGAP_FILLERjRAVE_ACCENTmHEADSTROKEkJA
  IN_OMhLETTER_AaAbIbUbWbYcBAbBAcHAdCAaNDRA_AbEbOhHAdDAbDAbDAbHAdHAdHAdEbFAcGAbGAcHAbHAdLOTTAL_STOPm
  HAbEAVY_YAiIaIcJAbHAcJAdKAbHAbHAeLAbLAbLAeMAaRWARI_DDAlNAbGAcNAbNAdYAdOaEbOEdPAbHAdQAcRAbHAcRAdSAb
  HAbORT_AbEbOgSAdTAbHAcTAbHAeUaEbUaEdVAbOCALIC_LaLcRaRkYAbYAdZAbHAkOMcSIGN_ANUSVARAhVAGRAHAiCANDRAB
  INDUa_AVAGRAHAiTHREEeWOdVIRAMAsDOUBLE_CANDRABINDU_VIRAMAzHIGH_SPACING_DOTqINVERTED_CANDRABINDUuNUK
  TAfPUSHPIKAiSIDDHAMgPACING_CANDRABINDUtVIRAMAeSARGAlTRESS_SIGN_ANUDATTAiUDATTAsVOWEL_SIGN_AAbIbUbW
  bYcCANDRA_EbLONG_EgOiEbIaIcOaEbOEdPRISHTHAMATRA_EpSHORT_EbOhUaEbUaEdVOCALIC_LaLcRaRzeICE_CONTROL_F
  OUReONEdSTRINGgTHREEeWOrIAERESISgMETER_SIGNjOND_OPERATORiSHAPE_WITH_A_DOT_INSIDExTARGETgWITH_BOTTO
  M_HALF_BLACKrLEFT_HALF_BLACKpRIGHT_HALF_BLACKqTOP_HALF_BLACKzE_FACE-1b2b3b4b5b6hSEL_LOCOMOTIVEpFFE
  RENCE_BETWEENqGIT_EIGHTa_COMMAfFULL_STOPpFIVEa_COMMAfFULL_STOPnOURa_COMMAfFULL_STOPoNINEa_COMMAfFU
  LL_STOPoONEa_COMMAfFULL_STOPnSEVENa_COMMAfFULL_STOPoIXa_COMMAfFULL_STOPnTHREEa_COMMAfFULL_STOPoWOa
  _COMMAfFULL_STOPnZEROa_COMMAfFULL_STOPrRAM_FOR_EARTHaLY_HEAVENfUMANnGREATER_YANGdINlHEAVENLY_EARTH
  nUMAN_EARTHlLESSER_YANGdINtMENSION_ORIGINoNGBAT_CIRCLED_SANS-SERIF_DIGIT_EIGHTfFIVEdOUReNINEeONEdS
  EVENeIXdTHREEeWOdZEROkNUMBER_TENzeNEGATIVE_CIRCLED_DIGIT_EIGHTfFIVEdOUReNINEeONEdSEVENeIXdTHREEeWO
  jNUMBER_TENkSANS-SERIF_DIGIT_EIGHTfFIVEdOUReNINEeONEdSEVENeIXdTHREEeWOdZEROkNUMBER_TENztRECT_CURRE
  NT_SYMBOL_FORM_TWOxHITiSABLED_CARiPPOINTED_BUT_RELIEVED_FACErFACEoCONTINUOUS_UNDERLINE_SYMBOLzcGUI
  SED_FACEmTTO_MARKiVES_AKURU_DIGIT_EIGHTfFIVEdOUReNINEeONEdSEVENeIXdTHREEeWOdZEROjOUBLE_DANDAmEND_O
  F_TEXT_MARKqGAP_FILLERkINITIAL_RAkLETTER_AaAcBAbHAdCAbHAdDAbDAbHAdHAdEbGAbHAdHAcIaIcJAcKAbHAdLAbLA
  dMAcNAbGAcNAcYAdObPAbHAdRAcSAbHAcSAdTAbHAcTAdUaUcVAcYAbYAdZAjMEDIAL_RAcYAjPREFIXED_NASAL_SIGNtSIGN
  _ANUSVARAiCANDRABINDUlHALANTAhNUKTAkVIRAMAfOWEL_SIGN_AAbIcEbIaIcObUaUwIDESdNG_MASKhSION_SIGNdLASHf
  TIMESlORCE_SYMBOLmYA_LAMPhZZY_FACEeSYMBOLlLEcNA_DOUBLE_HELIXpO_NOT_LITTER_SYMBOLsCUMENTa_WITH_PICT
  UREhTEXTa_AND_PICTUREzdDOcES_NOT_CONTAIN_AS_MEMBERgNORMAL_SUBGROUPa_OR_EQUALzkDIVIDEa_WITH_REVERSE
  D_NEGATION_SLASHzkFORCEfPRECEDEa_OR_EQUALoOVEfSUCCEEDa_OR_EQUALxGa_FACEfRA_ABBREVIATION_SIGNrLETTE
  R_AaAbIbUcBAbHAdCAbHAdDAbDAbHAdHAdEbGAbHAdHAcIaIcJAbHAdKAbHAdLAcMAcNAbGAcNAcYAdObPAbHAdRAbRAdSAbHA
  cSAdTAbHAcTAbHAeUaUcVAcYAjSIGN_ANUSVARAiNUKTAfVIRAMAeSARGAmVOWEL_SIGN_AAbIbUcEbIaIcObUaUcVOCALIC_R
  aRzLLAR_SIGNiPHINfMINO_TILE_HORIZONTAL_BACKf-00-00b1b2b3b4b5b6e1-00b1b2b3b4b5b6e2-00b1b2b3b4b5b6e3
  -00b1b2b3b4b5b6e4-00b1b2b3b4b5b6e5-00b1b2b3b4b5b6e6-00b1b2b3b4b5b6qVERTICAL_BACKf-00-00b1b2b3b4b5b
  6e1-00b1b2b3b4b5b6e2-00b1b2b3b4b5b6e3-00b1b2b3b4b5b6e4-00b1b2b3b4b5b6e5-00b1b2b3b4b5b6e6-00b1b2b3b
  4b5b6yNG_SIGNhORcT_ABOVEfMINUSfOPERATORiPLUSfTED_CIRCLEfROSSfFENCEfLINE_FACEjOBELOSgRIGHT-POINTING
  _ANGLEuSOLIDUSgQUAREgTRANSPOSITION_MARKERzUBLE_ACUTE_ACCENTmCIRCLED_DIGIT_EIGHTfFIVEdOUReNINEeONEd
  SEVENeIXdTHREEeWOjNUMBER_TENrOLON_EQUALkURLY_LOOPkDAGGERfOWN_TACKjEXCLAMATION_MARKqHIGH-REVERSED-9
  _QUOTATION_MARKzeYPHENgINTEGRALeRSECTIONmLEFT_ARC_GREATER-THAN_BRACKETzdOGICAL_ANDdORiW_LINEf-9_QU
  OTATION_MARKqREVERSED-9_QUOTATION_MARKzeNESTED_GREATER-THANmLESS-THANa_WITH_UNDERBARzfOBLIQUE_HYPH
  ENoPLUSdRECEDESgIMEa_QUOTATION_MARKuQUESTION_MARKnRIGHT_ARC_LESS-THAN_BRACKETzcSOLIDUS_OPERATORpQU
  ARE_INTERSECTIONmUNIONlTACKED_COMMAlROKE_NOT_SIGNoUBSETeCCEEDSgPERSETgSPENSION_MARKpUNIONeP_TACKhV
  ERTICAL_BARa_DOUBLE_LEFT_TURNSTILEoRIGHT_TURNSTILEwLEFT_TURNSTILEsLINEnWAVY_OVERLINEo-ENDED_MULTIM
  APoLINE_EQUAL_TO_OR_GREATER-THANmLESS-THANvSLANTED_EQUAL_TO_OR_GREATER-THANmLESS-THANvGREATER-THAN
  _OR_EQUAL_TOyLESS-THAN_OR_EQUAL_TOzjSTRUCK_CAPITAL_CbGAMMAfHbNbPaIcQbRbZjITALIC_CAPITAL_DjSMALL_Db
  EbIbJoN-ARY_SUMMATIONpSMALL_GAMMAfPIqD_FEMALE_SIGNlMALE_SIGNjSYMBOLlGHNUTgVE_OF_PEACElWN_ARROWHEAD
  jFISH_TAILjRIGHT_DIAGONAL_ELLIPSISxTACKa_WITH_CIRCLE_BELOWx-POINTING_RED_TRIANGLEmSMALL_RED_TRIANG
  LEsTRIANGLE_WITH_LEFT_HALF_BLACKpRIGHT_HALF_BLACKzpWARD_FACING_HOOKa_WITH_DOTnNOTCHED_HOOKa_WITH_D
  OTzeS_ANCORAfRROWa_AND_RIGHT_ONE_EIGHTH_BLOCKzbFROM_BARiLEFTWARDS_OF_UPWARDS_ARROWzbTO_BARgWITH_CO
  RNER_LEFTWARDSqDOUBLE_STROKEnEQUILATERAL_ARROWHEADvHORIZONTAL_STROKErLARGE_TRIANGLE_ARROWHEADyMEDI
  UM_TRIANGLE_ARROWHEADzNOTCHED_TAILmSMALL_EQUILATERAL_ARROWHEADvTRIANGLE_ARROWHEADyTIP_LEFTWARDSjRI
  GHTWARDSzBLACK_ARROWfCIRCLED_WHITE_ARROWzCOMPRESSED_ARROWqDASHED_ARROWlOUBLE_ARROWmFINGER-POST_ARR
  OWrHARPOON_WITH_BARB_LEFT_BESIDE_DOWNWARDS_HARPOON_WITH_BARB_RIGHTziUPWARDS_HARPOON_WITH_BARB_RIGH
  TznFROM_BARiTO_BARhWARDSjRIGHT_FROM_BARiTO_BARhWARDSzcEAVY_ARROWfCOMPRESSED_ARROWwPAIRED_ARROWSnQU
  ADRUPLE_ARROWpROCKETgSANS-SERIF_ARROWpQUARED_ARROWnTRIANGLE_ARROWHEADk-HEADED_ARROWa_LEFTWARDS_OF_
  UPWARDS_TRIANGLE-HEADED_ARROWzrTO_BARgWITH_BOLD_SHAFTkDOUBLE_HORIZONTAL_STROKEyHEAVY_SHAFTlLONG_TI
  P_LEFTWARDSjRIGHTWARDStMEDIUM_SHAFTmNARROW_SHAFTmVERY_HEAVY_SHAFTzcDASHED_ARROWmPAIRED_ARROWSnZIGZ
  AG_ARROWzPLE_ARROWlWO_HEADED_ARROWn-HEADED_ARROW_WITH_TRIANGLE_ARROWHEADSzqWHITE_ARROWa_WITHIN_TRI
  ANGLE_ARROWHEADzmZIGZAG_ARROWvRACHMA_SIGNjFTING_POINT_RIGHTWARDS_ARROWzdGONa_FACEjESSdIVE_SLOW_SIG
  NnOMEDARY_CAMELmOLING_FACEkP_OF_BLOODjLETfUM_WITH_DRUMSTICKStUCKcMPLINGgPLOYAN_AFFIX_ATTACHED_E_HO
  OKgI_HOOKgLEFT-TO-RIGHT_SECANTuSECANTgTAILcNGENTa_HOOKvHIGH_ACUTEfCIRCLEgDOTdGRAVEfLINEdONG_GRAVEk
  TIGHT_ACUTElVERTICALa_SECANTpWAVEjLEFT_HORIZONTAL_SECANTvOW_ACUTEeRROWfCIRCLEgDOTdGRAVEfLINEdONG_G
  RAVEkTIGHT_ACUTElVERTICALa_SECANTpWAVEiMID_HORIZONTAL_SECANTrVERTICAL_SECANTtRIGHT_HORIZONTAL_SECA
  NTzeDOUBLE_MARKlLETTER_AaOUdBbDa_ScHcEaEbUcFa_NdGa_R_SfHaLcIaEcJa_Ma_SdNa_SdSa_WITH_DOTkWITH_DOTaS
  _INSIDE_AND_ABOVEzdKa_MbR_SeKcLaHbONG_IbUgMa_Na_SdSbWITH_DOTkNa_Ma_SdSbWITH_DOTjASAL_AbIbObUhOaAbO
  HcUbWcPa_NcERNIN_AMbNjRa_ScHbOMANIAN_IbUkSa_Ja_SdKa_RdMbNbPa_RdSbTa_RdWITH_DOTa_BELOWpHORT_IgLOAN_
  ANcDHcEEbHbNcJbONbWcUhTa_R_SdScHcUa_NcHbIcVaOCALIC_MjWa_RcAbEIcHbIbOaWdXaWcYEjPUNCTUATION_CHINOOK_
  FULL_STOPzeSIGN_O_WITH_CROSSrTHICK_LETTER_SELECTORzeVDdE-MAIL_SYMBOLmAGLEdRa_OF_MAIZEfRICEhWITH_HE
  ARING_AIDrTHa_GLOBE_AMERICAShSIA-AUSTRALIAoEUROPE-AFRICAsROUNDkST_SYRIAC_CROSSqDITORIAL_CORONISqGG
  bYPTIAN_HIEROGLYPH_A001b2b3b4b5aAc6aAbBc7b8b9c10b1b2b3b4aAc5b6b7aAc8b9c20b1b2b3b4b5b6b7b8b9c30b1b2
  aAc3b4b5b6b7b8b9c40aAc1b2aAc3aAc4b5aAc6b7b8b9c50b1b2b3b4b5b6b7b8b9c60b1b2b3b4b5b6b7b8b9c70dA001b2b
  3b4b5b6b7aAbBc8b9c10b1b2b3b4b5b6b7b8b9c20b1b2b3b4b5b6b7b8b9c30b1b2fB001b2b3b4b5aAc6b7b8b9dEGIN_SEG
  MENTnC001b2aAbBbCc3b4b5b6b7b8b9c10aAc1b2b3b4b5b6b7b8b9c20b1b2b3b4eD001b2b3b4b5b6b7b8aAc9c10b1b2b3b
  4b5b6b7b8b9c20b1b2b3b4b5b6b7aAc8b9c30b1aAc2b3b4aAc5b6b7b8b9c40b1b2b3b4b5b6aAc7b8aAc9c50aAbBbCbDbEb
  FbGbHbIc1b2aAc3b4aAc5b6b7b8b9c60b1b2b3b4b5b6b7aAbBbCbDbEbFbGbHfE001b2b3b4b5b6b7b8aAc9aAd10b1b2b3b4
  b5b6aAc7aAc8b9c20aAc1b2b3b4b5b6b7b8aAc9c30b1b2b3b4aAc6b7b8dND_SEGMENTlF001aAc2b3b4b5b6b7b8b9c10b1b
  2b3aAc4b5b6b7b8b9c20b1aAc2b3b4b5b6b7b8b9c30b1aAc2b3b4b5b6b7aAc8aAc9c40b1b2b3b4b5aAc6aAc7aAc8b9c50b
  1aAbBbCc2b3eG001b2b3b4b5b6aAc7aAbBc8b9c10b1aAc2b3b4b5b6b7b8b9c20aAc1b2b3b4b5b6aAc7b8b9c30b1b2b3b4b
  5b6aAc7aAc8b9c40b1b2b3aAc4b5aAc6b7b8b9c50b1b2b3b4eH001b2b3b4b5b6aAc7b8dORIZONTAL_JOINERrI001b2b3b4
  b5aAc6b7b8b9aAd10aAc1aAc2b3b4b5dNSERT_AT_BOTTOM_ENDdSTARTmTOP_ENDdSTARTtK001b2b3b4b5b6b7b8eL001b2a
  Ac3b4b5b6aAc7b8eM001aAbBc2b3aAc4b5b6b7b8b9c10aAc1b2aAbBbCbDbEbFbGbHc3b4b5aAc6aAc7aAc8b9c20b1b2aAc3
  b4aAc5b6b7b8aAc9c30b1aAc2b3aAbBc4b5b6b7b8b9c40aAc1b2b3b4eN001b2b3b4b5b6b7b8b9c10b1b2b3b4b5b6b7b8aA
  bBc9c20b1b2b3b4b5aAc6b7b8b9c30b1b2b3aAc4aAc5aAc6b7aAc8b9c40b1b2dL001b2b3b4b5aAc6b7b8b9c10b1b2b3b4b
  5b6b7aAc8b9c20eU001b2b3b4b5b6b7b8b9c10aAc1aAc2b3b4b5b6b7b8aAc9c20b1b2aAgO001aAc2b3b4b5aAc6aAbBbCbD
  bEbFc7b8b9c10aAbBbCc1b2b3b4b5b6b7b8b9aAd20aAc1b2b3b4aAc5aAc6b7b8b9aAd30aAc1b2b3aAc4b5b6aAbBbCbDc7b
  8b9c40b1b2b3b4b5b6b7b8b9c50aAbBc1dVERLAY_MIDDLEoP001aAc2b3aAc4b5b6b7b8b9c10b1eQ001b2b3b4b5b6b7eR00
  1b2aAc3aAbBc4b5b6b7b8b9c10aAc1b2b3b4b5b6aAc7b8b9c20b1b2b3b4b5b6b7b8b9eS001b2aAc3b4b5b6aAc7b8b9c10b
  1b2b3b4aAbBc5b6b7aAc8b9c20b1b2b3b4b5b6aAbBc7b8b9c30b1b2b3b4b5aAc6b7b8b9c40b1b2b3b4b5b6eT001b2b3aAc
  4b5b6b7aAc8aAc9aAd10b1aAc2b3b4b5b6aAc7b8b9c20b1b2b3b4b5b6b7b8b9c30b1b2aAc3aAc4b5b6eU001b2b3b4b5b6a
  AbBc7b8b9c10b1b2b3b4b5b6b7b8b9c20b1b2b3aAc4b5b6b7b8b9aAd30b1b2aAc3b4b5b6b7b8b9c40b1b2eV001aAbBbCbD
  bEbFbGbHbIc2aAc3b4b5b6b7aAbBc8b9c10b1aAbBbCc2aAbBc3b4b5b6b7b8b9c20aAbBbCbDbEbFbGbHbIbJbKbLc1b2b3aA
  c4b5b6b7b8aAc9aAd30aAc1aAc2b3aAc4b5b6b7aAc8b9c40aAeERTICAL_JOINERpW001b2b3aAc4b5b6b7b8b9aAd10aAc1b
  2b3b4aAc5b6b7aAc8aAc9c20b1b2b3b4aAc5eX001b2b3b4aAbBc5b6aAc7b8aAfY001aAc2b3b4b5b6b7b8eZ001b2aAbBbCb
  Dc3aAbBc4aAc5aAc6b7b8b9c10b1b2b3b4b5aAbBbCbDbEbFbGbHbIc6aAbBbCbDbEbFbGbHyIGHT_PETALLED_OUTLINED_BL
  ACK_FLORETTEzgOINTED_BLACK_STARkPINWHEEL_STARnRECTILINEAR_BLACK_STARzfSPOKED_ASTERISKpTEARDROP-SPO
  KED_PROPELLER_ASTERISKzkH_NOTEkJECT_SYMBOLlLBASAN_LETTER_AbBEcCEbHEdDEbHEdEaIcFEcGEbHAMMAeEcJEdHEc
  IbJEcKEbHEdLEbLEdMEcNAbDEcEbJEdObPEcQEcREbREdSEbHEdTEbHEdUbVEcXEcYbZEbHEqECTRIC_ARROWfLIGHT_BULBkP
  LUGeTORCHgAL_INTERSECTIONuMENT_OFa_OPENING_DOWNWARDSjUPWARDSpWITH_DOT_ABOVEjLONG_HORIZONTAL_STROKE
  wOVERBARhTWO_HORIZONTAL_STROKESwUNDERBARiVERTICAL_BAR_AT_END_OF_HORIZONTAL_STROKEzzdPHANTfVATORgFb
  YMAIC_LETTER_ALEPHeYINeBETHeDALETHgGIMELfHEaTHeKAPHeLAMEDHgMEMdNUNdPEcQOPHeRESHeSADHEdMEKHfHINeTAW
  cETHeWAWdYODHeZAYINlIGATURE_ZAYIN-YODHzbM_DASHeQUADeSPACEgOJI_COMPONENT_BALDeCURLY_HAIRkRED_HAIRiW
  HITE_HAIRuMODIFIER_FITZPATRICK_TYPE-1-2d3b4b5b6zgPHASIS_SYMBOLmTY_DOCUMENTiNESTdOTEa_PADbGEjPAGEaS
  fSETa_WITH_LEFT_ARROW_ABOVEqOVERBARhRIGHT_ARROW_ABOVErSMALL_CIRCLE_ABOVEzhN_DASHeQUADeSPACEgD_OF_G
  UARDED_AREAmLINEeMEDIUMgPROOFcTECTED_AREAoSELECTED_AREAnTEXTdRANSMISSIONa_BLOCKvWITH_LEFTWARDS_ARR
  OW_ABOVEzdQaUIRYfTER_SYMBOLkVELOPEa_WITH_DOWNWARDS_ARROW_ABOVEvLIGHTNINGwOLbMbTcPAcQUAL_AND_PARALL
  EL_TOpTO_BY_DEFINITIONnOR_GREATER-THANmLESS-THANjPRECEDESiSUCCEEDSpS_COLONfSIGNa_ABOVE_LEFTWARDS_A
  RROWpPLUS_SIGNjRIGHTWARDS_ARROWqTILDE_OPERATORtND_SLANTED_PARALLELa_WITH_TILDE_ABOVEzmWITH_BUMPY_A
  BOVElDOT_BELOWjINFINITY_BELOWoTWO_DOTS_ABOVE_AND_TWO_DOTS_BELOWzsWITH_ASTERISKrIANGULAR_TOkVALENT_
  TOcWITH_FOUR_DOTS_ABOVEzfRASE_TO_THE_LEFTeRIGHTqIS_FORM_ONEdTWOlROR-BARRED_BLACK_CIRCLEgDIAMONDhSQ
  UAREmWHITE_CIRCLEgDIAMONDhSQUAREySAbCaAPEeTIMATED_SYMBOLiSiTBbHIOPIC_COLONdMBINING_GEMINATION_AND_
  VOWEL_LENGTH_MARKvMARKpVOWEL_LENGTH_MARKyMAfDIGIT_EIGHTfFIVEdOUReNINEeONEdSEVENeIXdTHREEeWOjFULL_S
  TOPjNUMBER_EIGHTYgFIFTYeORTYfHUNDREDhNINETYgSEVENTYgIXTYfTENa_THOUSANDlHIRTYfWENTYnPARAGRAPH_SEPAR
  ATORsREFACE_COLONnQUESTION_MARKnSECTION_MARKkMICOLONiYLLABLE_BAaAcBAaAcEaEcIbObUcEaEcIbOaAcUbWAbEa
  EcIdCAaAcCAaAcEaEcHAaAcEaEcHAaAcEaEcIbObUcIbObUcIbObUcEaEcHAaAcEaEcIbOaAcUbWAdIbOaAcUbWAdDAaAcDAaA
  cEaEcHAAcEaEcIbObUcIbOaAcUbWAdEaEcIbOaAcUbWAcZAAcEaEcIbObUdFAaAcEaEcIbObUbWAbEaEcIcYAdGAaAcEaEcGAa
  AcEaEcIbObUbWAaAcEaEcIdIbLOTTAL_AaAcEaEcIbOaAcUbWAjOaAcUaRAGE_BWEEcIdFWEEcIdGWEaEcIdHHWAeKWEaEcIdM
  WEEcIdPWEEcIdQWEaEcIjWAaAcEaEcIcYAaAcEaEcIbObUdHAaAcEaEcHAaAcEaEcIbObUbWAbEaEcIcYAaAcEaEcIbObUdIbO
  aAcUcJAaAcEaEcIbOaAcUbWAdKAaAcEaEcIbOaAcUbWAaAcEaEcIcXAaAcEaEcIbObUbWAaAcEaEcIdYAaAcEaEcIbObUdLAaA
  cEaEcIbOaAcUbWAdMAaAcEaEcIbOaAcUbWAbEaEcIcYAdNAaAcEaEcIbOaAcUbWAcYAaAcEaEcIbOaAcUbWAePAaAcEaEcHAaA
  bRYNGEAL_AaAcEaEcIbObUkEaEcIbOaAcUbWAdIbOaAcUbWAbEaEcIdQAaAcEaEcHAaAcEaEcIbObUbWAaAcEaEcIdIbOaAcUb
  WAaAcEaEcIcYAaAcEaEcIbObUdRAaAcEaEcIbOaAcUbWAcYAdSAaAcEaBATBEIT_BWAdFWAdMWAdPWAlEcHAaAcEaEcIbOaAcU
  bWAdIbOaAcSAaAcEaEcIbObUcUbWAcZAaAcEaEcIbObUbWAeTAaAcEaEcHAaAcEaEcIbOaAcUbWAdIbOaAcSAaAcEaEcIbObUb
  WAdTHAAcEaEcIbObUdUbWAcZAaAcEaEcIbOaAcUdVAaAcEaEcIbObUbWAdWAaAcEaEcIbOaAcUcXAaAcEaEcIbOaAcUbWAaAcE
  aEcIcYAaAcEaEcIbObUdYAaAcEaEcIbOaAcUcZAaAcEaEcHAaAcEaEcIbObUbWAdIbOaAcUbWAcZAaAcEaEcIbObUmTONAL_MA
  RK_CHIRETgDERETa-HIDETkIFATfHIDETfKENATeURTeRIKRIKgSHORT_RIKRIKmYIZETqWORDSPACEqXcULER_CONSTANTmRO
  _SIGNf-CURRENCY_SIGNoPEAN_CASTLEgPOST_OFFICEtVERGREEN_TREEnXCESSdLAMATION_MARKeQUESTION_MARKxPRESS
  IONLESS_FACErTENDED_ARABIC-INDIC_DIGIT_EIGHTfFIVEdOUReNINEeONEdSEVENeIXdTHREEeWOdZEROzeRATERRESTRI
  AL_ALIENsEMELY_HEAVY_FIVE_SPOKED_ASTERISKuGREEK_CROSSlSALTIREgIX_SPOKED_ASTERISKtWHITE_CIRCLEgSQUA
  REzcYEaGLASSEShSeFACE_HOLDING_BACK_TEARSsMASSAGEhPALMeSAVOURING_DELICIOUS_FOODxCREAMING_IN_FEARrTH
  ROWING_A_KISSpWITH_COLD_SWEATiWBOY_HATkDIAGONAL_MOUTHoFINGER_COVERING_CLOSED_LIPSzcHEAD-BANDAGEmLO
  OK_OF_TRIUMPHpMEDICAL_MASKlONOCLEhNO_GOOD_GESTUREpOK_GESTUREjNE_EYEBROW_RAISEDrPEN_EYES_AND_HAND_O
  VER_MOUTHyMOUTHa_AND_COLD_SWEAToVOMITINGtPARTY_HORN_AND_PARTY_HATxEEKING_EYEkLEADING_EYESnROLLING_
  EYESmSTUCK-OUT_TONGUEa_AND_TIGHTLY-CLOSED_EYEStWINKING_EYEzhTEARS_OF_JOYlHERMOMETERlUNEVEN_EYES_AN
  D_WAVY_MOUTHzcOUT_MOUTHpSIMILE_SIGNlTORYfIRYdLAFELeLEN_LEAFhING_DIAGONAL_CROSSING_NORTH_EAST_ARROW
  qRISING_DIAGONALyIN_WHITE_CIRCLE_IN_BLACK_SQUAREzvMILYeRSI_SYMBOLkTHER_CHRISTMASoX_ICONeMACHINEkEA
  RFUL_FACEjTHERfMALE_SIGNiININE_ORDINAL_INDICATORyNCEReRRIS_WHEELiYeFbIELD_HOCKEY_STICK_AND_BALLzGU
  RE_DASHeSPACEkLE_CABINEThFOLDERgSEPARATORlM_FRAMESgPROJECTORmNITE_PART_INTEGRALsREa_ENGINEfXTINGUI
  SHERnCRACKERhWORK_SPARKLERjSgST_PLACE_MEDALlQUARTER_MOONa_SYMBOLgWITH_FACEwSTRONG_ISOLATEsSHa_CAKE
  _WITH_SWIRL_DESIGNxEYEdING_POLE_AND_FISHsTED_HAND_SIGNoVE_DOT_MARKePUNCTUATIONtLAG_IN_HOLEjMINGOfT
  _SHOEfBREADfNESSgEUR-DE-LISjXED_BICEPSlOPPY_DISKiRAL_HEARTjWERa_PLAYING_CARDSmUNCTUATION_MARKvUSHE
  D_FACEkYaING_DISCeENVELOPEiSAUCERmOGaGYdLDEReNDUEeOTaPRINTSiR_ALLeCESdK_AND_KNIFEa_WITH_PLATEvED_P
  ARAGRAPHOSoINGeM_FEEDgTUNE_COOKIEmUNTAINfR_BALLOON-SPOKED_ASTERISKxCLUB-SPOKED_ASTERISKtORNER_ARRO
  WS_CIRCLING_ANTICLOCKWISEzlDOT_MARKePUNCTUATIONpLEAF_CLOVERlPOINTED_BLACK_STARsTEARDROP-SPOKED_AST
  ERISKz-PER-EM_SPACEnTH_ROOTjX_FACEhRACTION_NUMERATOR_ONEnSLASHlME_WITH_AN_XePICTUREhTILESoEEZING_F
  ACEkNCH_FRANC_SIGNiIESkIED_SHRIMPkOG_FACEgNT-FACING_BABY_CHICKrTILTED_SHADOWED_WHITE_RIGHTWARDS_AR
  ROWzqWNaING_FACE_WITH_OPEN_MOUTHzdSaIcUEL_PUMPhLL_BLOCKfMOON_SYMBOLgWITH_FACEoOUTER_JOINkSTOPfWIDT
  H_AMPERSANDiPOSTROPHEjSTERISKiBROKEN_BARkCENT_SIGNiIRCUMFLEX_ACCENTqOLONdMMAbERCIAL_ATnDIGIT_EIGHT
  fFIVEdOUReNINEeONEdSEVENeIXdTHREEeWOdZEROjOLLAR_SIGNlEQUALS_SIGNkXCLAMATION_MARKqFULL_STOPjGRAVE_A
  CCENTkEATER-THAN_SIGNrHYPHEN-MINUSmLATIN_CAPITAL_LETTER_AbBbCbDbEbFbGbHbIbJbKbLbMbNbObPbQbRbSbTbUb
  VbWbXbYbZqSMALL_LETTER_AbBbCbDbEbFbGbHbIbJbKbLbMbNbObPbQbRbSbTbUbVbWbXbYbZtEFT_CURLY_BRACKETnPAREN
  THESISlSQUARE_BRACKEToWHITE_PARENTHESISuSS-THAN_SIGNnOW_LINEiMACRONgNOT_SIGNhUMBER_SIGNlPERCENT_SI
  GNlLUS_SIGNiOUND_SIGNkQUESTION_MARKlOTATION_MARKoREVERSE_SOLIDUSoIGHT_CURLY_BRACKETnPARENTHESISlSQ
  UARE_BRACKEToWHITE_PARENTHESISxSEMICOLONiOLIDUShTILDEfVERTICAL_LINEnWON_SIGNiYEN_SIGNqNCTION_APPLI
  CATIONrERAL_URNjSEdVS1b2b3b4eGAME_DIEgRLICfEARa_WITH_HANDLESiOUT_HUBoM_STONEgINIeNIEdOMETRIC_PROPO
  RTIONlALLY_EQUAL_TOfIVALENT_TOyRGIAN_CAPITAL_LETTER_AENcNcBANdCANcHARcINdILdDONdENcGANcHANeHAEbRcE
  bIEcOEdINcJHANdILdKANcHAReLASdMANdNARdONcPARcHAReQARdRAEdSANcHINeTANbRdUNcVINdWEcXANdYNcZENcHARtLE
  TTER_AENcINcNcBANdCANcHARcINdILdDONdELIFIeNcFIcGANcHANeHAEbRaD_SIGNiEbIEcOEdINcJHANdILdKANcHAReLAB
  IAL_SIGNjSdMANdNARdONcPARcHAReQARdRAEdSANcHINeTANbRcURNED_GANkUNcVINdWEcXANdYNcZENcHARlMTAVRULI_CA
  PITAL_LETTER_AENcINcNcBANdCANcHARcINdILdDONdELIFIeNcFIcGANcHANeHAEbRaD_SIGNiEbIEcOEdINcJHANdILdKAN
  cHAReLABIAL_SIGNjSdMANdNARdONcPARcHAReQARdRAEdSANcHINeTANbRcURNED_GANkUNcVINdWEcXANdYNcZENcHARzdPA
  RAGRAPH_SEPARATORtSMALL_LETTER_AENcNcBANdCANcHARcINdILdDONdENcGANcHANeHAEbRcEbIEcOEdINcJHANdILdKAN
  cHAReLASdMANdNARdONcPARcHAReQARdRAEdSANcHINeTANbRdUNcVINdWEcXANdYNcZENcHARyRMAN_PENNY_SIGNpTA_MARK
  iHOSTeIMEL_SYMBOLkRAFFE_FACEjLaS_SYMBOLlLAGOLITIC_CAPITAL_LETTER_AZUdBIG_YUSgUKYeCAUDATE_CHRIVInHR
  IVIgDJERVIfOBROeZELOfFITAdRITUfGLAGOLIhHERUeIaNITIAL_IZHElOTATED_BIG_YUShSMALL_YUSqZHEbITSAhKAKOeL
  ATINATE_MYSLITEpJUDIJEhMYSLITEhNASHIfONUcTUdPEbOKOJIgRITSIfSHAbTAaPICgLOVOeMALL_YUSa_WITH_TAILsPID
  ERY_HAkTROKUTASTI_AlSIcVRIDOgUKUdVEDEeYATIdERIbUcSTUeObUcZEMLJAfHIVETEwSMALL_LETTER_AZUdBIG_YUSgUK
  YeCAUDATE_CHRIVInHRIVIgDJERVIfOBROeZELOfFITAdRITUfGLAGOLIhHERUeIaNITIAL_IZHElOTATED_BIG_YUShSMALL_
  YUSqZHEbITSAhKAKOeLATINATE_MYSLITEpJUDIJEhMYSLITEhNASHIfONUcTUdPEbOKOJIgRITSIfSHAbTAaPICgLOVOeMALL
  _YUSa_WITH_TAILsPIDERY_HAkTROKUTASTI_AlSIcVRIDOgUKUdVEDEeYATIdERIbUcSTUeObUcZEMLJAfHIVETEzdSS_OF_M
  ILKlEICH_STARKkOBE_WITH_MERIDIANSrVESdWING_STARlOAL_NETfTcGGLESfLFEReRILLAfTHIC_LETTER_AHSAdIHVUSg
  BAIRKANhDAGSeEISdFAIHUfGIBAeHAGLdWAIRfIGGWSeUJAeJERdKUSMAfLAGUSfMANNAfNAUTHSfINE_HUNDREDiTYgOTHALf
  PAIRTHRAiQAIRTHRAiRAIDAfSAUILfTEIWSeHIUTHgURUSeWINJAsRADUATION_CAPlNTHA_AU_LENGTH_MARKoLETTER_AaAb
  IbUcBAbHAdCAbHAdDAbDAbHAdHAdEEcGAbHAdHAcIaIcJAbHAdKAbHAdLAbLAdMAcNAbGAcNAcYAdOOcPAbHAdRAcSAbHAcSAd
  TAbHAcTAbHAeUaUcVAbEDIC_ANUSVARAiDOUBLE_ANUSVARAuOCALIC_LaLcRaRkYAjOMcSIGN_ANUSVARAhVAGRAHAiCANDRA
  BINDUkOMBINING_ANUSVARA_ABOVEyNUKTAfPLUTAfVIRAMAeSARGAmVOWEL_SIGN_AAbIbUcEEcIaIcOOcUaUcVOCALIC_LaL
  cRaRzbPESdVE_ACCENTkEATER-THAN_ABOVE_DOUBLE-LINE_EQUAL_ABOVE_LESS-THANziLESS-THAN_ABOVE_DOUBLE-LIN
  E_EQUALziRIGHTWARDS_ARROWqSIMILAR_ABOVE_LESS-THANpOR_EQUALpLANTED_EQUAL_ABOVE_LESS-THAN_ABOVE_SLAN
  TED_EQUALzzeND_NOT_APPROXIMATEpSINGLE-LINE_NOT_EQUAL_TOzdBESIDE_LESS-THANpUT_NOT_EQUAL_TOfIVALENT_
  TOvCLOSED_BY_CURVEa_ABOVE_SLANTED_EQUALzkEQUAL_TO_OR_LESS-THANvOR_APPROXIMATElEQUAL_TOfIVALENT_TOn
  LESS-THANjSLANTED_EQUAL_TOa_WITH_DOT_ABOVEa_LEFTkINSIDEzjVER_EQUAL_TOjLAPPING_LESS-THANvSIGNeWITH_
  CIRCLE_INSIDEnDOTdQUESTION_MARK_ABOVEzjEK_ACROPHONIC_ATTIC_FIFTYa_STATERShTALENTSgHOUSANDa_STATERS
  uVEa_HUNDREDa_STATERShTALENTSpSTATERShTALENTSgHOUSANDa_TALENTSvONE_DRACHMAhHALFdUNDRED_STATERShTAL
  ENTSpQUARTERhTHOUSAND_STATERShTALENTSuTEN_MNASeSTATERShTALENTSgHOUSAND_STATERSzbCARYSTIAN_FIVE_HUN
  DREDvYRENAIC_TWO_DRACHMASvDELPHIC_FIVE_MNASrEPIDAUREAN_FIVE_HUNDREDmTWOa_DRACHMASxHERAEUM_ONE_PLET
  HRONrMIONIAN_FIFTYfONEdTENoMESSENIAN_TENnNAXIAN_FIVE_HUNDREDtSTRATIAN_FIFTY_MNAStTHESPIAN_FIFTYdVE
  _HUNDREDhTHOUSANDnONEa_HUNDREDhTHOUSANDmTENcHIRTYeREE_HUNDREDmWOlROEZENIAN_FIFTYa_ALTERNATE_FORMsV
  Ea_HUNDREDmTENa_ALTERNATE_FORMzoNO_TELEIAjROURA_SIGNjTABE_SIGNlBETA_SYMBOLlCAPITAL_DOTTED_LUNATE_S
  IGMA_SYMBOLzbKAI_SYMBOLkLETTER_ALPHAa_WITH_DASIAa_AND_OXIAa_AND_PROSGEGRAMMENIxPERISPOMENIa_AND_PR
  OSGEGRAMMENIzeROSGEGRAMMENIoVARIAa_AND_PROSGEGRAMMENIzjMACRONgOXIAePROSGEGRAMMENInSILIa_AND_OXIAa_
  AND_PROSGEGRAMMENIxPERISPOMENIa_AND_PROSGEGRAMMENIzeROSGEGRAMMENIoVARIAa_AND_PROSGEGRAMMENIzjTONOS
  fVARIAeRACHYqRCHAIC_SAMPInBETAeCHIdDELTAfEPSILONa_WITH_DASIAa_AND_OXIAeVARIApOXIAePSILIa_AND_OXIAe
  VARIApTONOSfVARIArTAa_WITH_DASIAa_AND_OXIAa_AND_PROSGEGRAMMENIxPERISPOMENIa_AND_PROSGEGRAMMENIzeRO
  SGEGRAMMENIoVARIAa_AND_PROSGEGRAMMENIzjOXIAePROSGEGRAMMENInSILIa_AND_OXIAa_AND_PROSGEGRAMMENIxPERI
  SPOMENIa_AND_PROSGEGRAMMENIzeROSGEGRAMMENIoVARIAa_AND_PROSGEGRAMMENIzjTONOSfVARIAoGAMMAfHETAeIOTAa
  _WITH_DASIAa_AND_OXIAePERISPOMENIlVARIAoIALYTIKAjMACRONgOXIAePSILIa_AND_OXIAePERISPOMENIlVARIApTON
  OSfVARIAeRACHYqKAPPAfLAMDAfMUcNUcOMEGAa_WITH_DASIAa_AND_OXIAa_AND_PROSGEGRAMMENIxPERISPOMENIa_AND_
  PROSGEGRAMMENIzeROSGEGRAMMENIoVARIAa_AND_PROSGEGRAMMENIzjOXIAePROSGEGRAMMENInSILIa_AND_OXIAa_AND_P
  ROSGEGRAMMENIxPERISPOMENIa_AND_PROSGEGRAMMENIzeROSGEGRAMMENIoVARIAa_AND_PROSGEGRAMMENIzjTONOSfVARI
  AoICRONa_WITH_DASIAa_AND_OXIAeVARIApOXIAePSILIa_AND_OXIAeVARIApTONOSfVARIAsPAMPHYLIAN_DIGAMMArHIcI
  bSIdRHOa_WITH_DASIAoSANcHOcIGMAfTAUcHETAfUPSILONa_WITH_DASIAa_AND_OXIAePERISPOMENIlVARIAoIALYTIKAj
  MACRONgOXIAeTONOSfVARIAeRACHYtXIcYOTdZETAkUNATE_SIGMA_SYMBOLtREVERSED_DOTTED_LUNATE_SIGMA_SYMBOLzb
  LUNATE_SIGMA_SYMBOLzdTHETA_SYMBOLuDASIAa_AND_OXIAePERISPOMENIlVARIAoIALYTIKA_AND_OXIAePERISPOMENIl
  VARIAjTONOSoRACHMA_SIGNmFIVE_OBOLS_SIGNoOUR_OBOLS_SIGNpGRAMMA_SIGNlINDICTION_SIGNmSTRUMENTAL_NOTAT
  ION_SYMBOL-1a1b2b3b4b7b8b9c2a3b4b5b6b7b9c30b2b6b7b8b9c4a0b2b3b5b7b8b9c5a0b1b2b3b4c7b8zfKAI_SYMBOLi
  PPA_SYMBOLlORONISgYATHOS_BASE_SIGNrLETTER_ARCHAIC_KOPPAnDIGAMMAhKOPPAfSAMPIeMALL_CAPITAL_GAMMAfLAM
  DAfOMEGAfPIbSIdRHOqTIGMAgYOTjITRA_SIGNjOWER_NUMERAL_SIGNrUNATE_EPSILON_SYMBOLoSIGMA_SYMBOLtMETRETE
  S_SIGNmUSICAL_LEIMMAoNUMERAL_SIGNmOBOL_SIGNiNE_HALF_SIGNa_ALTERNATE_FORMyQUARTER_SIGNpUNKIA_SIGNkX
  IAePERISPOMENIkHI_SYMBOLjI_SYMBOLiROSGEGRAMMENInSILIa_AND_OXIAePERISPOMENIlVARIApQUESTION_MARKnREV
  ERSED_LUNATE_EPSILON_SYMBOLzeHO_SYMBOLgWITH_STROKE_SYMBOLwSINUSOID_SIGNmMALL_DOTTED_LUNATE_SIGMA_S
  YMBOLzbLETTER_ALPHAa_WITH_DASIAa_AND_OXIAa_AND_YPOGEGRAMMENIwPERISPOMENIa_AND_YPOGEGRAMMENIzeVARIA
  a_AND_YPOGEGRAMMENIxYPOGEGRAMMENIxMACRONgOXIAa_AND_YPOGEGRAMMENIwPERISPOMENIa_AND_YPOGEGRAMMENIzdS
  ILIa_AND_OXIAa_AND_YPOGEGRAMMENIwPERISPOMENIa_AND_YPOGEGRAMMENIzeVARIAa_AND_YPOGEGRAMMENIxYPOGEGRA
  MMENIxTONOSfVARIAa_AND_YPOGEGRAMMENIwRACHYgYPOGEGRAMMENIxRCHAIC_KOPPAfSAMPInBETAeCHIdDELTAeIGAMMAh
  EPSILONa_WITH_DASIAa_AND_OXIAeVARIApOXIAePSILIa_AND_OXIAeVARIApTONOSfVARIArTAa_WITH_DASIAa_AND_OXI
  Aa_AND_YPOGEGRAMMENIwPERISPOMENIa_AND_YPOGEGRAMMENIzeVARIAa_AND_YPOGEGRAMMENIxYPOGEGRAMMENIxOXIAa_
  AND_YPOGEGRAMMENIwPERISPOMENIa_AND_YPOGEGRAMMENIzdSILIa_AND_OXIAa_AND_YPOGEGRAMMENIwPERISPOMENIa_A
  ND_YPOGEGRAMMENIzeVARIAa_AND_YPOGEGRAMMENIxYPOGEGRAMMENIxTONOSfVARIAa_AND_YPOGEGRAMMENIxYPOGEGRAMM
  ENIwFINAL_SIGMAlGAMMAfHETAeIOTAa_WITH_DASIAa_AND_OXIAePERISPOMENIlVARIAoIALYTIKAa_AND_OXIAePERISPO
  MENIlTONOSfVARIAtMACRONgOXIAePERISPOMENIkSILIa_AND_OXIAePERISPOMENIlVARIApTONOSfVARIAeRACHYqKAPPAe
  OPPAfLAMDAfMUcNUcOMEGAa_WITH_DASIAa_AND_OXIAa_AND_YPOGEGRAMMENIwPERISPOMENIa_AND_YPOGEGRAMMENIzeVA
  RIAa_AND_YPOGEGRAMMENIxYPOGEGRAMMENIxOXIAa_AND_YPOGEGRAMMENIwPERISPOMENIa_AND_YPOGEGRAMMENIzdSILIa
  _AND_OXIAa_AND_YPOGEGRAMMENIwPERISPOMENIa_AND_YPOGEGRAMMENIzeVARIAa_AND_YPOGEGRAMMENIxYPOGEGRAMMEN
  IxTONOSfVARIAa_AND_YPOGEGRAMMENIxYPOGEGRAMMENIwICRONa_WITH_DASIAa_AND_OXIAeVARIApOXIAePSILIa_AND_O
  XIAeVARIApTONOSfVARIAsPAMPHYLIAN_DIGAMMArHIcIbSIdRHOa_WITH_DASIAfPSILIoSAMPIdNcHOcIGMAeTIGMAgTAUcH
  ETAfUPSILONa_WITH_DASIAa_AND_OXIAePERISPOMENIlVARIAoIALYTIKAa_AND_OXIAePERISPOMENIlTONOSfVARIAtMAC
  RONgOXIAePERISPOMENIkSILIa_AND_OXIAePERISPOMENIlVARIApTONOSfVARIAeRACHYtXIcZETAlREVERSED_DOTTED_LU
  NATE_SIGMA_SYMBOLzbLUNATE_SIGMA_SYMBOLziUBSCRIPT_SMALL_LETTER_BETAeCHIdGAMMAfPHIdRHOzYMBOL_TAU_RHO
  oTALENT_SIGNkHETA_SYMBOLkREE_OBOLS_SIGNkQUARTERS_SIGNsONOSeRYBLION_BASE_SIGNrWO_OBOLS_SIGNkTHIRDS_
  SIGNpUPSILON_WITH_ACUTE_AND_HOOK_SYMBOLvDIAERESIS_AND_HOOK_SYMBOLzHOOK_SYMBOLyVARIAeOCAL_NOTATION_
  SYMBOL-1a0b1b2b3b4b5b6b7b8b9c2a0b1b2b3b4c3b4b5a0b1b2b3b4c6b7b8b9xXESTES_SIGNlYEAR_SIGNiPOGEGRAMMEN
  InZERO_SIGNlN_APPLEfBOOKeHEARTfSALADjIMACING_FACElNNING_CAT_FACE_WITH_SMILING_EYESzbFACEa_WITH_ONE
  _LARGE_AND_ONE_SMALL_EYEzcSMILING_EYESlTAR_EYESzbOUP_MARKeSEPARATORmWING_HEARTmSbUARANI_SIGNiDSMAN
  hIDE_DOGgTAReJARATI_ABBREVIATION_SIGNrDIGIT_EIGHTfFIVEdOUReNINEeONEdSEVENeIXdTHREEeWOdZEROkLETTER_
  AaAbIbUcBAbHAdCAbHAdDAbDAbHAdHAdEbGAbHAdHAcIaIcJAbHAdKAbHAdLAbLAdMAcNAbGAcNAcYAdObPAbHAdRAcSAbHAcS
  AdTAbHAcTAbHAeUaUcVAbOCALIC_LaLcRaRkYAcZHAkOMcRUPEE_SIGNkSIGN_ANUSVARAhVAGRAHAiCANDRABINDUkIRCLE_N
  UKTA_ABOVEsMADDAHgNUKTAfSHADDAfUKUNfTHREE-DOT_NUKTA_ABOVEuWO-CIRCLE_NUKTA_ABOVEwVIRAMAeSARGAmVOWEL
  _CANDRA_EbOiSIGN_AAbIbUcCANDRA_EbOiEbIaIcObUaUcVOCALIC_LaLcRaRzdNJALA_GONDI_DIGIT_EIGHTfFIVEdOUReN
  INEeONEdSEVENeIXdTHREEeWOdZEROkLETTER_AaAbIbUcBAbHAdCAbHAdDAbDAbHAdHAdEEcGAbHAdHAcIaIcJAbHAdKAbHAd
  LAbLAdMAcNAbGAdOOcPAbHAdRAcSAcTAbHAcTAbHAeUaUcVAcYAjOMcSIGN_ANUSVARAiVISARGAmVIRAMAfOWEL_SIGN_AAbI
  bUcEEcIaIcOOcUaUzRMUKHI_ABBREVIATION_SIGNqDDAKfDIGIT_EIGHTfFIVEdOUReNINEeONEdSEVENeIXdTHREEeWOdZER
  OkEK_ONKARiIRIdLETTER_AaAbIbUcBAbHAdCAbHAdDAbDAbHAdHAdEEcFAcGAbHAbHAeHAcIaIcJAbHAdKAbHAbHAeLAbLAdM
  AcNAbGAcNAcYAdOOcPAbHAdRAbRAdSAbHAdTAbHAcTAbHAeUaUcVAcYAcZAjSIGN_ADAK_BINDIkBINDIfNUKTAfUDAATfVIRA
  MAeSARGAhYAKASHlTIPPIfURAdVOWEL_SIGN_AAbIbUcEEcIaIcOOcUaUwHADESdIR_SPACEgCUTfLFWIDTH_BLACK_SQUAREm
  DOWNWARDS_ARROWpFORMS_LIGHT_VERTICALuHANGUL_FILLERgLETTER_AaEcCHIEUCHgIEUCfEaObUcHIEUHfIaEUNGfKHIE
  UKHgIYEOKa-SIOSlMIEUMfNIEUNa-CIEUCfHIEUHlOaEcPHIEUPHgIEUPa-SIOSkRIEULa-HIEUHfKIYEOKgMIEUMfPHIEUPHg
  IEUPfSIOSeTHIEUTHnSIOSdSANGCIEUCfKIYEOKgPIEUPfSIOSeTIKEUTlTHIEUTHgIKEUTgUbWAaEcEaOcIcYAaEcEaOcIbOb
  UqIDEOGRAPHIC_COMMAfFULL_STOPvKATAKANA_LETTER_AbEbHAbEbIbObUcIbKAbEbIbObUcMAbEbIbObUcNaAbEbIbObUcO
  bRAbEbIbObUcSAbEbIbMALL_AbEbIbObTUcUbYAbObUhObUcTAbEbIbObUcUbWAbOcYAbObUjMIDDLE_DOTkSEMI-VOICED_SO
  UND_MARKwVOICED_SOUND_MARKs-HIRAGANA_PROLONGED_SOUND_MARKznLEFT_CORNER_BRACKETpWARDS_ARROWpRIGHT_C
  ORNER_BRACKETpWARDS_ARROWqUPWARDS_ARROWnWHITE_CIRCLEuMBURGERgMERa_AND_PICKeSICKLEgWRENCHoSAbTER_FA
  CEkND_WITH_INDEX_AND_MIDDLE_FINGERS_CROSSEDzbFINGER_AND_THUMB_CROSSEDzlBAGbLLeSHAKEgGUL_CHOSEONG_C
  EONGCHIEUMCHIEUCHgIEUCfSIOSdSANGCIEUCfSIOStHIEUCHa-HIEUHfKHIEUKHmTUEUMCHIEUCHgIEUCfSIOSdSANGCIEUCf
  SIOSqIEUCa-IEUNGlFILLERgHIEUHa-SIOSkIEUNGa-CHIEUCHgIEUCfHIEUHfKIYEOKgMIEUMfPANSIOSgHIEUPHgIEUPfRIE
  ULfSIOSeTHIEUTHgIKEUTmKAPYEOUNMIEUMfPHIEUPHgIEUPfRIEULfSSANGPIEUPrHIEUKHgIYEOKa-TIKEUTnMIEUMa-KIYE
  OKgPIEUPfSIOSeTIKEUTmNIEUNa-CIEUCfHIEUHfKIYEOKgPIEUPfSIOSeTIKEUTmPANSIOSgHIEUPHa-HIEUHfPIEUPmIEUPa
  -CHIEUCHgIEUCfHIEUHfKHIEUKHgIYEOKgNIEUNfPHIEUPHhSIOSa-CIEUCfKIYEOKgPIEUPfTHIEUTHgIKEUTkSANGSIOSjTH
  IEUTHgIKEUTmRIEULa-CIEUCfHIEUHfKAPYEOUNPIEUPmHIEUKHgIYEOKgMIEUMfNIEUNfPIEUPfSIOSdSANGKIYEOKgPIEUPf
  TIKEUTlTIKEUTmSIOSa-CHIEUCHgIEUCfHIEUHfIEUNGfKHIEUKHgIYEOKgMIEUMfNIEUNfPHIEUPHgIEUPa-KIYEOKmRIEULf
  SSANGSIOSjTHIEUTHgIKEUTkSANGCIEUCa-HIEUHlHIEUHfIEUNGfKIYEOKgNIEUNfPIEUPfRIEULfSIOSa-PIEUPkTHIEUTHg
  IKEUTgYEORINHIEUHqTHIEUTHgIKEUTa-CIEUCfKIYEOKgMIEUMfPIEUPfRIEULfSIOSlYEORINHIEUHjSIEUNGrDOUBLE_DOT
  _TONE_MARKuFILLERgJONGSEONG_CHIEUCHgIEUCa-PIEUPfSSANGPIEUPqHIEUHa-MIEUMfNIEUNfPIEUPfRIEULlIEUNGa-K
  HIEUKHgIYEOKgSSANGKIYEOKrKAPYEOUNMIEUMfPHIEUPHgIEUPfRIEULmHIEUKHgIYEOKa-CHIEUCHhHIEUHfKHIEUKHhNIEU
  NfPIEUPfRIEULfSIOSa-KIYEOKsMIEUMa-CHIEUCHgIEUCfHIEUHfKIYEOKgNIEUNfPANSIOSgIEUPa-SIOSkRIEULfSIOSdSA
  NGNIEUNfSIOSpNIEUNa-CHIEUCHgIEUCfHIEUHfKIYEOKgPANSIOShRIEULfSIOSeTHIEUTHgIKEUTmPANSIOSa-KAPYEOUNPI
  EUPnPIEUPmHIEUPHa-PIEUPfSIOSeTHIEUTHoIEUPa-CHIEUCHgIEUCfHIEUHfMIEUMfPHIEUPHhRIEULa-PHIEUPHnSIOSa-T
  IKEUTlTIKEUTmRIEULa-HIEUHfKAPYEOUNPIEUPmHIEUKHgIYEOKa-HIEUHfSIOSlMIEUMa-HIEUHfKIYEOKgSIOSkNIEUNfPA
  NSIOSgHIEUPHgIEUPa-HIEUHfPHIEUPHhSIOSeTIKEUTmSIOSdSANGKIYEOKgSIOSjTHIEUTHgIKEUTa-HIEUHmYEORINHIEUH
  a-HIEUHpSIEUNGoSIOSa-CHIEUCHgIEUCfHIEUHfKAPYEOUNPIEUPmIYEOKgMIEUMfPANSIOSgIEUPfRIEULfTHIEUTHgIKEUT
  kSANGCIEUCfIEUNGfKIYEOKgMIEUMfNIEUNfPIEUPfRIEULa-KHIEUKHnSIOSa-KIYEOKgTIKEUTlTIKEUTa-PIEUPmYESIEUN
  GnTHIEUTHgIKEUTa-CHIEUCHgIEUCfKIYEOKgPIEUPfRIEULfSIOSa-KIYEOKlTHIEUTHoYEORINHIEUHjSIEUNGa-HIEUHfKH
  IEUKHgIYEOKgMIEUMfPANSIOShSIOSdSANGKIYEOKzeUNGSEONG_Aa-EUcObUcEbRAEAa-AbEaOcIbUhEaOa-EUcObUdUa-AbE
  aObUcObUeFILLERgIa-AaRAEAfEUcIbOa-IdUbYAa-OcEcEaOcObUeOa-EaOcOa-IdUbYAaEcEaOeEcSSANGARAEAkUa-AaEcE
  O-EUfI-IdUbYEaOfWAaEcEaOcIcYAa-ObUbYOdEcEaOa-ObUbYAfIa-UdOa-AaEcEOcIbObYAaEcEOfUa-AaEcEaOcIbObUbYE
  aOqLETTER_AaEbRAEAaEgCHIEUCHgIEUCfEaObUcHIEUHfIaEUNGfKAPYEOUNMIEUMfPHIEUPHgIEUPfSSANGPIEUPrHIEUKHg
  IYEOKa-SIOSlMIEUMa-PANSIOSgIEUPfSIOSkNIEUNa-CIEUCfHIEUHfPANSIOShSIOSeTIKEUTmOaEcPANSIOSgHIEUPHgIEU
  Pa-CIEUCfKIYEOKgSIOSa-KIYEOKgTIKEUTlTHIEUTHgIKEUTmRIEULa-HIEUHfKIYEOKa-SIOSlMIEUMfPANSIOSgHIEUPHgI
  EUPa-SIOSkSIOSeTHIEUTHgIKEUTgYEORINHIEUHrSIOSa-CIEUCfKIYEOKgNIEUNfPIEUPfTIKEUTkSANGCIEUCfHIEUHfIEU
  NGfKIYEOKgNIEUNfPIEUPfSIOSeTIKEUTlTHIEUTHgIKEUTgUbWAaEcEaOcIcYAaEcEaOaRINHIEUHjSIEUNGa-PANSIOShSIO
  SmIbOa-IbYAaEfUa-IbYEaOnSINGLE_DOT_TONE_MARKxZHOU_NUMERAL_EIGHTfFIVEdOUReNINEeONEdSEVENeIXdTENcHIR
  TYeREEeWENTYeOrIFI_ROHINGYA_DIGIT_EIGHTfFIVEdOUReNINEeONEdSEVENeIXdTHREEeWOdZEROkLETTER_AbBAcCAcDA
  bDAdFAcGAcHAcJAcKAbHAcINNA_WAcYAiLAcMAcNAbGAcYAdPAcRAbRAdSAbHAdTAbTAdVAcWAcYAcZAjMARK_NA_KHONNAjSA
  KINkSIGN_HARBAHAYiTAHALAeNAcSSIkVOWEL_AbEbIbObUuUNOO_LETTER_AbBAcDAcGAcHAcIbKAcLAcMAcNAbGAdPAcRAcS
  AcTAcUbWAcYAjSIGN_PAMUDPODnVOWEL_SIGN_IbUsPPY_PERSON_RAISING_ONE_HANDzcRD_DISKhTCHING_CHICKlRAN_LE
  TTER_ALEPHeYNdBETHeDALETH-RESHlGIMELfHEaTHeKAPHeLAMEDHgMEMdNUNdPEcQOPHeSADHEdMEKHfHINeTAWcETHeWAWd
  YODHeZAYNlNUMBER_FIVEeONEa_HUNDREDlTENcWENTYtEADPHONEfSTONEa_GRAVEYARD_SYMBOLxR-NO-EVIL_MONKEYpT_D
  ECORATIONkHANDSfWITH_ARROWfRIBBONgTIP_ON_THE_LEFTxVY_AMPERSAND_ORNAMENTrRROW_SHAFT_WIDTH_ONEa_HALF
  eTHIRDjTWO_THIRDSzcSTERISKiBALLOT_XhLACK_CURVED_DOWNWARDS_AND_RIGHTWARDS_ARROWzfUPWARDS_AND_RIGHTW
  ARDS_ARROWzkHEARTg-FEATHERED_NORTH_EAST_ARROWqRIGHTWARDS_ARROWqSOUTH_EAST_ARROWzhCHECK_MARKhVRON_S
  NOWFLAKEqIRCLEa_WITH_CIRCLE_INSIDEnSTROKE_AND_TWO_DOTS_ABOVEzgD_SALTIREoONCAVE-POINTED_BLACK_RIGHT
  WARDS_ARROWznDASHED_TRIANGLE-HEADED_RIGHTWARDS_ARROWznIVISION_SIGNmOLLAR_SIGNjUBLE_COMMA_QUOTATION
  _MARK_ORNAMENTzeTURNED_COMMA_QUOTATION_MARK_ORNAMENTzqWNWARDS_ARROW_WITH_EQUILATERAL_ARROWHEADvLAR
  GE_EQUILATERAL_ARROWHEADzxEIGHT_POINTED_BLACK_STARkPINWHEEL_STARnRECTILINEAR_BLACK_STARzfSPOKED_AS
  TERISKpTEARDROP-SPOKED_PROPELLER_ASTERISKzoQUALS_SIGNkXCLAMATION_MARK_ORNAMENTiSYMBOLxFIVE_POINTED
  _BLACK_STARsSPOKED_ASTERISKtOUR_BALLOON-SPOKED_ASTERISKzdGREEK_CROSSlHEART_EXCLAMATION_MARK_ORNAME
  NTzfORIZONTAL_FILLpINTERROBANG_ORNAMENTuLARGE_CIRCLEkTIN_CROSSkEFT-POINTING_ANGLE_BRACKET_ORNAMENT
  qQUOTATION_MARK_ORNAMENTzoWARDS_ARROW_WITH_EQUILATERAL_ARROWHEADvLARGE_EQUILATERAL_ARROWHEADzwIGAT
  URE_OPEN_ET_ORNAMENTyOW_DOUBLE_COMMA_QUOTATION_MARK_ORNAMENTzlSINGLE_COMMA_QUOTATION_MARK_ORNAMENT
  zmER_RIGHT-SHADOWED_WHITE_RIGHTWARDS_ARROWzsMINUS_SIGNjULTIPLICATION_XqNORTH_EAST_ARROWfPOINTING_B
  UDdVINE_LEAFxWEST_POINTING_BUDdVINE_LEAFzeOPEN_CENTRE_CROSSqUTLINED_BLACK_STARsVAL_WITH_OVAL_INSID
  EvPLUS_SIGNjRIGHT-POINTING_ANGLE_BRACKET_ORNAMENTqQUOTATION_MARK_ORNAMENTzoWARDS_ARROWa_WITH_EQUIL
  ATERAL_ARROWHEADvLARGE_EQUILATERAL_ARROWHEADzxOUND-TIPPED_RIGHTWARDS_ARROWzeSALTIREfNS-SERIF_INTER
  ROBANG_ORNAMENTzfCRIPT_LIGATURE_ET_ORNAMENTzbINGLE_COMMA_QUOTATION_MARK_ORNAMENTzeTURNED_COMMA_QUO
  TATION_MARK_ORNAMENTzqX_POINTED_BLACK_STARsSPOKED_ASTERISKsOUTH_EAST_ARROWfPOINTING_BUDdVINE_LEAFx
  WEST_POINTING_BUDdVINE_LEAFzdPARKLEhTEARDROP-SHANKED_RIGHTWARDS_ARROWxPOKED_ASTERISKiPINWHEEL_ASTE
  RISKzhRIANGLE-HEADED_RIGHTWARDS_ARROWzgWELVE_POINTED_BLACK_STARkPINWHEEL_STARzdUPPER_RIGHT-SHADOWE
  D_WHITE_RIGHTWARDS_ARROWzqWARDS_ARROW_WITH_EQUILATERAL_ARROWHEADvLARGE_EQUILATERAL_ARROWHEADzvVERT
  ICAL_BARmWEDGE-TAILED_RIGHTWARDS_ARROWzdHITE_CIRCLEgDOWN-POINTING_TRIANGLEwSQUARElIDE-HEADED_RIGHT
  WARDS_ARROWzhBREW_ACCENT_ATNAH_HAFUKHmDARGAeEHIeETNAHTAhGERESHa_MUQDAMkSHAYIMjILUYeMAHAPAKHhERKHAa
  _KEFULAmUNAHfOLEdPASHTAeZERfQADMAdRNEY_PARAlREVIAfSEGOLeHALSHELETkTELISHA_GEDOLAgQETANAmVIReIPEHAg
  YERAH_BEN_YOMOmTIVfZAQEF_GADOLfQATANjRQAeINORmLETTER_ALEFa_WITH_MAPIQfPATAHfQAMATSoTERNATIVE_AYINe
  PLUS_SIGNuYINeBETa_WITH_DAGESHgRAFEnDALETa_WITH_DAGESHrFINAL_KAFa_WITH_DAGESHpMEMdNUNdPEa_WITH_DAG
  ESHoTSADIlGIMELa_WITH_DAGESHrHEa_WITH_MAPIQlTdKAFa_WITH_DAGESHgRAFEnLAMEDa_WITH_DAGESHrMEMa_WITH_D
  AGESHpNUNa_WITH_DAGESHpPEa_WITH_DAGESHgRAFEmQOFa_WITH_DAGESHpRESHa_WITH_DAGESHqSAMEKHa_WITH_DAGESH
  rHINa_WITH_DAGESHa_AND_SHIN_DOThIN_DOTsSHIN_DOThIN_DOTrTAVa_WITH_DAGESHoETa_WITH_DAGESHoSADIa_WITH
  _DAGESHrVAVa_WITH_DAGESHgHOLAMoWIDE_ALEFeDALETfFINAL_MEMjHEcKAFdLAMEDfRESHeTAViYODa_WITH_DAGESHgHI
  RIQoZAYINa_WITH_DAGESHxIGATURE_ALEF_LAMEDkYIDDISH_DOUBLE_VAVdYODkVAV_YODhYOD_YOD_PATAHzfMARK_LOWER
  _DOTjMASORA_CIRCLEnUPPER_DOToPOINT_DAGESH_OR_MAPIQpHATAF_PATAHfQAMATSgSEGOLkIRIQeOLAMa_HASER_FOR_V
  AVtJUDEO-SPANISH_VARIKAuMETEGfPATAHfQAMATSa_QATANlUBUTSgRAFEeSEGOLeHEVAdIN_DOThIN_DOThTSEREkUNCTUA
  TION_GERESHdSHAYIMjMAQAFfNUN_HAFUKHAlPASEQfSOF_PASUQvYOD_TRIANGLErDGEHOGgLICOPTERhLSCHREIBER_PAUSE
  _SYMBOLxM_SYMBOLhET_WITH_WHITE_CROSSvNTAIGANA_LETTER_A-1b2b3bWOeE-1b2b3b4b5b6dHA-1a0b1c2b3b4b5b6b7
  b8b9dE-1b2b3b4b5b6b7dI-1b2b3b4b5b6b7dO-1b2b3b4b5b6b7b8dU-1b2b3eI-1b2b3b4dKA-1a0b1c2b3b4b5b6b7b8b9b
  KEeE-1b2b3b4b5b6dI-1b2b3b4b5b6b7b8dO-1b2b3bKIeU-1b2b3b4b5b6b7eMA-1b2b3b4b5b6b7dE-1b2bMAeI-1b2b3b4b
  5b6b7dO-1b2b3b4b5b6dU-1b2b3b4eN-MU-MO-1b2iA-1b2b3b4b5b6b7b8b9dE-1b2b3b4b5b6bKOeI-1b2b3b4b5b6b7bTEe
  O-1b2b3b4b5dU-1b2b3eO-1b2b3dRA-1b2b3b4dE-1b2b3b4dI-1b2b3b4b5b6b7dO-1b2b3b4b5b6dU-1b2b3b4b5b6eSA-1b
  2b3b4b5b6b7b8dE-1b2b3b4b5dI-1b2b3b4b5b6dO-1b2b3b4b5b6b7dU-1b2b3b4b5b6b7b8eTA-1b2b3b4dE-1b2b3b4b5b6
  b7b8b9dI-1b2b3b4b5b6b7dO-1b2b3b4b5b6bRAeU-1b2b3b4bTOfU-1b2b3b4b5dWA-1b2b3b4b5dE-1b2b3b4dI-1b2b3b4b
  5dO-1b2b3b4b5b6b7eYA-1b2b3b4b5bYOeO-1b2b3b4b5b6dU-1b2b3b4uRBbMITIAN_CONJUGATE_MATRIXyXAGRAM_FOR_AB
  UNDANCEiFTER_COMPLETIONpPPROACHiBEFORE_COMPLETIONqITING_THROUGHnREAKTHROUGHmCOMING_TO_MEETmNFLICTf
  TEMPLATIONnDARKENING_OF_THE_LIGHTvECREASEgLIVERANCEjVELOPMENTkIFFICULTY_AT_THE_BEGINNINGzSPERSIONj
  URATIONiENTHUSIASMkFELLOWSHIPjOLLOWINGjGATHERING_TOGETHERrRACEdEAT_POSSESSIONiWEReREPONDERANCEnTAM
  INGmHOLDING_TOGETHERqINCREASEgFLUENCEhNER_TRUTHiOCENCEjLIMITATIONkMODESTYfUTH_CORNERSnOBSTRUCTIONk
  PPOSITIONhRESSIONkPEACEeROGRESShUSHING_UPWARDoRETREATeURNeVOLUTIONkSMALL_PREPONDERANCEnTAMINGlPLIT
  TING_APARToTANDSTILLkTHE_ABYSMAL_WATERmRMYcOUSING_THUNDERqCAULDRONhLINGING_FIREmREATIVE_HEAVENpFAM
  ILYgGENTLE_WINDlJOYOUS_LAKElKEEPING_STILL_MOUNTAINwMARRYING_MAIDENpRECEPTIVE_EARTHpWANDERERhELLhRE
  ADINGiWAITINGgORK_ON_THE_DECAYEDtYOUTHFUL_FOLLYzbIBISCUSgGH_BRIGHTNESS_SYMBOLrOCTET_PRESETmVOLTAGE
  _SIGNn-HEELED_SHOElSPEED_TRAINa_WITH_BULLET_NOSEzgKING_BOOTjNDU_TEMPLEkPPOPOTAMUSkRAGANA_DIGRAPH_Y
  ORImITERATION_MARKoLETTER_AaRCHAIC_WUcYEkBAbEbIbObUcDAbEbIbObUcEbGAbEbIbObUcHAbEbIbObUcIbKAbEbIbOb
  UcMAbEbIbObUcNaAbEbIbObUcObPAbEbIbObUcRAbEbIbObUcSAbEbIbMALL_AbEbIbKAbEcObTUcUbWAbEbIbOcYAbObUhObU
  cTAbEbIbObUcUbVUcWAbEbIbOcYAbObUcZAbEbIbObUjVOICED_ITERATION_MARKzdSTORIC_SITEmOCHOdLEbLOW_QUILT_S
  QUARE_ORNAMENTa_IN_BLACK_SQUAREzrMOTHETICiNEY_POTeBEEgOKcPbRIZONTAL_BARcLACK_HEXAGONhOCTAGONnELLIP
  SISiLINE_EXTENSIONoMALE_WITH_STROKE_SIGNvONE_EIGHTH_BLOCK-1358e2b3b4b5b6b7sSCAN_LINE-1b3b7b9lTAB_K
  EYeULATIONa_SETdWITH_JUSTIFICATIONzdRAFFIC_LIGHTvSEa_FACEeRACINGkSPITALgT_BEVERAGEiDOGdPEPPERgSPRI
  NGSiELdURGLASSa_WITH_FLOWING_SANDySEa_BUILDINGaSjWITH_GARDENqRYVNIA_SIGNlTaJbScUGGING_FACEkNDRED_P
  OINTS_SYMBOLtSHED_FACEjTcYGIEAePHENa_BULLETgWITH_DIAERESISp-MINUSgATION_POINToODIASTOLEkSTERESIS_S
  YMBOLrI_LOVE_YOU_HAND_SIGNtCE_CREAMeUBEeHOCKEY_STICK_AND_PUCKvSKATEiDENTICAL_TOa_AND_SLANTED_PARAL
  LELxWITH_DOT_ABOVEsFICATION_CARDqOGRAPHIC_ANNOTATION_BOTTOM_MARKlEARTH_MARKkFIRST_MARKjOUR_MARKfTH
  _MARKlHEAVEN_MARKlLINKING_MARKmMAN_MARKhIDDLE_MARKlONE_MARKiREVERSE_MARKmSECOND_MARKlTHIRD_MARKiRE
  E_MARKjOP_MARKhWO_MARKtCLOSING_MARKlOMMAfDEPARTING_TONE_MARKrSCRIPTION_CHARACTER_ABOVE_TO_BELOWfMI
  DDLE_AND_BELOWzFULL_SURROUNDnLEFT_TO_MIDDLE_AND_RIGHTqRIGHTnOVERLAIDiSURROUND_FROM_ABOVEfBELOWfLEF
  TdOWER_LEFTkUPPER_LEFTeRIGHTzwENTERING_TONE_MARKsFULL_STOPjHALF_FILL_SPACEpITERATION_MARKoLEVEL_TO
  NE_MARKpNUMBER_ZEROlRISING_TONE_MARKqSPACEfTALLY_MARK_FIVEdOUReONEdTHREEeWOnELEGRAPH_LINE_FEED_SEP
  ARATOR_SYMBOLzbSYMBOL_FOR_APRILeUGUSTgDAY_EIGHTaEENhLEVENgFIFTEENfVEdOURaTEENiNINEaTEENiONEdSEVENa
  TEENiIXaTEENhTENcHIRTEENdYa-ONEiREEeWELVEdNTYa-EIGHTfFIVEdOUReNINEeONEdSEVENeIXdTHREEeWOiOgECEMBER
  iFEBRUARYiHOUR_EIGHTaEENhLEVENgFIFTEENfVEdOURaTEENiNINEaTEENiONEdSEVENaTEENiIXaTEENhTENcHIRTEENgRE
  EeWELVEdNTYa-FOUReONEdTHREEeWOiOdZEROjJANUARYgULYcNEeMARCHdYdNOVEMBERiOCTOBERhSEPTEMBERzfVARIATION
  _INDICATORzfMAGE_OFa_OR_APPROXIMATELY_EQUAL_TOzhPaERIAL_ARAMAIC_LETTER_ALEPHeYINeBETHeDALETHgGIMEL
  fHEaTHeKAPHeLAMEDHgMEMdNUNdPEcQOPHeRESHeSADHEdMEKHfHINeTAWcETHeWAWdYODHeZAYINmNUMBER_ONEa_HUNDREDh
  THOUSANDmTENa_THOUSANDlHREEeWENTYeOkSECTION_SIGNzdNBOX_TRAYiCOMING_ENVELOPEmPLETE_INFINITYqREASE_F
  ONT_SIZE_SYMBOLrS_AShMENThDaEXa_POINTING_AT_THE_VIEWERzIAN_RUPEE_SIGNnC_SIYAQ_ALTERNATE_LAKH_MARKt
  FRACTION_ONE_HALFeQUARTERlTHREE_QUARTERSxLAKH_MARKjNUMBER_ALTERNATE_ONEdTEN_THOUSANDlWOnEIGHTa_HUN
  DREDhTHOUSANDjYa_THOUSANDpFIFTYa_THOUSANDmVEa_HUNDREDhTHOUSANDmORTYa_THOUSANDmURa_HUNDREDhTHOUSAND
  nKARORaANhLAKHaANgNINEa_HUNDREDhTHOUSANDjTYa_THOUSANDpONEa_HUNDREDhTHOUSANDmPREFIXED_EIGHTfFIVEdOU
  ReNINEeONEdSEVENeIXdTHREEeWOmSEVENa_HUNDREDhTHOUSANDjTYa_THOUSANDpIXa_HUNDREDhTHOUSANDjTYa_THOUSAN
  DoTENa_THOUSANDlHIRTYa_THOUSANDnREEa_HUNDREDhTHOUSANDnWENTYa_THOUSANDnOa_HUNDREDhTHOUSANDtPLACEHOL
  DERlRUPEE_MARKuFINITYa_NEGATED_WITH_VERTICAL_BARzgORMATION_DESK_PERSONlSEPARATOR_FOUReONEdTHREEeWO
  mOURCEqHIBIT_ARABIC_FORM_SHAPINGtSYMMETRIC_SWAPPINGyPUT_SYMBOL_FOR_LATIN_CAPITAL_LETTERSpLETTERShS
  MALL_LETTERStNUMBERShSYMBOLSwSCRIPTIONAL_PAHLAVI_LETTER_ALEPHfBETHeDALETHgGIMELfHEaTHeKAPHeLAMEDHg
  MEM-QOPHiNUNdPEcSADHEdMEKHfHINeTAWcETHeWAW-AYIN-RESHnYODHeZAYINmNUMBER_FOUReONEa_HUNDREDhTHOUSANDm
  TENcHREEeWENTYeOqRTHIAN_LETTER_ALEPHeYINeBETHeDALETHgGIMELfHEaTHeKAPHeLAMEDHgMEMdNUNdPEcQOPHeRESHe
  SADHEdMEKHfHINeTAWcETHeWAWdYODHeZAYINmNUMBER_FOUReONEa_HUNDREDhTHOUSANDmTENcHREEeWENTYeOzfERTION_S
  YMBOLoTEGRALa_AROUND_A_POINT_OPERATORwVERAGE_WITH_SLASHsEXTENSIONjWITH_DOUBLE_STROKEnINTERSECTIONm
  LEFTWARDS_ARROW_WITH_HOOKzOVERBARhTIMES_SIGNkUNDERBARgIONpRCALATEgIOR_PRODUCTlLINEAR_ANNOTATION_AN
  CHORgSEPARATORjTERMINATORzcOCKED_FEMALE_AND_MALE_SIGNzcROBANGgSECTIONa_ABOVE_BAR_ABOVE_UNIONpUNION
  lBESIDE_AND_JOINED_WITH_INTERSECTIONzkWITH_DOTdLOGICAL_ANDlOVERBARxVERSE_BULLETgCHECK_MARKfER_BOAR
  D_FILLsDOWNWARDS_ARROW_WITH_TIP_LEFTWARDSzjMEDIUM_SHADEmWHITE_CIRCLEpTED_EXCLAMATION_MARKqINTERROB
  ANGlLAZY_SfOW_KAVYKAa_WITH_KAVYKA_ABOVEzdOHM_SIGNiPENTAGRAMjQUESTION_MARKnUNDERTIEoISIBLE_PLUSeSEP
  ARATORjTIMESoZAKAYA_LANTERNpJACK-O-LANTERNmPANESE_BANK_SYMBOLlCASTLEgDOLLSfGOBLINgINDUSTRIAL_STAND
  ARD_SYMBOLzbOGREePOST_OFFICElSYMBOL_FOR_BEGINNERzbRbVANESE_CONSONANT_SIGN_CAKRAfKERETfPENGKALwDIGI
  T_EIGHTfFIVEdOUReNINEeONEdSEVENeIXdTHREEeWOdZEROkLEFT_RERENGGANmTTER_AaIcBAa_MURDAiCAa_MURDAiDAa_M
  AHAPRANAlDAa_MAHAPRANAnEbGAa_MURDAiHAcIa_KAWIfIcJAa_MAHAPRANAmKAa_MURDAfSASAKiLAcMAcNAa_MURDAhGAa_
  LELETa_RASWADIqYAa_MURDAjObPAa_CEREKfMURDAiRAa_AGUNGiSAa_MAHAPRANAiURDAiTAa_MURDAhTAa_MAHAPRANAnUb
  WAcYAjPADA_ADEGa_ADEGiNDAPfISEN-ISENjLINGSAfUHURdNGSIgMADYAfPANGKATgISELEHhTIRTA_TUMETESnWINDUiNGK
  ONdRANGKEPlRIGHT_RERENGGANpSIGN_CECAKa_TELUkLAYARfPANYANGGAjWIGNYANmTURNED_PADA_PISELEHtVOWEL_SIGN
  _DIRGA_MUREkPEPETfSUKUa_MENDUTlTALINGeRUNGfOLONGgWULUa_MELIKzeEANSeIGSAW_PUZZLE_PIECEsOINcYSTICKhU
  GGLINGgNOcPITERhKAABAdITHI_ABBREVIATION_SIGNrDANDAeOUBLE_DANDAfSECTION_MARKtENUMERATION_SIGNqLETTE
  R_AaAbIbUcBAbHAdCAbHAdDAbDAbDHAdHAdHAdEbGAbHAdHAcIaIcJAbHAdKAbHAdLAcMAcNAbGAcNAcYAdObPAbHAdRAbHAdS
  AbHAcSAdTAbHAcTAbHAeUaUcVAcYAjNUMBER_SIGNa_ABOVErSECTION_MARKlIGN_ANUSVARAiCANDRABINDUlNUKTAfVIRAM
  AeSARGAmVOWEL_SIGN_AAbIbUcEbIaIcObUaUcVOCALIC_RzNGAROOeXI_RADICAL_AGAINeNDcRRIVEdOWeXEdBADGEReMBOO
  fEANdIGbRDcTTERfLACKdOODdUEdOATcDYcLT_OF_CLOTHlNEcWcRANCHeISTLEfUSHfCARTcULDRONgVEdHILDeITYdLANbWc
  IFFdOTHESgOLORdMPAREfRPSEeVERdWdDEATHdERdIPPEReSHbTINGUISHjVINATIONjO_NOTeGbORcTaTED_CLIFFfTENTjUB
  LE_XgWN_BOXhRAGONeUMcYdEARaTHdTcIGHTeMBROIDERYjNCLOSUREhTEReVENaINGgYEdFACEcNGcTHERfEATHERgIELDdGH
  TdREcSHdLUTEdYcOOTdRAGRANTgOGdURdGATEdHOSTeOa_SLOWLYhLDdRAINcSSfHAIRcLBERDeF_TREE_TRUNKnNDdEADbRTd
  MPdIDING_ENCLOSUREpOOKcRNbSEfICEcNCHcSECTgJADEcRdKNIFEfLACKcMEdEAFbTHERfEKcGSdIDbFEcNEdONGa_STRIDE
  lMANcEATcLONeILLETeNISTERhOONcRNINGeTAReUNDbTAINfTHfNETcOSEcTdOLDcNEaSELFgPEN_BOXgPOSEgPIGcLOWdOWE
  ReRIVATEfOFOUNDiRAINcPbTcEDcICEcGHT_OPEN_BOXmVEReOOFdUNdSACRIFICIAL_WINEoLTcYcCHOLARfRIPTfEALcCOND
  eEbLFdHEEPcLLdOOTcRT_TAILED_BIRDkHREADlICKNESSgLKdKINdLASHcVEdICEeMALLeNOUTeOUNDePEARcECHeIRITeOON
  dROUTfQUAREfTANDdEAMcPcONEcPaPINGhUNcWEETfTABLEdLLcNNED_LEATHERnENcIGERdLEdONGUEeOTHeRACKdEEcIPODf
  URBANdTLEfWOa_HANDSjUSEdVALLEYfILLAGEhWALKa_ENCLOSUREmTEReEAPONeSTdHEATdITEeINDbEdOMANdRKdRAPcONGf
  YELLOWsNADA_AI_LENGTH_MARKoDIGIT_EIGHTfFIVEdOUReNINEeONEdSEVENeIXdTHREEeWOdZEROkLENGTH_MARKjTTER_A
  aAbIbUcBAbHAdCAbHAdDAbDAbHAdHAdEaEcFAcGAbHAdHAcIaIcJAbHAdKAbHAdLAbLAbLAeMAcNAaKAARA_POLLUmGAcNAcYA
  dOaOcPAbHAdRAbRAdSAbHAcSAdTAbHAcTAbHAeUaUcVAbOCALIC_LaLcRaRkYAjSIGN_ANUSVARAhVAGRAHAiCANDRABINDUlJ
  IHVAMULIYAlNUKTAfSIDDHAMgPACING_CANDRABINDUtUPADHMANIYAlVIRAMAeSARGAmVOWEL_SIGN_AAbIbUcEaEcIaIcOaO
  cUaUcVOCALIC_LaLcRaRzcTAKANA_DIGRAPH_KOTOmITERATION_MARKoLETTER_AaRCHAIC_EbWUcYEbIkBAbEbIbObUcDAbE
  bIbObUcEbGAbEbIbObUcHAbEbIbObUcIbKAbEbIbObUcMAbEbIaNNAN_NASALIZED_TONE-1b2b3b4b5b7b8qTONE-2b3b4b5b
  7b8mObUcNaAbEbIbObUcObPAbEbIbObUcRAbEbIbObUcSAbEbIbMALL_AbEbHAbEbIbObUcIbKAbEbUcMUcNaUcObRAbEbIbOb
  UcSIbUcTObUcUbWAbEbIbOcYAbObUhObUcTAbEbIbObUcUbVAbEbIbObUcWAbEbIbOcYAbObUcZAbEbIbObUjMIDDLE_DOTkVO
  ICED_ITERATION_MARKw-HIRAGANA_DOUBLE_HYPHENnPROLONGED_SOUND_MARKuSEMI-VOICED_SOUND_MARKwVOICED_SOU
  ND_MARKziYAH_LI_DIGIT_EIGHTfFIVEdOUReNINEeONEdSEVENeIXdTHREEeWOdZEROkLETTER_AbBAcCAcDAcGAcHAbTAdIb
  KAbHAdLAcMAcNAbGAcYAdOEbOcPAbHAdRAcSAbHAdTAbHAdVAcWAcYAcZAjSIGN_CWIdSHYAjTONE_CALYAa_PLOPHUmPLOPHU
  lVOWEL_EaEcObUaEqELVIN_SIGNjYaBOARDa_AND_MOUSEpCAP_TENjHAROSHTHI_DIGIT_FOUReONEdTHREEeWOjFRACTION_
  ONE_HALFrLETTER_AbBAbHAdCAbHAdDAbDAbHAdHAdGAbHAdHAcJAcKAbHAcKAdLAcMAcNAbNAcYAdPAbHAdRAcSAbHAcSAdTA
  bHAcTAbHAcTAbHAfVAbHAdYAcZAjNUMBER_ONE_HUNDREDhTHOUSANDmTENcWENTYnPUNCTUATION_CIRCLEfRESCENT_BARmD
  ANDAeOTbUBLE_DANDAmLINESeOTUSfMANGALAMiSMALL_CIRCLEySIGN_ANUSVARAiBAR_ABOVEjCAUDAfDOT_BELOWhUBLE_R
  ING_BELOWrVISARGAmVIRAMAfOWEL_LENGTH_MARKlSIGN_EbIbObUbVOCALIC_RzeITAN_SMALL_SCRIPT_CHARACTER-18B0
  0b1b2b3b4b5b6b7b8b9bAbBbCbDbEbFc10b1b2b3b4b5b6b7b8b9bAbBbCbDbEbFc20b1b2b3b4b5b6b7b8b9bAbBbCbDbEbFc
  30b1b2b3b4b5b6b7b8b9bAbBbCbDbEbFc40b1b2b3b4b5b6b7b8b9bAbBbCbDbEbFc50b1b2b3b4b5b6b7b8b9bAbBbCbDbEbF
  c60b1b2b3b4b5b6b7b8b9bAbBbCbDbEbFc70b1b2b3b4b5b6b7b8b9bAbBbCbDbEbFc80b1b2b3b4b5b6b7b8b9bAbBbCbDbEb
  Fc90b1b2b3b4b5b6b7b8b9bAbBbCbDbEbFcA0b1b2b3b4b5b6b7b8b9bAbBbCbDbEbFcB0b1b2b3b4b5b6b7b8b9bAbBbCbDbE
  bFcC0b1b2b3b4b5b6b7b8b9bAbBbCbDbEbFcD0b1b2b3b4b5b6b7b8b9bAbBbCbDbEbFcE0b1b2b3b4b5b6b7b8b9bAbBbCbDb
  EbFcF0b1b2b3b4b5b6b7b8b9bAbBbCbDbEbFdC00b1b2b3b4b5b6b7b8b9bAbBbCbDbEbFc10b1b2b3b4b5b6b7b8b9bAbBbCb
  DbEbFc20b1b2b3b4b5b6b7b8b9bAbBbCbDbEbFc30b1b2b3b4b5b6b7b8b9bAbBbCbDbEbFc40b1b2b3b4b5b6b7b8b9bAbBbC
  bDbEbFc50b1b2b3b4b5b6b7b8b9bAbBbCbDbEbFc60b1b2b3b4b5b6b7b8b9bAbBbCbDbEbFc70b1b2b3b4b5b6b7b8b9bAbBb
  CbDbEbFc80b1b2b3b4b5b6b7b8b9bAbBbCbDbEbFc90b1b2b3b4b5b6b7b8b9bAbBbCbDbEbFcA0b1b2b3b4b5b6b7b8b9bAbB
  bCbDbEbFcB0b1b2b3b4b5b6b7b8b9bAbBbCbDbEbFcC0b1b2b3b4b5b6b7b8b9bAbBbCbDbEbFcD0b1b2b3b4b5pFILLERyMER
  _CURRENCY_SYMBOL_RIELuDIGIT_EIGHTfFIVEdOUReNINEeONEdSEVENeIXdTHREEeWOdZEROkINDEPENDENT_VOWEL_LYaYd
  QAAbIbQbUcEbIaIcOO_TYPE_ONEdTWOlUaKbUaVeRYaYvLETTER_BAcCAbHAbOcOcDAbOcHAcKAbHAbOcOcLAbOcMOcNGOcNOc
  ObYOdPHAbOcOcQAcROcSAbHAcSOdTAbHAbOcObTHAbOeVOcYOjSIGN_AHSDAeTTHACANhVAKRAHASANYAnBANTOCeRIYOOSANi
  THAMASATjEYYALgCAMNUC_PII_KUUHoOENGfKAKABATgHANdOOMUUThLEK_TOOhMUUSIKATOANlNIKAHIThPHNAEK_MUANlREA
  HMUKgOBATfSAMYOK_SANNYAnTOANDAKHIATkRIISAPhVIRIAMgYUUKALEAPINTUrYMBOL_BEI_KOETeROCgUON_KOETeROCiDA
  P_KOETeROCe-BEI_KOETeROCgUON_KOETeROCiMUOY_KOETeROCiPII_KOETeROCgRAM_KOETeROCmLEK_ATTAK_BEIcUONeMU
  OYePIIcRAMa-BEIcUONeMUOYePIIiSONnMUOY_KOETeROCiPATHAMASATjII_KOETeROCgRAM_KOETeROCe-BEI_KOETeROCgU
  ON_KOETeROCiMUOY_KOETeROCiPII_KOETeROCmTUTEYASATqVOWEL_INHERENT_AAbQlSIGN_AAbEbIbUcEbIaEbIcOEbOcUa
  AbUcYaAbYrOJKI_ABBREVIATION_SIGNrDANDAeOUBLE_DANDAfSECTION_MARKtLETTER_AaAbIbUcBAbBAcHAdCAbHAdDAbD
  AbDAcHAdHAdEbGAbGAcHAdHAcIbJAbJAdKAbHAdLAbLAdMAcNAbGAcNAcYAdObPAbHAdRAcSAcTAbHAcTAbHAeUbVAcYAjSECT
  ION_MARKlIGN_ANUSVARAiNUKTAfSHADDAfUKUNfVIRAMAlVOWEL_SIGN_AAbIbUcEbIaIcObUmWORD_SEPARATORtUDAWADI_
  DIGIT_EIGHTfFIVEdOUReNINEeONEdSEVENeIXdTHREEeWOdZEROkLETTER_AaAbIbUcBAbBAcHAdCAbHAdDAbDAbDAcHAdHAd
  EbGAbGAcHAdHAcIaIcJAbHAcJAdKAbHAdLAcMAcNAbGAcNAcYAdObPAbHAdRAbRAdSAbHAdTAbHAcTAbHAeUaUcVAcYAjSIGN_
  ANUSVARAiNUKTAfVIRAMAlVOWEL_SIGN_AAbIbUcEbIaIcObUaUwIMONOeP_SIGNgSSa_MARKfING_CAT_FACE_WITH_CLOSED
  _EYESzFACEa_WITH_CLOSED_EYESlSMILING_EYESzdTEcWIFRUITiNEELING_PERSONnOTdOALAdREAN_STANDARD_SYMBOLv
  RONOSgL_B_BAR_SYMBOLnAB_COATfELdCROSSE_STICK_AND_BALLvDDERdY_BEETLEjNGUAGE_TAGkO_CANCELLATION_MARK
  rDIGIT_EIGHTfFIVEdOUReNINEeONEdSEVENeIXdTHREEeWOdZEROkELLIPSISiHO_MOcNOfKO_LAfLETTER_BOcCOcDOcFO_F
  AYcONdSUNGeTAMgHO_SUNGeTAMgKHMU_GOcNYOgO_SUNGeTAMgOcLOa_LINGdOOThMOcNGOcObYOdObPALI_BHAdCHAdDDAbHA
  dHAdGHAdJHAdLLAdNNAcYAdTTAbHAiHO_SUNGeTAMgOcROcSANSKRIT_SHAcSAlO_SUNGeTAMgTHO_SUNGeTAMgOcWOcYOjNIG
  GAHITAjSEMIVOWEL_SIGN_LOcNYOrIGN_PALI_VIRAMAqTONE_MAI_CATAWAgEKcTHOcIlVOWEL_SIGN_AaAbIbMbYcEaIcIaI
  cMAI_KANcONhObUaUcYaYpRGE_BLUE_CIRCLEgDIAMONDhSQUAREkROWN_CIRCLEgSQUAREmCIRCLEgDOWN_TACKjGREEN_CIR
  CLEgSQUAREmLEFT_TRIANGLE_OPERATORwONE_DOT_OVER_TWO_DOTS_PUNCTUATIONzeRING_OVER_TWO_RINGS_PUNCTUATI
  ONzjRANGE_CIRCLEgDIAMONDhSQUAREnPURPLE_CIRCLEgSQUAREnRED_CIRCLEgSQUAREkTRIPLE_VERTICAL_BAR_OPERATO
  RzcWO_DOTS_OVER_ONE_DOT_PUNCTUATIONzeRINGS_OVER_ONE_RING_PUNCTUATIONzkUP_TACKhYELLOW_CIRCLEgSQUARE
  oR_THANa_OR_EQUAL_TOuI_SIGNhST_QUARTER_MOONa_SYMBOLgWITH_FACEzTIN_CAPITAL_LETTER_Aa_WITH_ACUTEfBRE
  VEa_AND_ACUTEfDOT_BELOWjGRAVEfHOOK_ABOVEkTILDEpCARONeIRCUMFLEXa_AND_ACUTEfDOT_BELOWjGRAVEfHOOK_ABO
  VEkTILDEuDIAERESISa_AND_MACRONtOT_ABOVEa_AND_MACRONqBELOWhUBLE_GRAVEmGRAVEfHOOK_ABOVEkINVERTED_BRE
  VEoMACRONgOGONEKgRING_ABOVEa_AND_ACUTEpBELOWkSTROKEgTILDElAbEa_WITH_ACUTEfMACRONnFRICAN_DiLPHAeNGL
  ICANA_WkObUbVa_WITH_HORIZONTAL_BARvYcBa_WITH_DOT_ABOVEfBELOWjFLOURISHiHOOKeLINE_BELOWkSTROKEgTOPBA
  RmETAdROKEN_LiCa_WITH_ACUTEfBARdCARONeEDILLAa_AND_ACUTEqIRCUMFLEXkDOT_ABOVEjHOOKePALATAL_HOOKmSTRO
  KEmHIcLOSED_INSULAR_GpONcUATRILLOa_WITH_COMMAuDa_WITH_CARONeEDILLAgIRCUMFLEX_BELOWqDOT_ABOVEfBELOW
  jHOOKeLINE_BELOWkSHORT_STROKE_OVERLAYtMALL_LETTER_Za_WITH_CARONyTROKEgTOPBARmZa_WITH_CARONnEa_WITH
  _ACUTEfBREVEfCARONeEDILLAa_AND_BREVEqIRCUMFLEXa_AND_ACUTEfDOT_BELOWjGRAVEfHOOK_ABOVEkTILDEjBELOWqD
  IAERESISiOT_ABOVEfBELOWhUBLE_GRAVEmGRAVEfHOOK_ABOVEkINVERTED_BREVEoMACRONa_AND_ACUTEfGRAVEqOGONEKg
  STROKEgTILDEa_BELOWrGYPTOLOGICAL_AINcLEFrNGcSHcTaHcZHa_REVERSEDiWITH_CARONoFa_WITH_DOT_ABOVEjHOOKe
  STROKEnGa_WITH_ACUTEfBREVEfCARONeEDILLAgIRCUMFLEXkDOT_ABOVEjHOOKeMACRONgOBLIQUE_STROKEoSTROKEmAMMA
  eHAcLOTTAL_AbIbSTOPeUjHa_WITH_BREVE_BELOWlCARONeEDILLAgIRCUMFLEXkDESCENDERiIAERESISiOT_ABOVEfBELOW
  jHOOKeSTROKEmALF_HfENGdWAIRfIa_WITH_ACUTEfBREVEfCARONeIRCUMFLEXkDIAERESISa_AND_ACUTEsOT_ABOVEfBELO
  WhUBLE_GRAVEmGRAVEfHOOK_ABOVEkINVERTED_BREVEoMACRONgOGONEKgSTROKEgTILDEa_BELOWrNSULAR_DbFbGbRbSbTi
  OTAdScJa_WITH_CIRCUMFLEXjROSSED-TAILmSTROKEnKa_WITH_ACUTEfCARONeEDILLAhDESCENDERiIAGONAL_STROKEoOT
  _BELOWjHOOKeLINE_BELOWkOBLIQUE_STROKEoSTROKEa_AND_DIAGONAL_STROKEziLa_WITH_ACUTEfBARcELTeCARONeEDI
  LLAgIRCUMFLEX_BELOWqDOT_BELOWa_AND_MACRONsUBLE_BARkHIGH_STROKElLINE_BELOWkMIDDLE_DOTdTILDEmSMALL_L
  ETTER_JnTROKEmJcMa_WITH_ACUTEfDOT_ABOVEfBELOWjHOOKkIDDLE_SCOTS_Si-WELSH_LLcVoNa_WITH_ACUTEfCARONeE
  DILLAgIRCUMFLEX_BELOWqDESCENDERiOT_ABOVEfBELOWjGRAVEfLEFT_HOOKiINE_BELOWjONG_RIGHT_LEGoOBLIQUE_STR
  OKEoSMALL_LETTER_JoTILDElJcOa_WITH_ACUTEfBREVEfCARONeIRCUMFLEXa_AND_ACUTEfDOT_BELOWjGRAVEfHOOK_ABO
  VEkTILDEuDIAERESISa_AND_MACRONtOT_ABOVEa_AND_MACRONqBELOWhUBLE_ACUTEfGRAVEmGRAVEfHOOK_ABOVEiRNa_AN
  D_ACUTEfDOT_BELOWjGRAVEfHOOK_ABOVEkTILDEoINVERTED_BREVEoLONG_STROKE_OVERLAYrOPeMACRONa_AND_ACUTEfG
  RAVEpIDDLE_TILDEmOGONEKa_AND_MACRONrSTROKEa_AND_ACUTEqTILDEa_AND_ACUTEfDIAERESISjMACRONwIbLD_POLIS
  H_OlMEGAeObPEN_EbOfUcPa_WITH_ACUTEfDOT_ABOVEjFLOURISHiHOOKeSQUIRREL_TAILmTROKEa_THROUGH_DESCENDERz
  gQa_WITH_DIAGONAL_STROKEpSTROKE_THROUGH_DESCENDERzgRa_ROTUNDAhWITH_ACUTEfCARONeEDILLAhDOT_ABOVEfBE
  LOWa_AND_MACRONsUBLE_GRAVEmINVERTED_BREVEoLINE_BELOWkOBLIQUE_STROKEoSTROKEgTAILkEVERSED_C_WITH_DOT
  kEbHALF_HgOPEN_EoUM_ROTUNDAlSa_WITH_ACUTEa_AND_DOT_ABOVEtCARONa_AND_DOT_ABOVEsEDILLAgIRCUMFLEXjOMM
  A_BELOWlDOT_ABOVEfBELOWa_AND_DOT_ABOVExHOOKeOBLIQUE_STROKEoSHORT_STROKE_OVERLAYtWASH_TAILqALTILLOh
  CHWAdRIPT_GhHARP_SgIGMOID_SiMALL_CAPITAL_IjQ_WITH_HOOK_TAILwTa_WITH_CARONeEDILLAgIRCUMFLEX_BELOWpO
  MMA_BELOWlDIAGONAL_STROKEoOT_ABOVEfBELOWjHOOKeLINE_BELOWkRETROFLEX_HOOKoSTROKEmHORNa_WITH_STROKEa_
  THROUGH_DESCENDERzjONE_FIVEeSIXdTWOhRESILLOhURNED_AaLPHAfHbINSULAR_GjKbLbMbTbVhZcUa_BARdWITH_ACUTE
  fBREVEfCARONeIRCUMFLEXa_BELOWqDIAERESISa_AND_ACUTEfCARONfGRAVEfMACRONkBELOWoOT_BELOWhUBLE_ACUTEfGR
  AVEmGRAVEfHOOK_ABOVEiRNa_AND_ACUTEfDOT_BELOWjGRAVEfHOOK_ABOVEkTILDEoINVERTED_BREVEoMACRONa_AND_DIA
  ERESISuOGONEKgRING_ABOVEkSTROKEgTILDEa_AND_ACUTEjBELOWrPSILONhVa_WITH_DIAGONAL_STROKEoOT_BELOWjHOO
  KeTILDElENDdISIGOTHIC_ZlOLAPUK_AEcOEcUEjYcWa_WITH_ACUTEfCIRCUMFLEXkDIAERESISiOT_ABOVEfBELOWjGRAVEf
  HOOKkYNNeXa_WITH_DIAERESISiOT_ABOVEqYa_WITH_ACUTEfCIRCUMFLEXkDIAERESISiOT_ABOVEfBELOWjGRAVEfHOOKa_
  ABOVEkLOOPeMACRONgSTROKEgTILDElOGHeZa_WITH_ACUTEfCARONeIRCUMFLEXkDESCENDERiOT_ABOVEfBELOWjHOOKeLIN
  E_BELOWkPALATAL_HOOKmSTROKEfWASH_TAILxIGATURE_IJcOEsROSSfEPIGRAPHIC_LETTER_ARCHAIC_MjI_LONGAgNVERT
  ED_MkREVERSED_FbPkSIDEWAYS_IzdLETTER_AINcLVEOLAR_CLICKoBIDENTAL_PERCUSSIVErLABIAL_CLICKfPERCUSSIVE
  tDENTAL_CLICKmGLOTTAL_STOPa_WITH_STROKEyINVERTED_GLOTTAL_STOPa_WITH_CURLeSTROKEziLATERAL_CLICKnPHA
  RYNGEAL_VOICED_FRICATIVEzcRETROFLEX_CLICKa_WITH_RETROFLEX_HOOKziVERSED_ESH_LOOPiGLOTTAL_STOP_WITH_
  STROKEziSINOLOGICAL_DOToMALL_CAPITAL_AaEcBaARRED_BiCbDbEaTHcZHdFbGa_WITH_HOOKlHbIaNVERTED_RkJbKbLa
  _WITH_BELTeSTROKEnMbNbOaEbPEN_OfUcPbQbRa_WITH_RIGHT_LEGpEVERSED_NbRjUMdSbTaURNED_EbGbKbMbRiUbVbWbY
  bZoTRETCHED_Ca_WITH_CURLvTWO_WITH_STROKEpVOICED_LARYNGEAL_SPIRANTyWYNNeYRjSMALL_CAPITAL_LETTER_I_W
  ITH_STROKEnU_WITH_STROKEzdLETTER_Aa_REVERSED-SCHWAoWITH_ACUTEfBREVEa_AND_ACUTEfDOT_BELOWjGRAVEfHOO
  K_ABOVEkTILDEpCARONeIRCUMFLEXa_AND_ACUTEfDOT_BELOWjGRAVEfHOOK_ABOVEkTILDEuDIAERESISa_AND_MACRONtOT
  _ABOVEa_AND_MACRONqBELOWhUBLE_GRAVEmGRAVEfHOOK_ABOVEkINVERTED_BREVEoMACRONgOGONEKgRETROFLEX_HOOKnI
  GHT_HALF_RINGnNG_ABOVEa_AND_ACUTEpBELOWkSTROKEgTILDElAbEa_WITH_ACUTEfMACRONnLPHAa_WITH_RETROFLEX_H
  OOKyNGLICANA_WkObUbVa_WITH_HORIZONTAL_BARvYcBa_WITH_DOT_ABOVEfBELOWjFLOURISHiHOOKeLINE_BELOWkMIDDL
  E_TILDEmPALATAL_HOOKmSTROKEgTOPBARmARRED_ALPHAfEbOgSELINE_ESHlETAdLACKLETTER_EbOa_WITH_STROKEyOTTO
  M_HALF_OmROKEN_LiCa_WITH_ACUTEfBARdCARONeEDILLAa_AND_ACUTEqIRCUMFLEXjURLeDOT_ABOVEjHOOKePALATAL_HO
  OKmRETROFLEX_HOOKoSTROKEmHIa_WITH_LOW_LEFT_SERIFkRIGHT_RINGwLOSED_INSULAR_GjOMEGAePEN_EgREVERSED_O
  PEN_EvONcUATRILLOa_WITH_COMMAuDa_WITH_CARONeEDILLAgIRCUMFLEX_BELOWpURLeDOT_ABOVEfBELOWjHOOKa_AND_T
  AILnLINE_BELOWkMIDDLE_TILDEmPALATAL_HOOKmSHORT_STROKE_OVERLAYtTROKEgTAILdOPBARmB_DIGRAPHjELTAdZH_D
  IGRAPHa_WITH_PALATAL_HOOKmRETROFLEX_HOOKzgOTLESS_IbJa_WITH_STROKEa_AND_HOOKzdUBLE_Ra_WITH_CROSSED-
  TAILtTHORNfWYNNkUMcZa_DIGRAPHa_WITH_CURLeRETROFLEX_HOOKzcWITH_CARONnEa_WITH_ACUTEfBREVEfCARONeEDIL
  LAa_AND_BREVEqIRCUMFLEXa_AND_ACUTEfDOT_BELOWjGRAVEfHOOK_ABOVEkTILDEjBELOWqDIAERESISiOT_ABOVEfBELOW
  hUBLE_GRAVEmFLOURISHiGRAVEfHOOK_ABOVEkINVERTED_BREVEoMACRONa_AND_ACUTEfGRAVEqNOTCHfOGONEKgRETROFLE
  X_HOOKoSTROKEgTILDEa_BELOWrGYPTOLOGICAL_AINcLEFrNGa_WITH_CROSSED-TAILmPALATAL_HOOKuSHa_WITH_CURLeD
  OUBLE_BARa_AND_CURLtPALATAL_HOOKmRETROFLEX_HOOKwTaHcZHa_REVERSEDiWITH_CARONeURLePALATAL_HOOKmRETRO
  FLEX_HOOKoTAILnFa_WITH_DOT_ABOVEjHOOKeMIDDLE_TILDEmPALATAL_HOOKmSTROKEmENG_DIGRAPHa_WITH_TRILLxGa_
  WITH_ACUTEfBREVEfCARONeEDILLAgIRCUMFLEXkDOT_ABOVEjHOOKeMACRONgOBLIQUE_STROKEoPALATAL_HOOKmSTROKEmA
  MMAeHAcLOTTAL_AbIbSTOPeUjHa_WITH_BREVE_BELOWlCARONeEDILLAgIRCUMFLEXkDESCENDERiIAERESISiOT_ABOVEfBE
  LOWjHOOKeLINE_BELOWkPALATAL_HOOKmSTROKEmALF_HfENGa_WITH_HOOKnVcIa_WITH_ACUTEfBREVEfCARONeIRCUMFLEX
  kDIAERESISa_AND_ACUTEsOT_BELOWhUBLE_GRAVEmGRAVEfHOOK_ABOVEkINVERTED_BREVEoMACRONgOGONEKgRETROFLEX_
  HOOKoSTROKEa_AND_RETROFLEX_HOOKzTILDEa_BELOWrNSULAR_DbFbGbRbSbThVERTED_ALPHAfOEkOTAa_WITH_STROKEnI
  FIED_EjScJa_WITH_CARONeIRCUMFLEXjROSSED-TAILmSTROKEnKa_WITH_ACUTEfCARONeEDILLAhDESCENDERiIAGONAL_S
  TROKEoOT_BELOWjHOOKeLINE_BELOWkOBLIQUE_STROKEoPALATAL_HOOKmSTROKEa_AND_DIAGONAL_STROKEzhRAdLa_WITH
  _ACUTEfBARcELTa_AND_PALATAL_HOOKvCARONeEDILLAgIRCUMFLEX_BELOWpURLeDOT_BELOWa_AND_MACRONsUBLE_BARdM
  IDDLE_TILDEtFISHHOOKiHIGH_STROKElINVERTED_LAZY_SpLINE_BELOWkMIDDLE_DOTdRINGeTILDEmPALATAL_HOOKmRET
  ROFLEX_HOOKa_AND_BELTxSTROKEmAMBDA_WITH_STROKErENIS_FfZHa_WITH_RETROFLEX_HOOKxJbONG_Sa_WITH_DIAGON
  AL_STROKEoOT_ABOVEjHIGH_STROKEwS_DIGRAPHjUMcZ_DIGRAPHkMa_WITH_ACUTEfCROSSED-TAILmDOT_ABOVEfBELOWjH
  OOKeMIDDLE_TILDEmPALATAL_HOOKsIDDLE_SCOTS_Si-WELSH_LLcVnUMdNa_PRECEDED_BY_APOSTROPHEwWITH_ACUTEfCA
  RONeEDILLAgIRCUMFLEX_BELOWpROSSED-TAILlURLeDESCENDERiOT_ABOVEfBELOWjGRAVEfLEFT_HOOKiINE_BELOWjONG_
  RIGHT_LEGoMIDDLE_TILDEmOBLIQUE_STROKEoPALATAL_HOOKmRETROFLEX_HOOKoTILDElJbUMdOa_WITH_ACUTEfBREVEfC
  ARONeIRCUMFLEXa_AND_ACUTEfDOT_BELOWjGRAVEfHOOK_ABOVEkTILDEuDIAERESISa_AND_MACRONtOT_ABOVEa_AND_MAC
  RONqBELOWhUBLE_ACUTEfGRAVEmGRAVEfHOOK_ABOVEiRNa_AND_ACUTEfDOT_BELOWjGRAVEfHOOK_ABOVEkTILDEoINVERTE
  D_BREVEoLONG_STROKE_OVERLAYrOPcW_RING_INSIDEpMACRONa_AND_ACUTEfGRAVEqOGONEKa_AND_MACRONrRETROFLEX_
  HOOKoSTROKEa_AND_ACUTEqTILDEa_AND_ACUTEfDIAERESISjMACRONwIbLD_POLISH_OlMEGAeObPEN_Ea_WITH_RETROFLE
  X_HOOKvOa_WITH_RETROFLEX_HOOKoSTROKEmEgUcPa_WITH_ACUTEfDOT_ABOVEjFLOURISHiHOOKeMIDDLE_TILDEmPALATA
  L_HOOKmSQUIRREL_TAILmTROKEa_THROUGH_DESCENDERzfHIdQa_WITH_DIAGONAL_STROKEpHOOKa_TAILjSTROKE_THROUG
  H_DESCENDERzfP_DIGRAPHkRa_ROTUNDAhWITH_ACUTEfCARONeEDILLAgROSSED-TAILmDOT_ABOVEfBELOWa_AND_MACRONs
  UBLE_GRAVEmFISHHOOKa_AND_MIDDLE_TILDEmPALATAL_HOOKzINVERTED_BREVEoLINE_BELOWjONG_LEGiMIDDLE_TILDEm
  OBLIQUE_STROKEoPALATAL_HOOKmSTROKEgTAILfOUT_HANDLEpAMS_HORNiEVERSED_Ca_WITH_DOTkEaNGdHALF_HgKbOPEN
  _Ea_WITH_HOOKeRETROFLEX_HOOKzbR_WITH_FISHHOOKpSCRIPT_GqUMa_ROTUNDAlSa_WITH_ACUTEa_AND_DOT_ABOVEtCA
  RONa_AND_DOT_ABOVEsEDILLAgIRCUMFLEXjOMMA_BELOWkURLeDOT_ABOVEfBELOWa_AND_DOT_ABOVExHOOKeMIDDLE_TILD
  EmOBLIQUE_STROKEoPALATAL_HOOKmSHORT_STROKE_OVERLAYtWASH_TAILqAKHA_YAThLTILLOhCHWAa_WITH_HOOKeRETRO
  FLEX_HOOKxRIPT_Ga_WITH_CROSSED-TAILtRa_WITH_RINGrHARP_SgIDEWAYS_DIAERESIZED_UnOa_WITH_STROKEmPEN_O
  gTURNED_MiUiGMOID_SiQUAT_REVERSED_ESHrTIRRUP_RjTa_WITH_CARONeEDILLAgIRCUMFLEX_BELOWpOMMA_BELOWkURL
  eDIAERESISgGONAL_STROKEoOT_ABOVEfBELOWjHOOKa_AND_RETROFLEX_HOOKxLINE_BELOWkMIDDLE_TILDEmPALATAL_HO
  OKmRETROFLEX_HOOKoSTROKEmAILLESS_PHIlC_DIGRAPH_WITH_CURLtESH_DIGRAPHa_WITH_PALATAL_HOOKmRETROFLEX_
  HOOKzgH_WITH_STRIKETHROUGHtORNa_WITH_STROKEa_THROUGH_DESCENDERzjONE_FIVEeSIXdTWOgP_HALF_OjRESILLOh
  S_DIGRAPHa_WITH_RETROFLEX_HOOKzeUMbRNED_AaEbLPHAfDELTAfEbGbHa_WITH_FISHHOOKa_AND_TAILyIaNSULAR_GjK
  bLbMa_WITH_LONG_LEGpO_OPEN-Oa_WITH_STROKEtEa_WITH_HORIZONTAL_STROKErSTROKEnPEN_EgRa_WITH_HOOKeLONG
  _LEGa_AND_RETROFLEX_HOOKzcMIDDLE_TILDEmPALATAL_HOOKmTAILlTa_WITH_CURLlUIcVbWbYa_WITH_BELTrZcUa_BAR
  a_WITH_SHORT_RIGHT_LEGyWITH_ACUTEfBREVEfCARONeIRCUMFLEXa_BELOWqDIAERESISa_AND_ACUTEfCARONfGRAVEfMA
  CRONkBELOWoOT_BELOWhUBLE_ACUTEfGRAVEmGRAVEfHOOK_ABOVEiRNa_AND_ACUTEfDOT_BELOWjGRAVEfHOOK_ABOVEkTIL
  DEoINVERTED_BREVEoLEFT_HOOKjMACRONa_AND_DIAERESISuOGONEKgRETROFLEX_HOOKnING_ABOVEkSHORT_RIGHT_LEGo
  TROKEgTILDEa_AND_ACUTEjBELOWrEbIbMbObPSILONa_WITH_STROKEtVa_WITH_CURLeDIAGONAL_STROKEoOT_BELOWjHOO
  KePALATAL_HOOKmRIGHT_HOOKkTILDElENDdISIGOTHIC_ZlOLAPUK_AEcOEcUEjYcWa_WITH_ACUTEfCIRCUMFLEXkDIAERES
  ISiOT_ABOVEfBELOWjGRAVEfHOOKeRING_ABOVErXa_WITH_DIAERESISiOT_ABOVEjLONG_LEFT_LEGa_AND_LOW_RIGHT_RI
  NGsWITH_SERIFwW_RIGHT_RINGoPALATAL_HOOKtYa_WITH_ACUTEfCIRCUMFLEXkDIAERESISiOT_ABOVEfBELOWjGRAVEfHO
  OKa_ABOVEkLOOPeMACRONgRING_ABOVEkSHORT_RIGHT_LEGoTROKEgTILDElOGHeZa_WITH_ACUTEfCARONeIRCUMFLEXjURL
  eDESCENDERiOT_ABOVEfBELOWjHOOKeLINE_BELOWkMIDDLE_TILDEmPALATAL_HOOKmRETROFLEX_HOOKoSTROKEfWASH_TAI
  LxIGATURE_FFaIbLcIbLcIJcLONG_S_TiOEcSTqUBSCRIPT_SMALL_LETTER_AbEbHbIbJbKbLbMbNbObPbRbSaCHWAfTbUbVb
  XzeEAF_FLUTTERING_IN_WINDtY_GREENjDGEReFT_AND_LOWER_AND_RIGHT_TRIANGULAR_THREE_QUARTERS_BLOCKzqONE
  _EIGHTH_BLOCKwRIGHT_DOUBLE_TURNSTILEqTACKdRIANGULAR_HALF_BLOCKzcUPPER_AND_RIGHT_TRIANGULAR_THREE_Q
  UARTERS_BLOCKzqONE_EIGHTH_BLOCKyGER_BUBBLEjLE_BRACKETa_WITH_DOTvRC_LESS-THAN_BRACKETtROW_WITH_CIRC
  LED_PLUSmSMALL_CIRCLExBARB_DOWN_RIGHT_BARB_DOWN_HARPOONmUP_HARPOONzbUP_RIGHT_BARB_DOWN_HARPOONmUP_
  HARPOONzdLACK_LENTICULAR_BRACKETsTORTOISE_SHELL_BRACKETzdCEILINGgLOSED_ENTRYlORNER_BRACKETnURLY_BR
  ACKETa_LOWER_HOOKkMIDDLE_PIECEmUPPER_HOOKyDOTTED_SUBSTITUTION_BRACKETzUBLE_ANGLE_BRACKETnPARENTHES
  ISlQUOTATION_MARKoWIGGLY_FENCEtFISH_TAILhVE_EIGHTHS_BLOCKrLOORfHALF_BLACK_CIRCLEgSTARiOCKfCIRCLEa_
  WITH_DOTdFOUR_DOTSjTHREE_DOTSjWO_DOTSuFOLDERgINVERSE_MEDIUM_SHADE_AND_RIGHT_HALF_BLOCKzqMEDIUM_SHA
  DEmRUNNING_MANoND_TELEPHONE_RECEIVERxLOW_PARAPHRASE_BRACKETvUGGAGEhMULTIMAPiNORMAL_FACTOR_SEMIDIRE
  CT_PRODUCTzhONE_EIGHTH_BLOCKmQUARTER_BLOCKqUTER_JOINkPARENTHESISa_EXTENSIONjLOWER_HOOKkUPPER_HOOKw
  RAISED_OMISSION_BRACKETwIGHT_ARROWa_THROUGH_SMALL_CIRCLEuWITH_DOUBLE_VERTICAL_STROKEwSTROKEgVERTIC
  AL_STROKEzbBLACK_ARROWlDOUBLE_ARROWa_WITH_STROKEgVERTICAL_STROKEziOPEN-HEADED_ARROWrSANS-SERIF_ARR
  OWqTRIANGLE-HEADED_ARROWvWAVE_ARROWjHITE_ARROWrS-SHAPED_BAG_DELIMITERvEMIDIRECT_PRODUCTqVEN_EIGHTH
  S_BLOCKsIDEWAYS_U_BRACKETqNGLE_QUOTATION_MARKuPEECH_BUBBLEmQUARE_BRACKETa_EXTENSIONjLOWER_CORNERmU
  PPER_CORNERmWITH_DOUBLE_STROKEnQUILLfSTROKEgTICK_IN_BOTTOM_CORNERnTOP_CORNERsUNDERBARzcUBSTITUTION
  _BRACKETuTACKdHIRD_WHITE_RIGHT_POINTING_INDEXzfOUGHT_BUBBLEmREE_EIGHTHS_BLOCKnQUARTERS_BLOCKtORTOI
  SE_SHELL_BRACKETvRANSPOSITION_BRACKETtIANGLE_BESIDE_VERTICAL_BARwULAR_ONE_QUARTER_BLOCKzdVERTICAL_
  BAR_WITH_QUILLnOX_LINErWHITE_CORNER_BRACKETnURLY_BRACKETnLENTICULAR_BRACKETsPARENTHESISlSQUARE_BRA
  CKEToTORTOISE_SHELL_BRACKETzcIGGLY_FENCElRITING_HANDn-FACING_ARMENIAN_ETERNITY_SIGNwFISTeSVASTI_SI
  GNa_WITH_DOTSzdHANDED_INTERLACED_PENTAGRAMzcPOINTING_ANGLE_BRACKETnCURVED_ANGLE_BRACKETuDOUBLE_ANG
  LE_QUOTATION_MARKzcMAGNIFYING_GLASSzSHADED_WHITE_RIGHTWARDS_ARROWzdIDE_ARC_ANTICLOCKWISE_ARROWzdTO
  -RIGHT_EMBEDDINGjISOLATEhMARKeOVERRIDEsWARDS_ARROWa_ABOVE_ALMOST_EQUAL_TOpREVERSE_ALMOST_EQUAL_TOp
  TILDE_OPERATORwSHORT_RIGHTWARDS_ARROWwTILDE_OPERATORtND_UPPER_AND_LOWER_ONE_EIGHTH_BLOCKzlFROM_BAR
  a_TO_BLACK_DIAMONDzOVER_RIGHTWARDS_ARROWvTHROUGH_LESS-THANjSUBSETgXiO_BARa_OVER_RIGHTWARDS_ARROW_T
  O_BARzgLACK_DIAMONDqWITH_DOTTED_STEMjUBLE_VERTICAL_STROKEwEQUILATERAL_ARROWHEADvHOOKeLARGE_TRIANGL
  E_ARROWHEADxOOPeMEDIUM_TRIANGLE_ARROWHEADzNOTCHED_TAILmPLUS_BELOWkSMALL_EQUILATERAL_ARROWHEADvTRIA
  NGLE_ARROWHEADxTROKEgTAILa_WITH_DOUBLE_VERTICAL_STROKEwVERTICAL_STROKEyIP_DOWNWARDSjUPWARDSlVERTIC
  AL_STROKEv-TAILkBACK-TILTED_SHADOWED_WHITE_ARROWzgLACK_ARROWfCIRCLED_WHITE_ARROWyOTTOM-SHADED_WHIT
  E_ARROWzCOMPRESSED_ARROWqDASHED_ARROWlOUBLE_ARROWa_FROM_BARiWITH_STROKEgVERTICAL_STROKEv-TAILkDASH
  _ARROWrFINGER-POST_ARROWqRONT-TILTED_SHADOWED_WHITE_ARROWziHANDcRPOON_OVER_RIGHTWARDS_HARPOONxWITH
  _BARB_DOWN_ABOVE_RIGHTWARDS_HARPOON_WITH_BARB_DOWNzoBELOW_LONG_DASHpFROM_BARiTO_BARhWARDSjUP_ABOVE
  _LEFTWARDS_HARPOON_WITH_BARB_DOWNzgONG_DASHjRIGHTWARDS_HARPOON_WITH_BARB_UPzmFROM_BARiTO_BARhWARDS
  yEAVY_ARROWfCOMPRESSED_ARROWwLEFT-SHADED_WHITE_ARROWxOPEN-HEADED_ARROWrPAIRED_ARROWSnQUADRUPLE_ARR
  OWpRIGHT-SHADED_WHITE_ARROWxOCKETgSANS-SERIF_ARROWpQUARED_ARROWkIGGLE_ARROWoTOP_SHADED_WHITE_ARROW
  vRIANGLE_ARROWHEADk-HEADED_ARROWa_OVER_RIGHTWARDS_TRIANGLE-HEADED_ARROWzmTO_BARgWITH_BOLD_SHAFTkDO
  UBLE_HORIZONTAL_STROKErVERTICAL_STROKEwHEAVY_SHAFTlLONG_TIP_DOWNWARDSjUPWARDSqMEDIUM_SHAFTmNARROW_
  SHAFTmVERY_HEAVY_SHAFTzcDASHED_ARROWmPAIRED_ARROWSzbPLE_ARROWfDASH_ARROWqWO_HEADED_ARROWn-HEADED_A
  RROW_FROM_BARiWITH_DOUBLE_VERTICAL_STROKEwTAILa_WITH_DOUBLE_VERTICAL_STROKEwVERTICAL_STROKEyRIANGL
  E_ARROWHEADStVERTICAL_STROKEzbTRIPLE_DASH_ARROWzdWAVE_ARROWjHITE_ARROWa_WITHIN_TRIANGLE_ARROWHEADz
  uGbMONdOaPARDfPCHA_CONSONANT_SIGN_KaANGeLbMbNaYIN-DOhPbRbTqDIGIT_EIGHTfFIVEdOUReNINEeONEdSEVENeIXd
  THREEeWOdZEROkLETTER_AbBAbLAdCAbHAdDAbDAcZAdFAbLAdGAbLAdHAbLAdJAcKAbHAcLAdLAcMAbLAdNAbGAcYAdPAbHAc
  LAdRAcSAbHAdTAbHAcSAbHAdTAbHAeVAcWAcYAjPUNCTUATION_CER-WAgNYET_THYOOM_TA-ROLsTA-ROLfSHOOKa_CER-WAz
  SIGN_NUKTAfRANhUBJOINED_LETTER_RAcYAtVOWEL_SIGN_AAcEbIbOaOcUaUsSS-THAN_ABOVE_DOUBLE-LINE_EQUAL_ABO
  VE_GREATER-THANzlGREATER-THAN_ABOVE_DOUBLE-LINE_EQUALzlLEFTWARDS_ARROWpSIMILAR_ABOVE_GREATER-THANs
  OR_EQUALpLANTED_EQUAL_ABOVE_GREATER-THAN_ABOVE_SLANTED_EQUALzzhND_NOT_APPROXIMATEpSINGLE-LINE_NOT_
  EQUAL_TOzdBUT_NOT_EQUAL_TOfIVALENT_TOvCLOSED_BY_CURVEa_ABOVE_SLANTED_EQUALzkEQUAL_TO_OR_GREATER-TH
  ANyOR_APPROXIMATElEQUAL_TOfIVALENT_TOnGREATER-THANmSLANTED_EQUAL_TOa_WITH_DOT_ABOVEa_RIGHTlINSIDEz
  jVER_EQUAL_TOnSIGNeWITH_CIRCLE_INSIDEnDOTdQUESTION_MARK_ABOVEzhVEL_SLIDERlFbIBRAdGATURE_OPEN_ET_OR
  NAMENTwHT_CHECK_MARKkEIGHT_SPOKED_ASTERISKvFIVE_POINTED_BLACK_STARsSPOKED_ASTERISKtOUR_POINTED_BLA
  CK_CUSPeSTARxGREEK_CROSSlLEFT_TORTOISE_SHELL_BRACKET_ORNAMENTzlRAILdIGHT_TORTOISE_SHELL_BRACKET_OR
  NAMENTzmSALTIREgHADEeIX_SPOKED_ASTERISKtTHREE_POINTED_BLACK_STARxWELVE_POINTED_BLACK_STARzVERTICAL
  _BARmWHITE_SQUAREnNINGa_MOODa_BUBBLEtMBU_DIGIT_EIGHTfFIVEdOUReNINEeONEdSEVENeIXdTHREEeWOdZEROkEXCL
  AMATION_MARKqLETTER_BAbHAdCAbHAdDAbHAdGAbHAcYANeHAcJAbHAdKAbHAdLAcMAcNAbGAdPAbHAdRAcSAbHAcSAdTAbHA
  cRAdWAcYAaNkQUESTION_MARKnSIGN_KEMPHRENGjLOOdMUKPHRENGjSA-IiMALL_LETTER_ANUSVARAiKAcLAcMAcNAbGAdPA
  cRAcTAoUBJOINED_LETTER_RAcWAcYAtVOWEL_SIGN_AaIbUcEaEcIbOaOcUh-CARRIER_LETTERxITED_LIABILITY_SIGNuN
  E_FEEDeINTEGRATION_NOT_INCLUDING_THE_POLEwWITH_RECTANGULAR_PATH_AROUND_POLEzdSEMICIRCULAR_PATH_ARO
  UND_POLEzvSEPARATORjTABULATIONa_SETpAR_A_SIGN_A028Be100-102g20Bd31Ce301b2b3b4b5b6b7b8b9AbBbCd10b1b
  2b3AbBbCc4b5b6b7b8b9c20b1b2b3b4b5b6b7b8b9c30b1b2b3b4b5b6b7b8b9c40b1b2b3b4b5b6b7b8b9c50b1b2b3b4b5b6
  b7b8b9c60b1b2b3b4b5b6b7b8b9c70b1d400-VASf1-VASf2-VASf3-VASf4-VASf5-VASf6-VASf7-VASf8-VASf9-VASg10-
  VASf1-VASf2-VASf3-VASf4-VASf5-VASf6-VASf7-VASf8-VASh501b2b3b4b5b6b8b9c10b1b2b3b5b6c20b1b3b4b5b6b7b
  8b9c30b1b2b4b5b6b7b8b9c40b1b2b5b7b8b9c50b1b2b3b4b5b6b7b9c63b4b5b6b8b9c70b1b2b3b4b5b6b7b8b9c80b1b2b
  3b4b5b6b7b8b9c91b2b4b5b6b8d600b1b2b3b4b6b8b9c10b1b2b3b4b5b6b7b8b9c20b1b2b3b4b6b7b8b9c34b7b8c40b2b3
  b4b5b6b8b9c51b2b3b4b5b6b7b8b9c60b1b2b3b4d701_Ad2_Bd3_Dd4_Ed5_Fd6_Hd7_Jd8_Kd9_Lc-2_L2e3_L3e4_L4e6_L
  6h10_Wd1_Xd2_Yd3_OMEGAh4_ABBf5_BBe7_DDf26_EYYYh32_JEg800b1b2b3b4b5b6b7dB001b2b3b4b5b6b7b8b9c10b1b3
  b6b7c20b1aFbMc2aFbMc3aMc4b6b7b8b9c30b1b4b7b8b9c40b1b4b5b6b7b8b9c50b1b3b4b5b6b7b8b9c60b1b5b6b7b9c70
  b3b4b6b7b8b9c80b1b2b5b6b7d118c20b2b3c31AbBd64c71c80b8c91mB_IDEOGRAM_B100_MANf2_WOMANh4_DEERg5_EQUI
  DgF_MAREgM_STALLIONl6F_EWEfM_RAMg7F_SHE-GOATkM_HE-GOATk8F_SOWfM_BOARh9F_COWfM_BULLi20_WHEATh1_BARL
  EYi2_OLIVEh3_SPICEh5_CYPERUSk30_OILf1_WINEg2c40_BRONZEi1_GOLDg2b5_WOOLg6c50b1_HORNg2b3b4b7b8b9_CLO
  THi60b1b2_GARMENTj3_ARMOURi4b5b6b7b8b9c70b1b2b3_MONTHh4b6_TREEg7b8b9c80b1b2b3b4b5b9c90b1_HELMETk22
  0_FOOTSTOOLl5_BATHTUBk30_SPEARh1_ARROWh2b3_SWORDh4b6c40_WHEELED_CHARIOTr1_CHARIOTj2_CHARIOT_FRAMEp
  3_WHEELh5b6b8b9c51b2b3b4_DARTg5b6b7b8b9eVESSEL_B155d200b1b2b3b4b5b6b7b8b9c10b1b2b3b4b5b6b7b8b9c21b
  2b6b7b8b9c50d305uMONOGRAM_B127_KAPOg8_KANAKOj33_AREPAh5_MERIh56_TURO2j247_DIPTEtSYLLABLE_B001_DAe2
  _ROe3_PAe4_TEe5_TOe6_NAe7_DIe8_Ad9_SEf10_Ud1_POe2_SOe3_MEe4_DOe5_MOe6_QAe7_ZAf20_ZOe1_QIe3_MUe4_NE
  e5_A2e6_RUe7_REe8_Id9_PU2g30_NIe1_SAe2_QOe3_RA3f6_JOe7_TIe8_Ed9_PIf40_WIe1_SIe2_WOe3_A3e4_KEe5_DEe
  6_JEe8_NWAg50_PUe1_DUe2_NOe3_RIe4_WAe5_NUe7_JAe8_SUe9_TAf60_RAe1_Od2_PTEf5_JUe6_TA2f7_KIe8_RO2f9_T
  Uf70_KOe1_DWEf2_PEe3_MIe4_ZEe5_WEe6_RA2f7_KAe8_QEf80_MAe1_KUe5_AUe7_TWEg90_DWOf1_TWOpMBOL_B018b9c2
  2c34c47b9c56c63b4c79c82b3b6b9rK_SYMBOLhED_PAPERCLIPSpON_FACEhPSaTICKgRA_SIGNhSU_LETTER_AaEcBAcCAbH
  AdDAbZAdEaUcFAcGAbHAdHAbHAdIbJAcKAbHAdLAcMAcNAbGAdOaEcPAbHAdSAbHAdTAbHAcONE_MYA_BOcCYAdJEUdNAcTIgN
  A_POjSAbHAeUaEbHcWAcXAcYAbHAdZAbHAkPUNCTUATION_COMMAfFULL_STOPyVRE_TOURNOIS_SIGNrZARDfLAMAeOBSTERf
  CKa_WITH_INK_PENnING-SHIFT_ONEdZEROqGICAL_ANDa_WITH_DOT_ABOVEhUBLE_OVERBARhUNDERBARpHORIZONTAL_DAS
  HpMIDDLE_STEMlUNDERBARrORa_OVERLAPPING_LOGICAL_ANDxWITH_DOT_ABOVEhUBLE_OVERBARhUNDERBARpHORIZONTAL
  _DASHpMIDDLE_STEMzLLIPOPgNG_DASH_FROM_LEFT_MEMBER_OF_DOUBLE_VERTICALzoIVISIONhRUMeLEFT_RIGHT_ARROW
  fDOUBLE_ARROWsTACKfWARDS_ARROWa_FROM_BARoDOUBLE_ARROWa_FROM_BARvSQUIGGLE_ARROWyRIGHT_TACKfWARDS_AR
  ROWa_FROM_BARoDOUBLE_ARROWa_FROM_BARvSQUIGGLE_ARROWzdTION_BOTTLEkUSdUDLY_CRYING_FACEqVE_HOTELfLETT
  ERjW_ASTERISKiBATTERYgRIGHTNESS_SYMBOLrDOUBLE_PRIME_QUOTATION_MARKzcKAVYKAa_WITH_DOTpLINEfER_BLADE
  _SCISSORSoFIVE_EIGHTHS_BLOCKsHALF_BLOCKfCIRCLEgINVERSE_WHITE_CIRCLEuMEDIUM_SHADErLEFT_BALLPOINT_PE
  NmLOCK_DIAGONAL_LOWER_MIDDLE_LEFT_TO_LOWER_CENTREgRIGHTzhUPPER_CENTRE_TO_LOWER_MIDDLE_RIGHTmRIGHTl
  UPPER_MIDDLE_RIGHTzdLEFT_TO_LOWER_CENTREgMIDDLE_RIGHTsUPPER_MIDDLE_RIGHTzbMIDDLE_LEFT_TO_LOWER_CEN
  TREgMIDDLE_RIGHTmRIGHTzwCRAYONgFOUNTAIN_PENmPAINTBRUSHjENCILgQUADRANT_CIRCULAR_ARCvSEMICIRCULAR_AN
  TICLOCKWISE_ARROWzhTRIANGLEcULAR_MEDIUM_SHADEzdONE_EIGHTH_BLOCKmQUARTER_BLOCKrRIGHT_BLOCK_DIAGONAL
  _LOWER_CENTRE_TO_LOWER_MIDDLE_RIGHTsUPPER_MIDDLE_RIGHTmRIGHTvLEFT_TO_LOWER_MIDDLE_RIGHTsUPPER_CENT
  REgMIDDLE_RIGHTzbMIDDLE_LEFT_TO_UPPER_CENTREgMIDDLE_RIGHTmRIGHTzhUPPER_MIDDLE_LEFT_TO_UPPER_CENTRE
  gRIGHTzwCORNER_WITH_DOTpDROP-SHADOWED_WHITE_SQUAREzbPENCILgQUADRANT_CIRCULAR_ARCvSEMICIRCULAR_CLOC
  KWISE_ARROWzcHADOWED_WHITE_CIRCLEgSQUAREvTRIANGLEcULAR_MEDIUM_SHADEzeSEVEN_EIGHTHS_BLOCKtTHREE_EIG
  HTHS_BLOCKnQUARTERS_BLOCKtRIANGULAR_ONE_QUARTER_BLOCKzhZENGEa_DIVIDED_BY_HORIZONTAL_RULEziREbIbMbO
  cUGGAGEfNGSeYCIAN_LETTER_AaNcBaHcDbEaNcGbHbIbJbKaKcLbMaMcNaNcPbQbRbSbTaHbTcUbWbXbZnDIAN_LETTER_AaN
  cBbCbDbEaNcFbGbIbKbLaYcMbNaNcObQbRbSaScTaTcUbVbYiTRIANGULAR_MARKuING_FACEkMACRONeGEbIC_WANDhNETeHA
  JANI_ABBREVIATION_SIGNrLETTER_AbBAbHAdCAbHAdDAbDAbHAdHAdEbGAbHAdHAcIbJAbHAdKAbHAdLAcMAcNAbNAcYAdOb
  PAbHAdRAbRAdSAcTAbHAcTAbHAeUbVAiIGATURE_SHRInSECTION_MARKlIGN_NUKTAqJONG_TILE_AUTUMNgBACKcMBOOgCHR
  YSANTHEMUMnEAST_WINDiIGHT_OF_BAMBOOShCHARACTERSjIRCLESqFIVE_OF_BAMBOOShCHARACTERSjIRCLESoOUR_OF_BA
  MBOOShCHARACTERSjIRCLESpGREEN_DRAGONmJOKERfNINE_OF_BAMBOOShCHARACTERSjIRCLESoORTH_WINDkONE_OF_BAMB
  OOShCHARACTERSjIRCLESnRCHIDgPLUMeRED_DRAGONkSEVEN_OF_BAMBOOShCHARACTERSjIRCLESpIX_OF_BAMBOOShCHARA
  CTERSjIRCLESnOUTH_WINDjPRINGfUMMERgTHREE_OF_BAMBOOShCHARACTERSjIRCLESpWO_OF_BAMBOOShCHARACTERSjIRC
  LESoWEST_WINDiHITE_DRAGONlINTERrKASAR_ANGKAfEND_OF_SECTIONoLETTER_AbBAcCAcDAcGAcJAcKAcLAcMAcNAbGAc
  YAdPAcRAcSAcTAcVAcYAjPASSIMBANGkVOWEL_SIGN_EbIbObUsLAYALAM_AU_LENGTH_MARKoDATE_MARKiIGIT_EIGHTfFIV
  EdOUReNINEeONEdSEVENeIXdTHREEeWOdZEROkFRACTION_ONE_EIGHTHgFIFTHeORTIETHiHALFeONE-HUNDRED-AND-SIXTI
  ETHyQUARTERhSIXTEENTHjTENTHeWENTIETHnTHREE_EIGHTIETHSkQUARTERSiSIXTEENTHSkTWENTIETHSzLETTER_AaAbIb
  RCHAIC_IIjUcBAbHAdCAbHAbILLU_KbLaLaLdMbNaNcRRcYiDAbDAbHAdHAcOT_REPHiEaEcGAbHAdHAcIaIcJAbHAdKAbHAdL
  AbLAbLAeMAcNAbGAcNAbNAdYAdOaOcPAbHAdRAbRAdSAbHAcSAdTAbHAcTAbHAcTAeUaUcVAbEDIC_ANUSVARAnOCALIC_LaLc
  RaRkYAjNUMBER_ONE_HUNDREDhTHOUSANDmTENkSIGN_ANUSVARAhVAGRAHAiCANDRABINDUkIRCULAR_VIRAMAoOMBINING_A
  NUSVARA_ABOVEyPARAeVERTICAL_BAR_VIRAMAsIRAMAeSARGAmVOWEL_SIGN_AAbIbUcEaEcIaIcOaOcUaUcVOCALIC_LaLcR
  aRzdE_AND_FEMALE_SIGNpSIGNeWITH_STROKE_AND_MALE_AND_FEMALE_SIGNySIGNsTESE_CROSSlMMOTHfNa_AND_WOMAN
  _HOLDING_HANDSxDANCINGhIN_BUSINESS_SUIT_LEVITATINGyTUXEDOjWITH_GUA_PI_MAOkTURBANmAT_SIGNhDAIC_AFFR
  ICATION_MARKqGEMINATION_MARKpLETTER_ABbDbGbHbINcKaSAdLbMbNbPbQbRbSaHbZcTaTcZcDUSHENNAiHALQAfINbTcK
  ADdUSHENNAoPUNCTUATIONlVOCALIZATION_MARKwGOcICHAEAN_ABBREVIATION_MARK_ABOVEfBELOWxLETTER_AAYINeLEP
  HeYINeBETHdHETHfDALETHfHAMEDHhFEcGHIMELfIMELfHEaTHeJAYINeHAYINgKAPHdHAPHfLAMEDHgMEMdNUNdPEcQHOPHeO
  PHeRESHeSADHEdMEKHfHINdSHINfTAWcETHdHAMEDHhWAWdXAPHdOPHeYODHeZAYINeHAYINnNUMBER_FIVEeONEa_HUNDREDl
  TENcWENTYnPUNCTUATION_DOTa_WITHIN_DOTmUBLE_DOT_WITHIN_DOTvFLEURONhLINE_FILLERlSTAReTWO_DOTSuSIGN_U
  DpS_SHOEgTELPIECE_CLOCKoUAL_WHEELCHAIRpP_SYMBOL_FOR_LIGHTHOUSEwLE_LEAFiRCHEN_HEAD_MARKjLETTER_-AcA
  bBAcCAbHAdDAbZAdGAcHAcJAcKAbHAdLAcMAcNAbGAcYAdPAbHAdRAcSAbHAdTAbHAcSAbHAeWAcYAcZAbHAkMARK_SHADjSIG
  N_ANUSVARAiCANDRABINDUpUBJOINED_LETTER_AbBAcCAbHAdDAbZAdGAcHAcJAcKAbHAdLAcMAcNAbGAcYAdPAbHAdRAcSAb
  HAdTAbHAcSAbHAeWAcYAcZAbHAuVOWEL_SIGN_AAcEbIbObUrRIAGE_SYMBOLmTIAL_ARTS_UNIFORMsSARAM_GONDI_DIGIT_
  EIGHTfFIVEdOUReNINEeONEdSEVENeIXdTHREEeWOdZEROkLETTER_AaAbIbUcBAbHAdCAbHAdDAbDAbHAdHAdEbGAbHAdHAcI
  aIcJAbHAcNYAeKAbHAcSSAeLAbLAdMAcNAbGAcNAcYAdObPAbHAdRAcSAbHAcSAdTAbHAcRAcTAbHAeUaUcVAcYAjRA-KARAgE
  PHAfSIGN_ANUSVARAiCANDRAgHALANTAhNUKTAfVISARGAmVIRAMAfOWEL_SIGN_AAbIbUcEbIaIcObUaUcVOCALIC_RzgCULI
  NE_ORDINAL_INDICATORyK_WORK_SYMBOLnU_MARKhTE_DRINKhHEMATICAL_BOLD_CAPITAL_AaLPHAfBaETAeCaHIdDaELTA
  eIGAMMAhEaPSILONgTAdFbGaAMMAfHbIaOTAeJbKaAPPAfLaAMDAfMaUcNaUcOaMEGAdICRONhPaHIcIbSIdQbRaHOdSaIGMAf
  TaAUcHETAa_SYMBOLmUaPSILONhVbWbXaIcYbZaETAmDIGIT_EIGHTfFIVEdOUReNINEeONEdSEVENeIXdTHREEeWOdZEROkEP
  SILON_SYMBOLoFRAKTUR_CAPITAL_AbBbCbDbEbFbGbHbIbJbKbLbMbNbObPbQbRbSbTbUbVbWbXbYbZjSMALL_AbBbCbDbEbF
  bGbHbIbJbKbLbMbNbObPbQbRbSbTbUbVbWbXbYbZpITALIC_CAPITAL_AaLPHAfBaETAeCaHIdDaELTAfEaPSILONgTAdFbGaA
  MMAfHbIaOTAeJbKaAPPAfLaAMDAfMaUcNaUcOaMEGAdICRONhPaHIcIbSIdQbRaHOdSaIGMAfTaAUcHETAa_SYMBOLmUaPSILO
  NhVbWbXaIcYbZaETAmEPSILON_SYMBOLoKAPPA_SYMBOLmNABLAfPARTIAL_DIFFERENTIALtHI_SYMBOLjI_SYMBOLjRHO_SY
  MBOLkSMALL_AaLPHAfBaETAeCaHIdDaELTAfEaPSILONgTAdFaINAL_SIGMAlGaAMMAfHbIaOTAeJbKaAPPAfLaAMDAfMaUcNa
  UcOaMEGAdICRONhPaHIcIbSIdQbRaHOdSaIGMAfTaAUcHETAfUaPSILONhVbWbXaIcYbZaETAkTHETA_SYMBOLtKAPPA_SYMBO
  LmNABLAfPARTIAL_DIFFERENTIALtHI_SYMBOLjI_SYMBOLjRHO_SYMBOLkSCRIPT_CAPITAL_AbBbCbDbEbFbGbHbIbJbKbLb
  MbNbObPbQbRbSbTbUbVbWbXbYbZjSMALL_AbBbCbDbEbFbGbHbIbJbKbLbMbNbObPbQbRbSbTbUbVbWbXbYbZnMALL_AaLPHAf
  BaETAeCaHIdDaELTAeIGAMMAhEaPSILONgTAdFaINAL_SIGMAlGaAMMAfHbIaOTAeJbKaAPPAfLaAMDAfMaUcNaUcOaMEGAdIC
  RONhPaHIcIbSIdQbRaHOdSaIGMAfTaAUcHETAfUaPSILONhVbWbXaIcYbZaETAkTHETA_SYMBOLrDOUBLE-STRUCK_CAPITAL_
  AbBbDbEbFbGbIbJbKbLbMbObSbTbUbVbWbXbYjDIGIT_EIGHTfFIVEdOUReNINEeONEdSEVENeIXdTHREEeWOdZEROkSMALL_A
  bBbCbDbEbFbGbHbIbJbKbLbMbNbObPbQbRbSbTbUbVbWbXbYbZvFALLING_DIAGONALpRAKTUR_CAPITAL_AbBbDbEbFbGbJbK
  bLbMbNbObPbQbSbTbUbVbWbXbYjSMALL_AbBbCbDbEbFbGbHbIbJbKbLbMbNbObPbQbRbSbTbUbVbWbXbYbZpITALIC_CAPITA
  L_AaLPHAfBaETAeCaHIdDaELTAfEaPSILONgTAdFbGaAMMAfHbIaOTAeJbKaAPPAfLaAMDAfMaUcNaUcOaMEGAdICRONhPaHIc
  IbSIdQbRaHOdSaIGMAfTaAUcHETAa_SYMBOLmUaPSILONhVbWbXaIcYbZaETAmEPSILON_SYMBOLoKAPPA_SYMBOLmNABLAfPA
  RTIAL_DIFFERENTIALtHI_SYMBOLjI_SYMBOLjRHO_SYMBOLkSMALL_AaLPHAfBaETAeCaHIdDaELTAeOTLESS_IbJjEaPSILO
  NgTAdFaINAL_SIGMAlGaAMMAfIaOTAeJbKaAPPAfLaAMDAfMaUcNaUcOaMEGAdICRONhPaHIcIbSIdQbRaHOdSaIGMAfTaAUcH
  ETAfUaPSILONhVbWbXaIcYbZaETAkTHETA_SYMBOLtLEFT_ANGLE_BRACKETnDOUBLE_ANGLE_BRACKETuFLATTENED_PARENT
  HESISvWHITE_SQUARE_BRACKEToTORTOISE_SHELL_BRACKETziMONOSPACE_CAPITAL_AbBbCbDbEbFbGbHbIbJbKbLbMbNbO
  bPbQbRbSbTbUbVbWbXbYbZjDIGIT_EIGHTfFIVEdOUReNINEeONEdSEVENeIXdTHREEeWOdZEROkSMALL_AbBbCbDbEbFbGbHb
  IbJbKbLbMbNbObPbQbRbSbTbUbVbWbXbYbZrRIGHT_ANGLE_BRACKETnDOUBLE_ANGLE_BRACKETuFLATTENED_PARENTHESIS
  vWHITE_SQUARE_BRACKEToTORTOISE_SHELL_BRACKETzhSING_DIAGONALpSANS-SERIF_BOLD_CAPITAL_AaLPHAfBaETAeC
  aHIdDaELTAfEaPSILONgTAdFbGaAMMAfHbIaOTAeJbKaAPPAfLaAMDAfMaUcNaUcOaMEGAdICRONhPaHIcIbSIdQbRaHOdSaIG
  MAfTaAUcHETAa_SYMBOLmUaPSILONhVbWbXaIcYbZaETAmDIGIT_EIGHTfFIVEdOUReNINEeONEdSEVENeIXdTHREEeWOdZERO
  kEPSILON_SYMBOLoITALIC_CAPITAL_AaLPHAfBaETAeCaHIdDaELTAfEaPSILONgTAdFbGaAMMAfHbIaOTAeJbKaAPPAfLaAM
  DAfMaUcNaUcOaMEGAdICRONhPaHIcIbSIdQbRaHOdSaIGMAfTaAUcHETAa_SYMBOLmUaPSILONhVbWbXaIcYbZaETAmEPSILON
  _SYMBOLoKAPPA_SYMBOLmNABLAfPARTIAL_DIFFERENTIALtHI_SYMBOLjI_SYMBOLjRHO_SYMBOLkSMALL_AaLPHAfBaETAeC
  aHIdDaELTAfEaPSILONgTAdFaINAL_SIGMAlGaAMMAfHbIaOTAeJbKaAPPAfLaAMDAfMaUcNaUcOaMEGAdICRONhPaHIcIbSId
  QbRaHOdSaIGMAfTaAUcHETAfUaPSILONhVbWbXaIcYbZaETAkTHETA_SYMBOLtKAPPA_SYMBOLmNABLAfPARTIAL_DIFFERENT
  IALtHI_SYMBOLjI_SYMBOLjRHO_SYMBOLkSMALL_AaLPHAfBaETAeCaHIdDaELTAfEaPSILONgTAdFaINAL_SIGMAlGaAMMAfH
  bIaOTAeJbKaAPPAfLaAMDAfMaUcNaUcOaMEGAdICRONhPaHIcIbSIdQbRaHOdSaIGMAfTaAUcHETAfUaPSILONhVbWbXaIcYbZ
  aETAkTHETA_SYMBOLrCAPITAL_AbBbCbDbEbFbGbHbIbJbKbLbMbNbObPbQbRbSbTbUbVbWbXbYbZjDIGIT_EIGHTfFIVEdOUR
  eNINEeONEdSEVENeIXdTHREEeWOdZEROkITALIC_CAPITAL_AbBbCbDbEbFbGbHbIbJbKbLbMbNbObPbQbRbSbTbUbVbWbXbYb
  ZjSMALL_AbBbCbDbEbFbGbHbIbJbKbLbMbNbObPbQbRbSbTbUbVbWbXbYbZoSMALL_AbBbCbDbEbFbGbHbIbJbKbLbMbNbObPb
  QbRbSbTbUbVbWbXbYbZrCRIPT_CAPITAL_AbCbDbGbJbKbNbObPbQbSbTbUbVbWbXbYbZjSMALL_AbBbCbDbFbHbIbJbKbLbMb
  NbPbQbRbSbTbUbVbWbXbYbZzXIMIZEgYAN_NUMERAL_EIGHTaEENhLEVENgFIFTEENfVEdOURaTEENiNINEaTEENiONEdSEVEN
  aTEENiIXaTEENhTENcHIRTEENgREEeWELVEeOdZEROrEASURED_ANGLEa_OPENING_LEFTmWITH_OPEN_ARM_ENDING_IN_ARR
  OW_POINTING_DOWN_AND_LEFTeRIGHToLEFT_AND_DOWNeUPlRIGHT_AND_DOWNeUPmUP_AND_LEFTeRIGHTzzhBYcRIGHT_AN
  GLE_WITH_DOTzbT_ON_BONEkCHANICAL_ARMdLEGmDEFAIDRIN_CAPITAL_LETTER_AaIbTIUeBbCbDbEbFbGbHaPcIbJbKaPc
  LbMbNaGbYcOaEcPbQbRbSbTbUbVbWbXbYaUcZpOMMAfDIGIT_EIGHTfFIVEdOUReNINEeONEa_ALTERNATE_FORMsSEVENeIXd
  THREEa_ALTERNATE_FORMtWOa_ALTERNATE_FORMsZEROkEXCLAMATION_OHoFULL_STOPjNUMBER_EIGHTEENhLEVENgFIFTE
  ENgOURTEENiNINETEENiSEVENTEENiIXTEENhTENcHIRTEENhWELVEnSMALL_LETTER_AaIbTIUeBbCbDbEbFbGbHaPcIbJbKa
  PcLbMbNaGbYcOaEcPbQbRbSbTbUbVbWbXbYaUcZnYMBOL_AIVAuIEVAL_COMMAfEXCLAMATION_MARKqQUESTION_MARKsUM_B
  LACK_CIRCLElOLD_WHITE_CIRCLErEIGHT_POINTED_BLACK_STARsSPOKED_ASTERISKvFIVE_SPOKED_ASTERISKtLATTENE
  D_LEFT_PARENTHESIS_ORNAMENTzRIGHT_PARENTHESIS_ORNAMENTzkOUR_POINTED_BLACK_STARkPINWHEEL_STARzbGREE
  K_CROSSlLEFT_CURLY_BRACKET_ORNAMENTwPARENTHESIS_ORNAMENTv-POINTING_ANGLE_BRACKET_ORNAMENTzlMATHEMA
  TICAL_SPACEsRIGHT_CURLY_BRACKET_ORNAMENTwPARENTHESIS_ORNAMENTv-POINTING_ANGLE_BRACKET_ORNAMENTzmSA
  LTIREgHADEeIX_POINTED_BLACK_STARsSPOKED_ASTERISKsMALL_WHITE_CIRCLEsTHREE_POINTED_BLACK_STARkPINWHE
  EL_STARzcVERTICAL_BARmWHITE_CIRCLEgSQUARErETEI_MAYEK_AHANG_KHUDAMlNJIdPUN_IYEKjCHEIKHANcEIiDIGIT_E
  IGHTfFIVEdOUReNINEeONEdSEVENeIXdTHREEeWOdZEROkLETTER_ATIYAfBAbHAMeCHAbILeDDAbHAdHOUdILdEbGHOUdOKdH
  UKdIa_LONSUMiJHAMdILdKHOUdOKa_LONSUMkLAIa_LONSUMkMITa_LONSUMkNAa_LONSUMiGOUa_LONSUMkNAcYAdObPAa_LO
  NSUMiHAMeRAIdSAMcHAcSAdTHOUdILa_LONSUMjTAbHAeUNcWAIdYANGkUM_IYEKiSYLLABLE_REPETITION_MARKyVIRAMAfO
  WEL_SIGN_AAIbUcNAPdUcCHEINAPhIIbNAPeNUNGeONAPeSOUNAPgUNAPdUcVISARGAhYENAPqWORD_REPETITION_MARKzgLO
  NcTING_FACEkMOcNDE_KIKAKUI_COMBINING_NUMBER_HUNDRED_THOUSANDSkSiMILLIONSiTEENSdN_THOUSANDSkSdHOUSA
  NDSzbDIGIT_EIGHTfFIVEdOUReNINEeONEdSEVENeIXdTHREEeWOjSYLLABLE_M001_KIe2_KAe3_KUe4_WIe5_WAe6_WUe7_M
  INf8_MANf9_MUNg10_BIe1_BAe2_BUe3_Id4_Ad5_Ud6_DIe7_DAe8_DUe9_SIf20_SAe1_SUe2_TIe3_TAe4_TUe5_LIe6_LA
  e7_LUe8_JIe9_JAf30_JUe1_YIe2_YAe3_YUe4_FIe5_FAe6_FUe7_NINf8_NANf9_NUNg40_HEEf1_HAe2_HOOf3_NGGAg4_K
  PEEg5_WOe6_HUANg7_MBEEg8_KOe9_WVAg50_PUe1_PEe2_HENf3_HINf4_LOOf5_TEe6_GBAf7_NGONg8_NYANg9_MENg60_N
  YONg1_WVIf2_MBAf3_JOe4_NDOf5_KEEf6_POe7_NDOOg8_PIe9_TOf70_GBOf1_GBOOg2_MBEf3_LEe4_KPUf5_FEe6_KOOf7
  _VOe8_FEEf9_SOf80_YEe1_PEEf2_NGGUg3_HEEIg4_LEEf5_VEe6_LONG_NGGEl7_HUNf8_FOe9_DEEg90_NGGIg1_TEEf2_K
  PAf3_GBEEg4_MONf5_KEe6_HEe7_BEe8_NYENg9_PAg100_Ed1_FANf2_POOf3_BOOf4_TOOf5_LONG_MBOOl6_LONG_NGGOOm
  7_GBEf8_KPEf9_YEEg10_LONG_LEj1_GAe2_KPOOg3_JEe4_WOOf5_NGGEEh6_SEe7_NENf8_WEe9_NDEg20_NGGOg1_YOe2_M
  BUf3_NDIf4_GBIf5_NDUf6_WEEf7_NGGUAh8_HOOUg9_NDAg30_HANf1_INe2_KPIf3_FOOf4_NJOOg5_INe6_SOOf7_EIe8_B
  Oe9_WVEg40_HOe1_YOOf2_LONG_MBOk3_WEIf4_VOOf5_MBIf6_NGGEg7_Od8_GBUf9_NJEEh50_BEEf1_VUe2_NJAf3_LOe4_
  MUANg5_GIe6_NGGOOh7_JEEf8_KPOf9_NGGAAi60_JOOf1_LONG_MBEk2_SEEf3_EEe4_NYINg5_OOe6_GUEIg7_GUANg8_GUe
  9_NONg70_NYUNg1_RAe2_MBOOg3_VEEf4_MBOf5_LONG_JOj6_HIe7_NGUANh8_ENe9_KUAg80_DOOf1_DOe2_VIe3_LONG_NG
  GOl4_NGENg5_VAe6_HUe7_MBUUg8_MBEEg9_MUENh90_GEEf1_NDEEg2_NJUf3_HONf4_WUIf5_ANe6_SIAf7_FUAzdORAH_WI
  TH_NINE_BRANCHESxS_SYMBOLjRCURYeOITIC_CURSIVE_FRACTION_EIGHT_TWELFTHSnLEVEN_TWELFTHSpFIVE_TWELFTHS
  mOUR_TWELFTHSnNINE_TWELFTHSnONE_HALFeTWELFTHlSEVEN_TWELFTHSnIX_TWELFTHSmTEN_TWELFTHSlHREE_TWELFTHS
  nWO_TWELFTHSvLETTER_AaRCHAIC_SAkBAcDAcEbHHAdIbKAbHAdLAcMAcNAbEcObPAcQAcRAcSAbEcTAbEbOcWAcYAiOGOGRA
  M_IMNdRMTmNUMBER_EIGHTa_HUNDREDa_THOUSANDqTHOUSANDjY_THOUSANDpFIFTYa_THOUSANDmVEa_HUNDREDa_THOUSAN
  DqTHOUSANDmORTYa_THOUSANDmURa_HUNDREDa_THOUSANDqTHOUSANDnNINEa_HUNDREDa_THOUSANDqTHOUSANDjTY_THOUS
  ANDpONEa_HUNDREDa_THOUSANDqTHOUSANDmSEVENa_HUNDREDa_THOUSANDqTHOUSANDjTYa_THOUSANDpIXa_HUNDREDa_TH
  OUSANDqTHOUSANDjTYa_THOUSANDoTENa_THOUSANDlHIRTYa_THOUSANDnREEa_HUNDREDa_THOUSANDqTHOUSANDnWENTYa_
  THOUSANDnOa_HUNDREDa_THOUSANDqTHOUSANDzcHIEROGLYPHIC_LETTER_AbBAa-2eDAcEbHHAdIbKAbHAdLAcMAcNAa-2dE
  a-2eObPAcQAcRAa-2eSAa-2dEcTAa-2dEa-2dOcWAcYAjSYMBOL_VIDJa-2zhPERSONhSSAGE_WAITINGnTRICAL_BREVEfLON
  G_OVER_SHORTfTWO_SHORTSuPENTASEMEjSHORT_OVER_LONGpTETRASEMEiRISEMEgWO_SHORTS_JOINEDgOVER_LONGzOeIA
  O_LETTER_AHbRCHAIC_MAcNAbGAdZZAlBAbRIdDAbDAcLHAbYAeZAbHAcYIcZAeFAcGAbHAbHAeHAbHAdKAcLAbHAbYAdYAdMA
  bHAdNAaSALIZATIONlGAbHAdHAcNAbHAdYAbHAePAbLAdQAbGAdREFORMED_TONE-1b2b4b5b6b8fSHAmTEdSAbHAcSAcYIdTA
  bEbLHAbYAeONE-2b3b4b5b6b7b8fSAbEbHAcSAdTAdVAbFAdWAcXAcYI_DZHAeKAcNNAdPAcTAbSAbHAdTAgZAbHAcSAbHAdZA
  bSAbYAdYAlSIGN_ASPIRATIONkCONSONANT_MODIFIER_BARwREFORMED_ASPIRATIONkVOICINGvTONE_ABOVEfBELOWfRIGH
  TfTOP_RIGHToVOWEL_SIGN_AaAbEaEcHHcIbNaGcUcEaAbIbNaGcRaRdIaAaNaGdEbGbIbNGcOaNGdUcNaGcOaERbYcGbObUcR
  OUNDED_ERaRlUaAaNaGdEIcIbNGcOGcUcVWcWaOcYaIbUIrCR_DASH_SYMBOLlON_US_SYMBOLnO_SIGNfBEcPHONEfSCOPEiD
  DLE_DOTdTHIRD_WHITE_RIGHT_POINTING_INDEXzlLINE_HORIZONTAL_ELLIPSISzLITARY_HELMETgMEDALlKY_WAYgL_SI
  GNhNIBUSdDISCeMIZEfUS_SIGNa_IN_TRIANGLElWITH_COMMA_ABOVElDOT_BELOWjFALLING_DOTSmRISING_DOTSvTILDEg
  -OR-PLUS_SIGNpYcRRORa_BALLkMSPdOBILE_PHONEa_OFFdWITH_RIGHTWARDS_ARROW_AT_LEFTzpDELScRN_PENTATHLONo
  I_ABBREVIATION_SIGNrDANDAeIGIT_EIGHTfFIVEdOUReNINEeONEdSEVENeIXdTHREEeWOdZEROjOUBLE_DANDAmLETTER_A
  aAbIbUcBAbHAdCAbHAdDAbDAbHAdHAdEbGAbHAdHAcIaIcJAbHAdKAbHAdLAbLAdMAcNAbGAcNAcYAdObPAbHAdRAcSAbHAcSA
  dTAbHAcTAbHAeUaUcVAbOCALIC_LaLcRaRkYAjSIGN_ANUSVARAhRDHACANDRAlHUVAeVIRAMAeSARGAmVOWEL_SIGN_AAbIbU
  cEbIaIcObUaUcVOCALIC_LaLcRaRwFIER_BREVE_WITH_INVERTED_BREVEzLETTER_ACUTE_ACCENTlLVEOLAR_CLICKnPOST
  ROPHEkBEGIN_HIGH_TONEjLOW_TONEnILABIAL_CLICKoCAPITAL_AaEcBaARRED_BiCbDbEbFbGbHa_WITH_STROKEnIbJbKb
  LbMbNbOaUcPbQbRaEVERSED_EbNkTbUbVbWiENTRED_LEFT_HALF_RINGoRIGHT_HALF_RINGwHINESE_TONE_YANG_PINGeQU
  cRUcSHANGjIN_PINGeQUcRUcSHANGvIRCUMFLEX_ACCENTqOLONeROSS_ACCENTlYRILLIC_ENcHARD_SIGNjSOFT_SIGNsDEN
  TAL_CLICKlOT_HORIZONTAL_BARoSLASHfVERTICAL_BARoUBLE_APOSTROPHEkPRIMEkWN_ARROWHEADjTACKjEND_HIGH_TO
  NEjLOW_TONElXTRA-HIGH_DOTTED_LEFT-STEM_TONE_BARsTONE_BARpLEFT-STEM_TONE_BARsTONE_BARnLOW_DOTTED_LE
  FT-STEM_TONE_BARsTONE_BARpLEFT-STEM_TONE_BARsTONE_BARsGEORGIAN_NARlLOTTAL_STOPa_WITH_STROKExRAVE_A
  CCENTmHALF_TRIANGULAR_COLONuIGH_DOTTED_LEFT-STEM_TONE_BARsTONE_BARpLEFT-STEM_TONE_BARsTONE_BARnLAT
  ERAL_CLICKmEFT_ARROWHEADjHALF_RINGjTACKiOW_ACUTE_ACCENTmCIRCUMFLEX_ACCENTrDOTTED_LEFT-STEM_TONE_BA
  RsTONE_BARnWN_ARROWHEADoGRAVE_ACCENTmINVERTED_EXCLAMATION_MARKzLEFT_ARROWaHEADk-STEM_TONE_BARsMACR
  ONgRIGHT_ARROWHEADnNGeTILDEeONE_BARiUP_ARROWHEADmVERTICAL_LINEoER_RIGHT_CORNER_ANGLEyMACRONfID_DOT
  TED_LEFT-STEM_TONE_BARsTONE_BARpLEFT-STEM_TONE_BARsTONE_BARjDLE_DOUBLE_ACUTE_ACCENTmGRAVE_ACCENTtG
  RAVE_ACCENTrNUS_SIGNkOPEN_SHELFkPLUS_SIGNiRIMEfRAISED_COLONfDOWN_ARROWkEXCLAMATION_MARKqINVERTED_E
  XCLAMATION_MARKzUP_ARROWoETROFLEX_CLICK_WITH_RETROFLEX_HOOKziVERSED_COMMAfGLOTTAL_STOPa_WITH_STROK
  EzhHOTIC_HOOKkIGHT_ARROWHEADjHALF_RINGjTACKkSHELFdORT_EQUALS_SIGNqMALL_AaEbINcLPHAfBa_WITH_HOOKkAR
  RED_OhETAdOTTOM_HALF_OnCa_WITH_CURLkAPITAL_AAcBbGa_WITH_HOOKlHbIa_WITH_STROKEmNVERTED_RkLa_WITH_BE
  LTlNbOEcRbUbYiHIcLOSED_OMEGAfREVERSED_OPEN_EwDa_WITH_HOOKa_AND_TAILnTAILkELTAdZH_DIGRAPHlOTLESS_J_
  WITH_STROKEa_AND_HOOKzeZ_DIGRAPHa_WITH_CURLeRETROFLEX_HOOKzfEaNGcSHcTHcZHdFaENG_DIGRAPHmGa_WITH_HO
  OKkAMMAeREEK_GAMMAfPHIjHa_WITH_HOOKeSTROKEmENGa_WITH_HOOKoI_WITH_STROKEmOTAeJa_WITH_CROSSED-TAILtK
  bLa_WITH_BELTeINVERTED_LAZY_SpMIDDLE_TILDEmPALATAL_HOOKmRETROFLEX_HOOKa_AND_BELTzeEZHa_WITH_RETROF
  LEX_HOOKxIGATURE_OEkS_DIGRAPHjZ_DIGRAPHkMa_WITH_HOOKlN_WITH_LEFT_HOOKjRETROFLEX_HOOKvOa_WITH_STROK
  EmPEN_EbOgPaHIdQbRa_WITH_FISHHOOKiTAILkAMS_HORNiEVERSED_EbGLOTTAL_STOPmOPEN_EpSa_WITH_CURLeHOOKkCH
  WAdRIPT_GhIDEWAYS_UkTa_WITH_PALATAL_HOOKmRETROFLEX_HOOKuC_DIGRAPH_WITH_CURLtESH_DIGRAPHlHETAeOP_HA
  LF_OjS_DIGRAPHa_WITH_RETROFLEX_HOOKzeURNED_AaEbLPHAfHbIbMa_WITH_LONG_LEGpOPEN_EgRa_WITH_HOOKeLONG_
  LEGa_AND_RETROFLEX_HOOKzjVbWbYa_WITH_BELTsUa_BARdWITH_LEFT_HOOKpPSILONhVa_WITH_HOOKeRIGHT_HOOKrWbX
  bYbZa_WITH_CURLeRETROFLEX_HOOKzbTRESS_AND_HIGH_TONEjLOW_TONEsUPERSCRIPT_HALF_TRIANGULAR_COLONvTRIA
  NGULAR_COLONzdTRIANGULAR_COLONpURNED_COMMAmUNASPIRATEDkP_ARROWHEADjTACKgScVERTICAL_LINEmOICINGhYAN
  G_DEPARTING_TONE_MARKxIN_DEPARTING_TONE_MARKzlULO_TWO_SUMmNEY_BAGdWITH_WINGSl-MOUTH_FACEnGOLIAN_BI
  RGAa_WITH_DOUBLE_ORNAMENTpORNAMENTtCOLONdMMAfDIGIT_EIGHTfFIVEdOUReNINEeONEdSEVENeIXdTHREEeWOdZEROj
  OUBLE_BIRGA_WITH_ORNAMENTzbELLIPSISiFOUR_DOTSiREE_VARIATION_SELECTOR_FOUReONEdTHREEeWOzbULL_STOPjI
  NVERTED_BIRGAa_WITH_DOUBLE_ORNAMENTzkLETTER_AaLI_GALI_AaHbNUSVARA_ONEmBALUDAgCAcDAaGALGAfMARUfDAdH
  ALF_UbYAhIaNVERTED_UBADAMAqKAcNGAcNAdPAbHAdSSAdTAbHREE_BALUDAlTAbHAeUBADAMAhVISARGA_ONElZAbHAlNGdB
  AcCHAa_WITH_TWO_DOTSpIdDAcEaEcFAcGAcHAAdIbJAcKAbHAdLAbHAdMAaNCHU_ALI_GALI_BHAdCAbYAdDDHAdHAdGHAdJH
  AdLHAdNGAdSSAdTAbTAdZAbHAmFAcIbKAcRAcZHAkNAcOaEcPAcQAcRAcSAbHAcIBE_ANGdCHAdDAcEbFAcGAaAdHAaAdIaYcJ
  AcKAcPAcRAAdSHAdTAbSAdUaEcZAbHAiTAbODO_ALI_GALI_TAcZHAlNGdBAcCHAdDAbZAdEbGAaAdHAAdIbJAbIAdKAcLONG_
  VOWEL_SIGNpMAcNIAdOaEcPAcQAcTAbSAdUaEcWAcYAgSAdUaEcWAcYAcZAbHIcRAkMANCHU_COMMAfFULL_STOPqNIRUGUgRO
  TATED_BIRGAa_WITH_DOUBLE_ORNAMENTpORNAMENTzcSIBE_SYLLABLE_BOUNDARY_MARKERzdWIRL_BIRGAa_WITH_DOUBLE
  _ORNAMENTpORNAMENTzTODO_SOFT_HYPHENpRIPLE_BIRGA_WITH_ORNAMENTzURNED_SWIRL_BIRGA_WITH_DOUBLE_ORNAME
  NTzoVOWEL_SEPARATORwKEYa_FACEiOGRAM_FOR_EARTHfYANGdINmRAILeSTABLE_SYMBOLpOD_BUBBLEiN_CAKEeVIEWING_
  CEREMONYtSQUEbITOgTHER_CHRISTMASnOR_BOATeSCOOTERiIZED_WHEELCHAIRpWAYgUNT_FUJIfAINa_BICYCLISTjCABLE
  WAYiRAILWAYnSEa_FACEeTRAPhTHdVIE_CAMERAkYAIeRO_DANDAeIGIT_EIGHTfFIVEdOUReNINEeONEdSEVENeIXdTHREEeW
  OdZEROjOUBLE_DANDAmLETTER_AbBAcCHUdDAaIdEaAcHAIbOdKEAAEeHAIdOcLAaNdMAEMdIMdNGIcINdOaLbOcPAbHIdRIbO
  cSHIdTAbEKcHEAeWAcYOmUCH_GREATER-THANmLESS-THANmLTANI_LETTER_AbBAbHAdCAbHAdDAbDAbDAcHAdHAdEbGAbHAd
  HAcIbJAbJAdKAbHAdLAcMAcNAbNAcYAdPAbHAdRAbHAcRAdSAcTAbHAcTAbHAeUbVAcYAjSECTION_MARKqIMAPdPLE_MUSICA
  L_NOTESpICATION_SIGNa_IN_DOUBLE_CIRCLEnLEFT_HALF_CIRCLEqRIGHT_HALF_CIRCLErTRIANGLElWITH_DOT_ABOVEj
  UNDERBARsXlSETa_MULTIPLICATIONoUNIONmSHROOMfIC_FLAT_SIGNjNATURAL_SIGNmSHARP_SIGNlAL_KEYBOARDa_WITH
  _JACKStNOTEeSCOREeYMBOL_ARPEGGIATO_DOWNeUPnBEGIN_BEAMePHRASEgSLUReTIEiRACEbKETfEATH_MARKiVEbISa_RE
  STlC_CLEFfAESURAgIRCLE_X_NOTEHEADqLIMACUSfVISeUSTER_NOTEHEAD_BLACKfWHITEvODAcMBINING_ACCENTa-STACC
  ATOoUGMENTATION_DOTqBENDeDOITcUBLE_TONGUElWN_BOWiFLAG-1b2b3b4b5eIPeHARMONICiLOUREfMARCATOa-STACCAT
  OqRIPdSMEAReNAP_PIZZICATOnPRECHGESANG_STEMqTACCATISSIMOgOgEMeTENUTOfREMOLO-1b2b3hIPLE_TONGUEnUP_BO
  WnMON_TIMEkRESCENDOhOIXeUT_TIMEiDA_CAPOfL_SEGNOhMPa_ALLgSHED_BARLINEnECRESCENDOjGREE_SLASHlOUBLE_B
  ARLINEhFLATeSHARPlRUM_CLEF-1b2lEIGHTH_NOTEeRESTkND_BEAMeOF_STIMMEjPHRASEgSLUReTIEhF_CLEFa_OTTAVA_A
  LTAeBASSAsERMATAa_BELOWmINAL_BARLINEkGERED_TREMOLO-1b2b3qVE-LINE_STAFFoLAT_DOWNeUPgORTEdUR-LINE_ST
  AFFkSTRING_FRETBOARDuUSA_BLACKfWHITEkG_CLEFa_OTTAVA_ALTAeBASSAsLISSANDO_DOWNeUPlRACE_NOTE_NO_SLASH
  iSLASHoEGORIAN_C_CLEFgF_CLEFqHALF_NOTEePEDAL_MARKkRESThUPTSTIMMElINVERTED_TURNnKIEVAN_C_CLEFgEIGHT
  H_NOTE_STEM_DOWNeUPsND_OF_PIECEmFINAL_NOTEjLAT_SIGNjHALF_NOTEjQUARTER_NOTE_STEM_DOWNeUPuRECITATIVE
  _MARKpWHOLE_NOTEqORONfLEFT_REPEAT_SIGNpONGAa_IMPERFECTA_RESTpPERFECTA_RESTtMAXIMAfEZZOeINIMAa_BLAC
  KfRESTkOON_NOTEHEAD_BLACKfWHITEsULTI_RESTfPLE_MEASURE_RESTvNATURAL_DOWNeUPjEBENSTIMMEkOTEHEAD_BLAC
  KnULL_NOTEHEADnONE_HUNDRED_TWENTY-EIGHTH_NOTEeRESTzc-LINE_STAFFnRNAMENT_STROKE-1a0b1c2b3b4b5b6b7b8
  b9qTTAVA_ALTAeBASSAmPARENTHESIS_NOTEHEADtEDAL_MARKeUP_MARKlS_SUBPUNCTISnIANOeLUS_NOTEHEADmODATUSfR
  RECTUSa_FLEXUSqQUARTER_NOTEeRESTeTONE_FLATeSHARPqINDICESIMA_ALTAeBASSAsREPEAT_DOTSfED_FIGURE-1b2b3
  pVERSE_FINAL_BARLINEuIGHT_REPEAT_SIGNpNFORZANDOlSCANDICUSa_FLEXUSpEGNOdMIBREVIS_BLACKfRESTeWHITEmM
  INIMA_BLACKfRESTeWHITEpHARP_DOWNeUPgORT_BARLINEmINGLE_BARLINEmX-LINE_STAFFkSTRING_FRETBOARDrTEENTH
  _NOTEeRESTkY-FOURTH_NOTEeRESTqORIdQUARE_BbNOTEHEAD_BLACKfWHITEuUBITOgTEMPUS_IMPERFECTUM_CUM_PROLAT
  IONE_IMPERFECTAa_DIMINUTION-1b2b3xPERFECTAzkPERFECTUM_CUM_PROLATIONE_IMPERFECTAkPERFECTAa_DIMINUTI
  ON-1zzcHIRTY-SECOND_NOTEeRESTqREE-LINE_STAFFpORCULUSa_RESUPINUSrRaIANGLE_NOTEHEAD_DOWN_BLACKfWHITE
  kLEFT_BLACKfWHITEkRIGHT_BLACKfWHITElUP_BLACKfRIGHT_BLACKfWHITElWHITEs-ROUND_NOTEHEAD_DOWN_BLACKfWH
  ITEziURNa_SLASHfUPgWO-LINE_STAFFoVIRGAeOID_NOTEHEADnWHOLE_NOTEeRESTjITH_FINGERNAILSqX_NOTEHEADkZpV
  ScWbYANMAR_CONSONANT_SIGN_MEDIAL_HAcRAcWAcYAiON_MEDIAL_LAcMAcNAnSHAN_MEDIAL_WAzeDIGIT_EIGHTfFIVEdO
  UReNINEeONEdSEVENeIXdTHREEeWOdZEROkLETTER_AaITON_RAhUcBAbHAdCAbHAdDAbDAbHAdHAdEaASTERN_PWO_KAREN_G
  HWAeNNAdYWAvGAbHAcREAT_SAiHAcIaIcJAbHAdKAbHAaMTI_CAbHAdDDAbHAdHAdFAcGAcHAbHAdJAbHAdLLAdNAbYAdRAcSA
  cTTAbHAeXAcZAjLAbLAdMAbON_BBAbEdEbJHAdNGAhNAbGAcNAbYAdYAdObPAbHAdRAbUMAI_PALAUNG_FAqSAbGAW_KAREN_S
  HAnHAaN_AbBAbHAdCAbHAdDAcFAcGAbHAdHAcJHAdKAbHAdNAbNAcYAdPHAdTHAdZAfWE_PALAUNG_CHAdSHApSAdTAaI_LAIN
  G_BAbHAdDAbDAbHAdHAdFAcGAbHAdJAbHAdLLAdNNAcYAmHAcTAbHAeUaUcVOCALIC_LaLcRaRkWAbESTERN_PWO_KAREN_PWA
  dTHAvYAiOGOGRAM_KHAMTI_HMcOAYdQNsMODIFIER_LETTER_KHAMTI_REDUPLICATIONuSHAN_REDUPLICATIONzjSHAN_DIG
  IT_EIGHTfFIVEdOUReNINEeONEdSEVENeIXdTHREEeWOdZEROoIGN_ANUSVARAhSATeDOT_BELOWjKHAMTI_TONE-1b3nLITTL
  E_SECTIONoPAO_KAREN_TONEoRUMAI_PALAUNG_TONE-5uSECTIONgHAN_COUNCIL_EMPHATIC_TONEnTONE-2b3oSAWdTONE-
  2b3b5b6lTAI_LAING_TONE-2b5qVIRAMAeSARGAhWESTERN_PWO_KAREN_TONE-1b2b3b4b5zdYMBOL_AFOREMENTIONEDnITO
  N_EXCLAMATIONlONEdTWOjCOMPLETEDjGENITIVEiLOCATIVEiSHAN_EXCLAMATIONlONEpTAI_LAING_DIGIT_EIGHTfFIVEd
  OUReNINEeONEdSEVENeIXdTHREEeWOdZEROtONE_MARK_SGAW_KAREN_HATHIfKE_PHOzcVOWEL_SIGN_AAbIaTON_AaIiEa_A
  BOVEhGEBA_KAREN_ImIaIcKAYAH_EEcOEcUhMON_IIcOfSGAW_KAREN_EUmHAN_AAcEa_ABOVEhFINAL_YmTALL_AAhUaUcVOC
  ALIC_LaLcRaRkWESTERN_PWO_KAREN_EUcUEzoN-ARY_CIRCLED_DOT_OPERATORmPLUS_OPERATORnTIMES_OPERATORvOPRO
  DUCTjINTERSECTIONmLOGICAL_ANDdORkPRODUCThSQUARE_INTERSECTION_OPERATORvUNION_OPERATORuUMMATIONjTIME
  S_OPERATORoUNIONa_OPERATOR_WITH_DOTdPLUSyWHITE_VERTICAL_BARxABATAEAN_CRUCIFORM_NUMBER_FOURvLETTER_
  ALEPHeYINeBETHeDALETHgFINAL_ALEPHfBETHeHEcKAPHeLAMEDHgMEMdNUNdSHINeYODHkGIMELfHEaTHeKAPHeLAMEDHgME
  MdNUNdPEcQOPHeRESHeSADHEdMEKHfHINeTAWcETHeWAWdYODHeZAYINmNUMBER_FIVEdOUReONEa_HUNDREDlTENcHREEeWEN
  TYeOrLAdIL_POLISHiRA_SIGNiKbME_BADGEiNDaINAGARI_HEADSTROKEkLETTER_AaAbIbUcBAbHAdCAbHAdDAbDAbHAdHAd
  EbGAbHAdHAcIaIcJAbHAdKAbHAdLAbLAdMAcNAbGAcNAcYAdObPAbHAdRAbRAdSAbHAcSAdTAbHAcTAbHAeUaUcVAbOCALIC_R
  aRkYAjSIGN_ANUSVARAhVAGRAHAiSIDDHAMhVIRAMAeSARGAmVOWEL_SIGN_AAbIbUcEbIaIcObPRISHTHAMATRA_EpUaUcVOC
  ALIC_RaRzgRROW_NO-BREAK_SPACEtTIONAL_DIGIT_SHAPESmPARKlUSEATED_FACEmZAR_AMULETlBHbSPdECKTIEfGATED_
  DOUBLE_VERTICAL_BAR_DOUBLE_RIGHT_TURNSTILEzuIVE_ACKNOWLEDGElCIRCLED_DIGIT_ZEROkLATIN_CAPITAL_LETTE
  R_AbBbCbDbEbFbGbHbIbJbKbLbMbNbObPbQbRbSbTbUbVbWbXbYbZwNUMBER_EIGHTEENhLEVENgFIFTEENgOURTEENiNINETE
  ENiSEVENTEENiIXTEENhTHIRTEENhWELVEdNTYnSQUAREgTRIANGLEqDIAGONAL_CROSSfDIAMONDhMIDDLE_RIGHT_TO_LOWE
  R_CENTREzmSQUARED_ABcCROSS_MARKkICcLATIN_CAPITAL_LETTER_AbBbCbDbEbFbGbHbIbJbKbLbMbNbObPbQbRbSbTbUb
  VbWbXbYbZwPAcQUESTION_MARKnSAcWCrITHER_A_SUBSET_OF_NOR_EQUAL_TOuPERSET_OF_NOR_EQUAL_TOzPPROXIMATEL
  Y_NOR_ACTUALLY_EQUAL_TOzkGREATER-THAN_NOR_EQUAL_TOfIVALENT_TOnLESS-THANzbLESS-THAN_NOR_EQUAL_TOfIV
  ALENT_TOnGREATER-THANzhLbPTUNEa_FORM_TWOoRD_FACEhSSUSdT_WITH_EGGSkING_DOLLSlUTERcRAL_CHESS_BISHOPa
  _ROTATED_NINETY_DEGREESoTWO_HUNDRED_SEVENTY_DEGREESzrEQUIHOPPERa_ROTATED_NINETY_DEGREESziKINGa_ROT
  ATED_NINETY_DEGREESoTWO_HUNDRED_SEVENTY_DEGREESzoNIGHTa_ROTATED_FORTY-FIVE_DEGREESsNINETY_DEGREESo
  ONE_HUNDRED_THIRTY-FIVE_DEGREESzgTHREE_HUNDRED_FIFTEEN_DEGREESzdWO_HUNDRED_SEVENTY_DEGREESpTWENTY-
  FIVE_DEGREESzvPAWNa_ROTATED_NINETY_DEGREESoTWO_HUNDRED_SEVENTY_DEGREESzpQUEENa_ROTATED_NINETY_DEGR
  EESoTWO_HUNDRED_SEVENTY_DEGREESzqROOKa_ROTATED_NINETY_DEGREESoTWO_HUNDRED_SEVENTY_DEGREESzpTURNED_
  BISHOPgKINGdNIGHTgPAWNeQUEENfROOKrFACEkW_LINEeMOON_SYMBOLgWITH_FACEoSHEQEL_SIGNlTAI_LUE_DIGIT_EIGH
  TfFIVEdOUReNINEeONEdSEVENeIXdTHREEeWOdZEROkLETTER_FINAL_BbDbKbMbNaGcVhHIGH_BAcDAcFAcHAcKAbVAdLAcMA
  cNAbGAdPAbHAdQAcSAbUAdTAbHAcSAdVAcXAbVAdYAhLOW_BAcDAcFAcHAcKAbVAdLAcMAcNAbGAdPAbHAdQAcSAbUAdTAbHAc
  SAdVAcXAbVAdYAnSIGN_LAEaVjTHAM_DIGIT_ONEnONE_MARK-1b2lVOWEL_SIGN_AAaYcEbYcEbIIbYcOaAaYcYcUaEaYcUbY
  cVOWEL_SHORTENERzkA_ABBREVIATION_SIGNrCOMMAfDANDAeIGIT_EIGHTfFIVEdOUReNINEeONEdSEVENeIXdTHREEeWOdZ
  EROjOUBLE_COMMAfDANDAmGAP_FILLERkINSERTION_SIGNoLETTER_AaAbIbUcBAbHAdCAbHAdDAbDAbHAdHAdEbGAbHAdHAc
  IaIcJAbHAdKAbHAdLAbHAdMAbHAdNAbGAbHAdHAcNAcYAbHAeObPAbHAdRAbHAdSAbHAcSAdTAbHAcTAbHAeUaUcVEDIC_ANUS
  VARAnOCALIC_LaLcRaRkWAcYAjOMcPLACEHOLDER_MARKqSANDHI_MARKkIDDHIeGN_ANUSVARAhVAGRAHAiCANDRABINDUlFI
  NAL_ANUSVARAoJIHVAMULIYAlNUKTAfUPADHMANIYAlVIRAMAeSARGAmVOWEL_SIGN_AAbIbUcEbIaIcObUaUcVOCALIC_LaLc
  RaRxLINE_LEFTeRIGHTkSPAPERhXT_LINEePAGEiIGHT_WITH_STARSoNJAeKO_COMBINING_DOUBLE_DOT_ABOVEqLONG_DES
  CENDING_TONEpHIGH_TONEjLOW_TONEiRISING_TONEqNASALIZATION_MARKrSHORT_HIGH_TONEjLOW_TONEiRISING_TONE
  yMAfDANTAYALANjIGIT_EIGHTfFIVEdOUReNINEeONEdSEVENeIXdTHREEeWOdZEROjOROME_SIGNlEXCLAMATION_MARKqHIG
  H_TONE_APOSTROPHEuLAJANYALANjETTER_AbBAcCHAdDAaGBASINNAkEaEcFAcGBAdHAcIbJAbONA_CHAdJAcRAhKAcLAcMAc
  NaAa_WOLOSOiYAa_WOLOSOkOaOcPAcRAbRAdSAcTAcUbWAcYAiOW_TONE_APOSTROPHEtSYMBOL_GBAKURUNENkOO_DENNENqT
  AMAN_SIGNnLbNBSPeO_BICYCLEShREAK_HEREkENTRYa_SIGNkMOBILE_PHONESnONE_UNDER_EIGHTEEN_SYMBOLzPEDESTRI
  ANSkIRACYgSMOKING_SYMBOLp-BREAK_SPACEmMINAL_DIGIT_SHAPESqSMA_SIGNkN-BREAKING_HYPHENpPOTABLE_WATER_
  SYMBOLvFORKINGiRaDIC_MARK_SIGNnMAL_SUBGROUP_OFa_OR_EQUAL_TOzcTH_EAST_AND_SOUTH_WEST_ARROWtRROWa_AN
  D_SOUTH_EAST_ARROWuCROSSING_NORTH_WEST_ARROWqSOUTH_EAST_ARROWzWITH_HOOKpBLACK_ARROWlDOUBLE_ARROWmP
  OINTING_BUDdLEAFeVINE_LEAFsSANS-SERIF_ARROWqTRIANGLE-HEADED_ARROWa_TO_BARzdWHITE_ARROWqINDIC_FRACT
  ION_ONE_EIGHTHgHALFeQUARTERhSIXTEENTHnTHREE_QUARTERSiSIXTEENTHSzPLACEHOLDER_MARKqQUANTITY_MARKkRTE
  R_MARKmRUPEE_MARKqWEST_AND_SOUTH_EAST_ARROWtRROWa_AND_NORTH_EAST_ARROWuCROSSING_NORTH_EAST_ARROWzT
  O_CORNERgLONG_BARlWITH_HOOKpBLACK_ARROWlDOUBLE_ARROWmPOINTING_BUDdLEAFeVINE_LEAFsSANS-SERIF_ARROWq
  TRIANGLE-HEADED_ARROWa_TO_BARzdWHITE_ARROWrEAST-POINTING_AIRPLANEzSEcT_A_SUBSET_OFhPERSET_OFmLMOST
  _EQUAL_TOoN_ELEMENT_OFmSYMPTOTICALLY_EQUAL_TOxCHECK_MARKkEQUAL_TOfIVALENT_TOnGREATER-THANmIDENTICA
  L_TOmLESS-THANjNORMAL_SUBGROUP_OFa_OR_EQUAL_TOzfPARALLEL_TOlSIGNdQUARE_IMAGE_OF_OR_EQUAL_TOuORIGIN
  AL_OF_OR_EQUAL_TOzfTILDEeRUEfCHED_LEFT_SEMICIRCLE_WITH_THREE_DOTSzfOWER_RIGHT-SHADOWED_WHITE_RIGHT
  WARDS_ARROWzsRIGHT_SEMICIRCLE_WITH_THREE_DOTSzhUPPER_RIGHT-SHADOWED_WHITE_RIGHTWARDS_ARROWzxEa_PAD
  bGEfBOOKa_WITH_DECORATIVE_COVERzeULaLcMBER_EIGHTEEN_FULL_STOPrLEVEN_FULL_STOPqFIFTEEN_FULL_STOPqOU
  RTEEN_FULL_STOPsNINETEEN_FULL_STOPsSEVENTEEN_FULL_STOPsIGNcXTEEN_FULL_STOPrTEN_FULL_STOPmHIRTEEN_F
  ULL_STOPrWELVE_FULL_STOPnNTY_FULL_STOPuERO_SIGNjSHU_CHARACTER-1B170b1b2b3b4b5b6b7b8b9bAbBbCbDbEbFc
  80b1b2b3b4b5b6b7b8b9bAbBbCbDbEbFc90b1b2b3b4b5b6b7b8b9bAbBbCbDbEbFcA0b1b2b3b4b5b6b7b8b9bAbBbCbDbEbF
  cB0b1b2b3b4b5b6b7b8b9bAbBbCbDbEbFcC0b1b2b3b4b5b6b7b8b9bAbBbCbDbEbFcD0b1b2b3b4b5b6b7b8b9bAbBbCbDbEb
  FcE0b1b2b3b4b5b6b7b8b9bAbBbCbDbEbFcF0b1b2b3b4b5b6b7b8b9bAbBbCbDbEbFd200b1b2b3b4b5b6b7b8b9bAbBbCbDb
  EbFc10b1b2b3b4b5b6b7b8b9bAbBbCbDbEbFc20b1b2b3b4b5b6b7b8b9bAbBbCbDbEbFc30b1b2b3b4b5b6b7b8b9bAbBbCbD
  bEbFc40b1b2b3b4b5b6b7b8b9bAbBbCbDbEbFc50b1b2b3b4b5b6b7b8b9bAbBbCbDbEbFc60b1b2b3b4b5b6b7b8b9bAbBbCb
  DbEbFc70b1b2b3b4b5b6b7b8b9bAbBbCbDbEbFc80b1b2b3b4b5b6b7b8b9bAbBbCbDbEbFc90b1b2b3b4b5b6b7b8b9bAbBbC
  bDbEbFcA0b1b2b3b4b5b6b7b8b9bAbBbCbDbEbFcB0b1b2b3b4b5b6b7b8b9bAbBbCbDbEbFcC0b1b2b3b4b5b6b7b8b9bAbBb
  CbDbEbFcD0b1b2b3b4b5b6b7b8b9bAbBbCbDbEbFcE0b1b2b3b4b5b6b7b8b9bAbBbCbDbEbFcF0b1b2b3b4b5b6b7b8b9bAbB
  pITERATION_MARKsT_AND_BOLTlYIAKENG_PUACHUE_HMONG_CIRCLED_CAkDIGIT_EIGHTfFIVEdOUReNINEeONEdSEVENeIX
  dTHREEeWOdZEROkLETTER_AaAcCAcDAbLAdEaEcFAcGAcHAaHdIbKAcLAcMAbLAdNAbCAcKAcPAbLAdQAcRAcTAbSAcXAdYAdO
  aOcPAbLAdQAcRAbRAdSAcTAbSAcXAdUbVAcWbXAbYAdYAcZAiOGOGRAM_NYAJnSIGN_FOR_ANIMALgINVERTEBRATEmLOCATIO
  NiPERSONgTHINGjXW_XWjYLLABLE_LENGTHENERtTONE-BbDbGbJbMbSbVzeOBJECT_REPLACEMENT_CHARACTERzbLIQUE_AN
  GLE_OPENING_DOWNeUPqHYPHENmSERVER_EYE_SYMBOLsCR_AMOUNT_OF_CHECKpBELT_BUCKLEkOW_TIEgRANCH_BANK_IDEN
  TIFICATIONzbCHAIReUSTOMER_ACCOUNT_NUMBERxDASHdOUBLE_BACKSLASHqFORKeHOOKeINVERTED_FORKpTAGONAL_SIGN
  lOPUSgDENdFFICE_BUILDINGoGHAM_FEATHER_MARKmLETTER_AILMeBEITHfCEIRTeOLLeDAIReEABHADHfDHADHfMHANCHOL
  LlFEARNfGORTeIFINdODHADHhLUISeMUINeNGEADALgIONeONNcRcPEITHfRUISeSAILdTRAIFgTINNEfUATHdILLEANNhRjRE
  VERSED_FEATHER_MARKvSPACE_MARKoONEKfHM_SIGNhIL_DRUMhK_HAND_SIGNlL_CHIKI_AHADeDIGIT_EIGHTfFIVEdOURe
  NINEeONEdSEVENeIXdTHREEeWOdZEROkGAAHLAA_TTUDDAAGqLETTER_AAJbKbMbWcGbLbNGcTcEDDcNbPbRRdIHbNYcRbScLA
  aAcEbIbObUcOBbHbTTcVcUCbDbNNcYjMU_TTUDDAGi-GAAHLAA_TTUDDAAGtPHAARKAAhUNCTUATION_DOUBLE_MUCAADnMUCA
  ADsRELAAmD_CHINESE_HOOK_MARKjITERATION_MARKwHUNGARIAN_CAPITAL_LETTER_AaAbKbMBcNDdCLOSE_EhEaBbCaHbS
  cDbEbFbGaYcHbJbKbLaYcMaPcNaCbTa-SHAPED_SIGNnYcPbRbSaZcTaYcVbZaSdIaIcNIKOLSBURG_OEcUEnOaEEcOcRUDIME
  NTA_OEcUEmSHORT_ERiUaNKcSbUrNUMBER_FIFTYdVEeONEa_HUNDREDhTHOUSANDmTENkSMALL_LETTER_AaAbKbMBcNDdCLO
  SE_EhEaBbCaHbScDbEbFbGaYcHbJbKbLaYcMaPcNaCbTa-SHAPED_SIGNnYcPbRbSaZcTaYcVbZaSdIaIcNIKOLSBURG_OEcUE
  nOaEEcOcRUDIMENTA_OEcUEmSHORT_ERiUaNKcSbUzITALIC_LETTER_AbBEcCHEdDEcEaFbKScLbMbNbRaScSaHbSdHEcIaIc
  KAbEbHEcUcNORTHERN_TSEmObPEbHEdSHEcOUTHERN_TSEmTEbHEdUaUcVEcYEcZEjNUMERAL_FIFTYdVEeONEdTENsKEYdNOR
  TH_ARABIAN_LETTER_AINcLEFeBEHdDADbLdES-1b2b3eFEHdGEEMdHAINfHAHcEHdKAFcHAHeLAMdMEEMeNOONeQAFdREHdSA
  DdTAHcEHcHALcEHeWAWdYEHdZAHbINlNUMBER_ONEdTENcWENTYzcPERMIC_LETTER_ANcBURdCHERYfDOIcZHOIdITAfEaFcG
  AIdHAcIaAbEcKOKEeLEIdMENOEfNENOEfOaOcPEEIeREIdSHCHOOIfOOIeIIdTAIcSIUeUbVERcOOIeYAaTcERaIbUdRYcUcZA
  TAdHOIpSIAN_NUMBER_HUNDREDhONEdTENcWENTYeOkSIGN_AaURAMAZDAAa-2cHAmBAaGAdUUMISHhCAcDAaHYAAUSHa-2kIb
  UcFAcGAbUcHAcIbJAbIcKAbUcLAcMAbIbUcNAbUcPAcRAbUcSAbHAcSAdTAbHAcUcUbVAbIcXAbSHAAYATHIYAmYAcZAhWORD_
  DIVIDERqONAL_COMPUTERrSOGDIAN_FRACTION_ONE_HALFrLETTER_ALEPHdTERNATE_AYINnYINeBETHeFINAL_ALEPHfBET
  HeHEcNUNa_WITH_VERTICAL_TAILwSADHEa_WITH_VERTICAL_TAILyTAWa_WITH_VERTICAL_TAILzdGIMELfHEaTHeKAPHeL
  AMEDHgMEMdNUNdPEcRESH-AYIN-DALETHqSADHEdMEKHfHINeTAWdWAWdYODHeZAYINlIGATURE_AYIN-DALETHuNUMBER_FIV
  EdOUReONEa_HUNDREDlTENcHIRTYeREEeWENTYeOqUTH_ARABIAN_LETTER_ALEFdYNdBETHeDALETHfHADHEdLETHhFEcGHAY
  NeIMELfHEaTHeKAPHdHETHfLAMEDHgMEMdNUNdQOPHeRESHeSADHEdMEKHeTcHINeTAWcETHdHAWcETHfWAWdYODHeZAYNlNUM
  BER_FIFTYfONEhERIC_INDICATORzgTURKIC_LETTER_ORKHON_AaBbDbEBbDbGbKbLbNbRbSbTbYcGbLbNbQbRbSaHcTbYcBA
  SHeECbLTcMbNCbGbTbYcPbSHcZcIaCbQcOaEaKcPbQbTjYENISEI_AaBbDbEaBbGbKbNaGcTbYcGbLbNGcQbRbSHcTbYcEaCbN
  CbTbYcSHcZcIaQcOEaKcQyUYGHUR_COMBINING_DOT_ABOVEfBELOWjTWO_DOTS_ABOVEfBELOWyLETTER_ALEPHfBETHeFINA
  L_HETHkGIMEL-HETHkKAPHeLAMEDHfESHeMEMdNUNdPEcRESHeSADHEdMEKHfHINeTAWdWAWdYODHeZAYINmPUNCTUATION_BA
  RdFOUR_DOTSjTWO_BARSeDOTSzdER_ADULTfMANdWOMANjIVEeM_SYMBOLiN_WITH_EXCLAMATION_MARK_WITH_LEFT_RIGHT
  _ARROW_ABOVEzzCOMING_AUTOMOBILEkBUSdFIRE_ENGINElPOLICE_CARkTAXIlE_BUTTON_MOUSEmDOT_LEADERgOVER_TWO
  _DOTS_PUNCTUATIONzf-PIECE_SWIMSUITqIONePEN_BOOKcXdCENTRE_ASTERISKiBLACK_STARkCROSSfTEARDROP-SPOKED
  _ASTERISKzgFILE_FOLDERkOLDERgHANDS_SIGNkLOCKeMAILBOX_WITH_LOWERED_FLAGmRAISED_FLAGySUBSETePERSETj-
  CIRCUIT-OUTPUT_H-TYPE_SYMBOLnL-TYPE_SYMBOLzdOUTLINED_RIGHTWARDS_ARROWzcRATING_SYSTEM_COMMANDwHIUCH
  UShPOSITIONiTICAL_DISCa_ICONnON_KEYjR_WITH_DOT_INSIDEqANGE_BOOKeHEARThUTANhIGINAL_OFiYA_AI_LENGTH_
  MARKnU_LENGTH_MARKoDIGIT_EIGHTfFIVEdOUReNINEeONEdSEVENeIXdTHREEeWOdZEROkFRACTION_ONE_EIGHTHgHALFeQ
  UARTERhSIXTEENTHnTHREE_QUARTERSiSIXTEENTHSzISSHARgLETTER_AaAbIbUcBAbHAdCAbHAdDAbDAbHAdHAdEbGAbHAdH
  AcIaIcJAbHAdKAbHAdLAbLAdMAcNAbGAcNAcYAdObPAbHAdRAbHAcRAdSAbHAcSAdTAbHAcTAbHAeUaUcVAbOCALIC_LaLcRaR
  kWAcYAbYAkSIGN_ANUSVARAhVAGRAHAiCANDRABINDUlNUKTAfOVERLINEiVIRAMAeSARGAmVOWEL_SIGN_AAbIbUcEbIaIcOb
  UaUcVOCALIC_LaLcRaRzNATE_LEFT_PARENTHESISqRIGHT_PARENTHESISwTHODOX_CROSSnSAGE_CAPITAL_LETTER_AaHbI
  aNdBRAdCHAdDHAdEaHCHAdKAcPAcTAbSAeINdGHAdHAbYAdIbKAbHAcYAdLAcMAcNAcOaINdPAcSAbHAdTAbSAbHAeUbWAcZAb
  HAsSMALL_LETTER_AaHbIaNdBRAdCHAdDHAdEaHCHAdKAcPAcTAbSAeINdGHAdHAbYAdIbKAbHAcYAdLAcMAcNAcOaINdPAcSA
  bHAdTAbSAbHAeUbWAcZAbHAuCbMANYA_DIGIT_EIGHTfFIVEdOUReNINEeONEdSEVENeIXdTHREEeWOdZEROkLETTER_AaAbLE
  FeBAcCAYNeDEELdHAdEaEcFAcGAcHAcIbJAcKAAFdHAdLAANeMIINeNUUNeOaOcQAAFeRAcSAbHIINfTAcUbWAWdXAcYAqTTER
  cOMAN_SIYAQ_ALTERNATE_NUMBER_EIGHTfFIVEdOURa_HUNDREDmNINEeSEVENeIXa_HUNDREDlTENa_THOUSANDlHREEeWOa
  _THOUSANDzeFRACTION_ONE_HALFeSIXTHsMARRATANiNUMBER_EIGHTa_HUNDREDhTHOUSANDjYa_THOUSANDpFIFTYa_THOU
  SANDmVEa_HUNDREDhTHOUSANDmORTYa_THOUSANDmURa_HUNDREDhTHOUSANDnNINEa_HUNDREDhTHOUSANDjTYa_THOUSANDp
  ONEa_HUNDREDhTHOUSANDmSEVENa_HUNDREDhTHOUSANDjTYa_THOUSANDpIXa_HUNDREDhTHOUSANDjTYa_THOUSANDoTENa_
  THOUSANDlHIRTYa_THOUSANDnREEa_HUNDREDhTHOUSANDnWENTYa_THOUSANDnOa_HUNDREDhTHOUSANDzhUNCE_SIGNiTBOX
  _TRAYiLINED_BLACK_STARkGREEK_CROSSlLATIN_CROSSlWHITE_STARsVERHEATED_FACElLAPaPING_BLACK_SQUARESnWH
  ITE_AND_BLACK_SQUARESrSQUARESuINEhWLcXbYSTERgPACKAGEfDaDING_CHARACTERpGEa_FACING_UPjWITH_CIRCLED_T
  EXTlURLkRbScODAeHAWH_HMONG_CLAN_SIGN_FAJdHAMbWJeKHABdOOcWMdLAUJdISdMUASePHABeTHOJdSABcHEEJeWBeVAJc
  WJdXYOOJfYAJcEEGnONSONANT_AUcCAUcHAUeHAUcLAUdNAUeLAUdMAUdNAUcCHAUeKAUdLAUdTHAUdSAUfPLHAUfQHAUeRAUd
  VAUdXAUdYAUnDIGIT_EIGHTfFIVEdOUReNINEeONEdSEVENeIXdTHREEeWOdZEROkMARK_CIM_HOMdKEScHAVeSObUAMeTAUMd
  UBmNUMBER_HUNDRED_MILLIONSjSiMILLIONSiTEN_BILLIONSiTHOUSANDSkSdRILLIONSqSIGN_AVcCIM_CHEEMeUAM_TSHO
  OJlHAIS_LUS_NTOG_NTOGsNRES_TOSiPUB_DAWBiTSOV_ROGhXWVa_CHWVnHLIcNUBeIB_YAMgLOSdMEEJ_SUABeTSEEBjUSdN
  QIGdTUJeTAUcHIRD-STAGE_HLIoXHEEJ_CEEVlVOS_FEEMeLUBdNRUAeSEEVeTHIABdOMdSHAB_CEEBoXAUSdIABdYEEM_FAIB
  eNTXIVfRHOdTOVhOOeZWJ_THAJnVOWEL_KAABbVcBbIBbVcUBbVcVbWBbVdEBbEBbVcVcIABbVcBbVcOBbOBbVcVcUABbVcBbV
  cWBbVuLLASdM_BRANCHgDOWN_HANDjTREEeUP_HANDiS_UP_TOGETHERnYRENE_LEFT-POINTING_FLEURONtTTER_ALEPHeYI
  NeBETHeDALETHgFINAL_NUNjGIMELfHEaTHeKAPHeLAMEDHgMEMdNUNdPEcQOPHeRESHeSADHEdMEKHfHINeTAWcETHeWAWdYO
  DHeZAYINmNUMBER_FIVEdOUReONEdTENcHREEeWENTYeOkRIGHT-POINTING_FLEURONzfNCAKESfDA_FACEiPERCLIPhRACHU
  TEfGRAPH_SEPARATORkOScUS_MARKmLLEL_TOcWITH_HORIZONTAL_STROKErTILDE_OPERATORzENTHESIZED_DIGIT_EIGHT
  fFIVEdOUReNINEeONEdSEVENeIXdTHREEeWOjHANGUL_CHIEUCHa_AiIEUCa_AbUhHIEUHa_AhIEUNGa_AhKHIEUKHa_AiIYEO
  Ka_AiMIEUMa_AhNIEUNa_AhPHIEUPHa_AiIEUPa_AhRIEULa_AhSIOSa_AgTHIEUTHa_AiIKEUTa_ApIDEOGRAPH_ALLIANCEi
  CALLdONGRATULATIONoEARTHeIGHTeNTERPRISEkFESTIVALhINANCIALhREcVEdOUReHAVEeLABORfMETALeOONeNAMEdINEe
  ONEdREACHdPRESENThSOURCEfTeSELFcVENeIXcOCIETYgPECIALgTOCKdUDYeUNbPERVISEjTENcHREEeWOdWATEReOODoKOR
  EAN_CHARACTER_O_HUdJEONwLATIN_CAPITAL_LETTER_AbBbCbDbEbFbGbHbIbJbKbLbMbNbObPbQbRbSbTbUbVbWbXbYbZqS
  MALL_LETTER_AbBbCbDbEbFbGbHbIbJbKbLbMbNbObPbQbRbSbTbUbVbWbXbYbZuNUMBER_EIGHTEENhLEVENgFIFTEENgOURT
  EENiNINETEENiSEVENTEENiIXTEENhTENcHIRTEENhWELVEdNTYyROTdT_ALTERNATION_MARKrIAL_DIFFERENTIALmLINE_B
  ACKWARDiDOWNeFORWARDhUPiLY-RECYCLED_PAPER_SYMBOLzcNERSHIP_SIGNmY_POPPERkSSED_SYMBOLiNGER_SHIPkIVE-
  PULL-DOWN-OUTPUT_SYMBOLsUP-OUTPUT_SYMBOLzPORT_CONTROLoU_CIN_HAU_GLOTTAL_STOPa_FINALfVARIANTuLETTER
  _AbBAcCAbHAdDAcEbFAbINAL_KbLbMbNaGcPbTbWbYhGAcHAcIaAcKAbHAdLAcMAcNAbGAdObPAbHAdRAcSAcTAbHAdUaAcVAc
  ZAiOW-FALLING_TONEa_FINALfLONGa_FINALzcMID-LEVEL_TONEa_FINALfLONG_FINALzRISING_TONEa_FINALfLONGa_F
  INALwSANDHI_GLOTTAL_STOPa_FINALsTONEa_FINALfLONGa_FINALzhW_PRINTSjDFbIcEACE_SYMBOLiHbOCKeNUTSeRcDE
  STRIANiN_OVER_STAMPED_ENVELOPEwCILdGUINeSIVE_FACEjTAGRAMhOPLE_HUGGINGmR_MILLE_SIGNkSIGNeTEN_THOUSA
  ND_SIGNsCENT_SIGNjFORMING_ARTSmMANENT_PAPER_SIGNrPENDICULARa_WITH_SrSEVERING_FACEmON_BOWING_DEEPLY
  nCLIMBINGiDOING_CARTWHEELpFROWNINGiIN_LOTUS_POSITIONoSTEAMY_ROOMoRAISING_BOTH_HANDS_IN_CELEBRATION
  ziWITH_BALLdLOND_HAIRkCROWNfFOLDED_HANDSmHEADSCARFjPOUTING_FACEsAL_COMPUTERnPECTIVEjSETA_SIGNiO_SI
  GNhTRI_DISHjHAGS-PA_DOUBLE_HEAD_MARKqLETTER_AaLTERNATE_YAlSPIRATED_FAmBAcCAaNDRABINDUkHAdDAbDAcZAd
  EaEcFAcGAbGAdHAcIbJAcKAbHAdLAcMAcNAbGAcNAcYAdObPAbHAdQAcRAcSAbHAcMALL_AhTAbHAcSAbHAdTAbHAeUbVOICED
  _HAeLESS_SHAnWAcXAcYAcZAbHAkMARK_DOUBLE_SHADlSHADjSINGLE_HEAD_MARKpUBJOINED_LETTER_RAcWAcYArPERFIX
  ED_LETTER_RAzbISTOS_DISC_SIGN_ARROWfBEEaHIVEgOOMERANGhWcULLS_LEGjCAPTIVEfRPENTRY_PLANEnTcHILDeLUBd
  OLUMNeMBaINING_OBLIQUE_STROKEyDOLIUMeVEeEAGLEfFLUTEfGAUNTLEThRATERgHELMETfIDEdORNeLIDbLYeMANACLESg
  TTOCKhOX_BACKhPAPYRUSgEDESTRIANjLANE_TREEiUMED_HEADlRAMcOSETTEhSAWcHIELDdPdLINGeMALL_AXEiTRAINERiT
  ATTOOED_HEADmIARAeUNNYfVINEeWAVY_BANDiOMANwILIPPINE_DOUBLE_PUNCTUATIONsSINGLE_PUNCTUATIONzcOENICIA
  N_LETTER_AINcLFdBETdDELTeGAMLeHEaTdKAFdLAMDeMEMdNUNdPEcQOFdROSHeSADEdEMKdHINeTAUcETdWAUdYODdZAIkNU
  MBER_ONEa_HUNDREDlTENcHREEeWENTYeOkWORD_SEPARATORwLUSfICKaUP_TRUCKkEbGa_FACEeNOSEgLCROW_SIGNjE_OF_
  POOiLcNATAdCHED_FINGERSkING_HANDkE_DECORATIONlAPPLEgWHEEL_STARlSCESdTOLeTCHFORKa_WITH_TEE_TOPvLACA
  RDdE_OF_INTEREST_SIGNnWORSHIPnNCK_CONSTANTa_OVER_TWO_PIyYGROUND_SLIDEmING_CARD_ACE_OF_CLUBSfDIAMON
  DSiHEARTSgSPADESnBACKdLACK_JOKERlEIGHT_OF_CLUBSfDIAMONDSiHEARTSgSPADESpFIVE_OF_CLUBSfDIAMONDSiHEAR
  TSgSPADESnOOLcUR_OF_CLUBSfDIAMONDSiHEARTSgSPADESoJACK_OF_CLUBSfDIAMONDSiHEARTSgSPADESoKING_OF_CLUB
  SfDIAMONDSiHEARTSgSPADESnNIGHT_OF_CLUBSfDIAMONDSiHEARTSgSPADESqNINE_OF_CLUBSfDIAMONDSiHEARTSgSPADE
  SoQUEEN_OF_CLUBSfDIAMONDSiHEARTSgSPADESpRED_JOKERjSEVEN_OF_CLUBSfDIAMONDSiHEARTSgSPADESoIX_OF_CLUB
  SfDIAMONDSiHEARTSgSPADESnTEN_OF_CLUBSfDIAMONDSiHEARTSgSPADESmHREE_OF_CLUBSfDIAMONDSiHEARTSgSPADESo
  RUMP-1a0b1b2b3b4b5b6b7b8b9c2a0b1c3b4b5b6b7b8b9gWO_OF_CLUBSfDIAMONDSiHEARTSgSPADESnWHITE_JOKERwDbUa
  NGEReS_SIGNa_ABOVE_EQUALS_SIGNrIN_LEFT_HALF_CIRCLEqRIGHT_HALF_CIRCLErTRIANGLElWITH_BLACK_TRIANGLEo
  CIRCUMFLEX_ACCENT_ABOVExDOT_BELOWjSMALL_CIRCLE_ABOVErUBSCRIPT_TWOnTILDE_ABOVEfBELOWw-MINUS_SIGNmTO
  a_FORM_FIVEdOUReTHREEeWOnMbOCKET_CALCULATORpLICE_CARaS_REVOLVING_LIGHTuOFFICERmODLEeP_DIRECTIONAL_
  FORMATTINGkISOLATEuCORNfRTABLE_STEREOnSEIDONfITION_INDICATORpTAL_HORNeMARKa_FACEmBOXfT_OF_FOODiABL
  E_WATER_SYMBOLqTOdTED_PLANTkUCHcLTRY_LEGiND_SIGNhRING_LIQUIDlTING_CAT_FACEiFACEkWER_ON_SYMBOLh-OFF
  _SYMBOLnSLEEP_SYMBOLlYMBOLlRAYER_BEADSkECEDESa_ABOVE_ALMOST_EQUAL_TOpEQUALS_SIGNlNOT_ALMOST_EQUAL_
  TOpEQUAL_TOmSINGLE-LINE_EQUALS_SIGNlNOT_EQUAL_TOzfBUT_NOT_EQUIVALENT_TOvOR_EQUAL_TOfIVALENT_TOqUND
  ER_RELATIONuGNANT_MANdPERSONgWOMANlSCRIPTION_TAKEnENTATION_FORM_FOR_VERTICAL_COLONdMMAfEM_DASHgN_D
  ASHgXCLAMATION_MARKqHORIZONTAL_ELLIPSIStIDEOGRAPHIC_COMMAfFULL_STOPvLEFT_ANGLE_BRACKETnBLACK_LENTI
  CULAR_BRACKETyCORNER_BRACKETnURLY_BRACKETnDOUBLE_ANGLE_BRACKETuPARENTHESISlSQUARE_BRACKEToTORTOISE
  _SHELL_BRACKETwWHITE_CORNER_BRACKEToLENTICULAR_BRACKETzdOW_LINEiQUESTION_MARKnRIGHT_ANGLE_BRACKETn
  BLACK_LENTICULAR_BRACKETyCORNER_BRACKETnURLY_BRACKETnDOUBLE_ANGLE_BRACKETuPARENTHESISlSQUARE_BRACK
  EToTORTOISE_SHELL_BRACKETwWHITE_CORNER_BRACKEToLENTICULAR_BRACKETeKCETzfSEMICOLONjTWO_DOT_LEADERoW
  AVY_LOW_LINEzqTZELeVIOUS_PAGElIMEcNCEaSSeT_SCREEN_SYMBOLoERa_ICONjVACY_MESSAGEkTE_USE_ONEdTWOe-1b2
  lOBING_CANEjHIBITED_SIGNmJECTIVEhPERTY_LINEjORTIONaAL_TOmSERPINAjSALTER_PAHLAVI_FOUR_DOTS_WITH_CRO
  SSfDOTsLETTER_ALEPHfBETHeDALETHgGIMELfHEaTHeKAPHeLAMEDHgMEM-QOPHiNUNdPEcSADHEdMEKHfHINeTAWdWAW-AYI
  N-RESHnYODHeZAYINmNUMBER_FOUReONEa_HUNDREDlTENcHREEeWENTYeOkSECTION_MARKmTURNED_SECTION_MARKzjU1b2
  bBLIC_ADDRESS_LOUDSPEAKERyNCTUATION_SPACElS_ELEVATUS_MARKtRPLE_HEARTjSEdSHPINfT_LITTER_IN_ITS_PLAC
  E_SYMBOLzfQUADRANT_LOWER_LEFTeRIGHTlUPPER_LEFTa_AND_LOWER_LEFT_AND_LOWER_RIGHTuRIGHTlUPPER_RIGHT_A
  ND_LOWER_LEFTeRIGHTzlRIGHTa_AND_LOWER_LEFTa_AND_LOWER_RIGHTzvUPLE_INTEGRAL_OPERATORrPRIMEmRTER_NOT
  EjTERNION_INTEGRAL_OPERATORzbESTION_EXCLAMATION_MARKqMARKfED_EQUAL_TOrINCUNXgOTATION_MARKoRABBITa_
  FACEjCCOONeING_CARdMOTORCYCLEpDICAL_SYMBOL_BOTTOMrOa_BUTTONhACTIVE_SIGNoILWAY_CARdTRACKkNaBOWeSED_
  BACK_OF_HANDmCOMMAfDOTaTED_INTERPOLATION_MARKERzcFISTeHANDa_WITH_FINGERS_SPLAYEDpPART_BETWEEN_MIDD
  LE_AND_RING_FINGERSzvINTERPOLATION_MARKERuMC_SIGNgD_SIGNgR_SIGNhSQUARElMbTaIOdZOReECEIPTeORD_SEPAR
  ATORnREATIONAL_VEHICLErYCLED_PAPER_SYMBOLpING_SYMBOL_FOR_GENERIC_MATERIALSrTYPE-1_PLASTICSk2_PLAST
  ICSk3_PLASTICSk4_PLASTICSk5_PLASTICSk6_PLASTICSk7_PLASTICSzjD_APPLEfGIFT_ENVELOPEpFERENCE_MARKmGIO
  NAL_INDICATOR_SYMBOL_LETTER_AbBbCbDbEbFbGbHbIbJbKbLbMbNbObPbQbRbSbTbUbVbWbXbYbZzfSTERED_SIGNnJANG_
  CONSONANT_SIGN_HbNaGcRqLETTER_AbBAcCAcDAcGAcHAcJAcKAcLAcMAbBAdNAbDAcGAbGAdYAbJAePAcRAcSAcTAcWAcYAj
  SECTION_MARKmVIRAMAfOWEL_SIGN_AIbUcEaAbUcIbObUrLIEVED_FACElMINDER_RIBBONnPLACEMENT_CHARACTERtSPONS
  EfTRICTED_LEFT_ENTRY-1b2sOOMgTURN_LEFTeRIGHTfSYMBOLlVERSE_CHECKER_BOARDnINDEXfLIGHT_FOUR_POINTED_P
  INWHEEL_STARzfNE_FEEDjSOLIDUSa_OPERATORiPRECEDING_SUBSETqWITH_HORIZONTAL_STROKEzfTILDE_OPERATOR_AB
  OVE_LEFTWARDS_ARROWpRIGHTWARDS_ARROWznD_ANGLEa_WITH_UNDERBARtCOMMAfDOUBLE_PRIMEa_QUOTATION_MARKuST
  ROKE_NOT_SIGNwEMPTY_SETjFORKED_PARAGRAPHOSsHAND_WITH_MIDDLE_FINGER_EXTENDEDzhNOT_SIGNiPILCROW_SIGN
  lRIMEfQUESTION_MARKnRAISED_HAND_WITH_FINGERS_SPLAYEDzgIGHT_ANGLEkOTATED_FLORAL_HEART_BULLETzcSANS-
  SERIF_CAPITAL_LtEMICOLONjTHUMBS_DOWN_SIGNjUP_SIGNnILDEa_EQUALSlRIPLE_PRIMEmVICTORY_HANDsOLVING_HEA
  RTSpHINOCEROSjIaAL_SIGNhBBONa_ARROW_DOWN_LEFTeRIGHTkLEFT_DOWNeUPhRIGHT_DOWNeUPiUP_LEFTeRIGHTtCE_BA
  LLeCRACKERkFLEdGHT_AND_LOWER_ONE_EIGHTH_BLOCKwUPPER_ONE_EIGHTH_BLOCKyGER_BUBBLEjLEa_BRACKETa_WITH_
  DOTqDOTTED_SUBSTITUTION_MARKERzbSUBSTITUTION_MARKERtVARIANT_WITH_SQUAREtWITH_ARCdDOWNWARDS_ZIGZAG_
  ARROWzhRC_GREATER-THAN_BRACKETwROW_WITH_CIRCLED_PLUSmSMALL_CIRCLExBLACK_LENTICULAR_BRACKETsTORTOIS
  E_SHELL_BRACKETzdCEILINGgORNER_BRACKETnURLY_BRACKETa_LOWER_HOOKkMIDDLE_PIECEmUPPER_HOOKyDOTTED_SUB
  STITUTION_BRACKETzUBLE_ANGLE_BRACKETmRROW_WITH_ROUNDED_HEADxPARENTHESISlQUOTATION_MARKoWIGGLY_FENC
  EtFISH_TAILhVE_EIGHTHS_BLOCKrLOORfHALF_BLACK_CIRCLEgSTARiOCKfFOLDERgMEDIUM_SHADEmRUNNING_MANoND_TE
  LEPHONE_RECEIVERxLOW_PARAPHRASE_BRACKETwNORMAL_FACTOR_SEMIDIRECT_PRODUCTzhONE_EIGHTH_BLOCKmQUARTER
  _BLOCKqPEN_SQUARED_DOTpUTER_JOINkPARENTHESISa_EXTENSIONjLOWER_HOOKkUPPER_HOOKwRAISED_OMISSION_BRAC
  KETxS-SHAPED_BAG_DELIMITERvEMIDIRECT_PRODUCTqVEN_EIGHTHS_BLOCKsIDEWAYS_U_BRACKETqNGLE_QUOTATION_MA
  RKuPEAKERa_WITH_ONE_SOUND_WAVEoTHREE_SOUND_WAVESzcECH_BUBBLEmQUARE_BRACKETa_EXTENSIONjLOWER_CORNER
  mUPPER_CORNERmWITH_DOUBLE_STROKEnQUILLfSTROKEgTICK_IN_BOTTOM_CORNERnTOP_CORNERsUNDERBARzcUBSTITUTI
  ON_BRACKETuTACKdHIRD_WHITE_RIGHT_POINTING_INDEXzfOUGHT_BUBBLEmREE_EIGHTHS_BLOCKnQUARTERS_BLOCKtORT
  OISE_SHELL_BRACKETvRANSPOSITION_BRACKETtIANGLEa_ABOVE_LEFT_TRIANGLEwULAR_ONE_QUARTER_BLOCKzdVERTIC
  AL_BAR_WITH_QUILLnOX_LINErWHITE_CORNER_BRACKETnURLY_BRACKETnLENTICULAR_BRACKETsPARENTHESISlSQUARE_
  BRACKEToTORTOISE_SHELL_BRACKETzcIGGLY_FENCEn-FACING_ARMENIAN_ETERNITY_SIGNwFISTeSVASTI_SIGNa_WITH_
  DOTSzdHANDED_INTERLACED_PENTAGRAMzcPOINTING_ANGLE_BRACKETnCURVED_ANGLE_BRACKETuDOUBLE_ANGLE_QUOTAT
  ION_MARKzcMAGNIFYING_GLASSzSHADED_WHITE_RIGHTWARDS_ARROWzdIDE_ARC_CLOCKWISE_ARROWyTO-LEFT_EMBEDDIN
  GjISOLATEhMARKeOVERRIDErHAND_INTERIOR_PRODUCTvWARDS_ARROWa_ABOVE_ALMOST_EQUAL_TOpREVERSE_ALMOST_EQ
  UAL_TOpTILDE_OPERATORwSHORT_LEFTWARDS_ARROWvTILDE_OPERATORtND_UPPER_AND_LOWER_ONE_EIGHTH_BLOCKzlFR
  OM_BARa_TO_BLACK_DIAMONDzOVER_LEFTWARDS_ARROWuTHROUGH_GREATER-THANmSUPERSETiXiO_BARcLACK_DIAMONDqW
  ITH_CORNER_DOWNWARDSqDOTTED_STEMjUBLE_VERTICAL_STROKEwEQUILATERAL_ARROWHEADvHOOKeLARGE_TRIANGLE_AR
  ROWHEADxOOPeMEDIUM_TRIANGLE_ARROWHEADzNOTCHED_TAILmPLUS_BELOWkSMALL_EQUILATERAL_ARROWHEADvTRIANGLE
  _ARROWHEADxTROKEgTAILa_WITH_DOUBLE_VERTICAL_STROKEwVERTICAL_STROKEyIP_DOWNWARDSjUPWARDSlVERTICAL_S
  TROKEv-TAILkBACK-TILTED_SHADOWED_WHITE_ARROWzgLACK_ARROWfCIRCLED_WHITE_ARROWyOTTOM_SHADED_WHITE_AR
  ROWzCOMPRESSED_ARROWqDASHED_ARROWlOUBLE_ARROWa_FROM_BARiWITH_STROKEgVERTICAL_STROKEv-TAILkDASH_ARR
  OWrFINGER-POST_ARROWqRONT-TILTED_SHADOWED_WHITE_ARROWziHANDcRPOON_OVER_LEFTWARDS_HARPOONwWITH_BARB
  _DOWN_ABOVE_LEFTWARDS_HARPOON_WITH_BARB_DOWNznBELOW_LONG_DASHpFROM_BARiTO_BARhWARDSjUP_ABOVE_LEFTW
  ARDS_HARPOON_WITH_BARB_UPzeONG_DASHjRIGHTWARDS_HARPOON_WITH_BARB_DOWNzoFROM_BARiTO_BARhWARDSyEAVY_
  ARROWfCOMPRESSED_ARROWwLEFT-SHADED_WHITE_ARROWxOPEN-HEADED_ARROWrPAIRED_ARROWSnQUADRUPLE_ARROWpRIG
  HT-SHADED_WHITE_ARROWxOCKETgSANS-SERIF_ARROWpQUARED_ARROWkIGGLE_ARROWoTOP_SHADED_WHITE_ARROWvRIANG
  LE_ARROWHEADk-HEADED_ARROWa_OVER_LEFTWARDS_TRIANGLE-HEADED_ARROWzlTO_BARgWITH_BOLD_SHAFTkDOUBLE_HO
  RIZONTAL_STROKErVERTICAL_STROKEwHEAVY_SHAFTlLONG_TIP_DOWNWARDSjUPWARDSqMEDIUM_SHAFTmNARROW_SHAFTmV
  ERY_HEAVY_SHAFTzcDASHED_ARROWmPAIRED_ARROWSzbPLE_ARROWfDASH_ARROWqWO_HEADED_ARROWn-HEADED_ARROW_FR
  OM_BARiWITH_DOUBLE_VERTICAL_STROKEwTAILa_WITH_DOUBLE_VERTICAL_STROKEwVERTICAL_STROKEyRIANGLE_ARROW
  HEADStVERTICAL_STROKEzbTRIPLE_DASH_ARROWzdWAVE_ARROWjHITE_ARROWa_FROM_WALLjWITHIN_TRIANGLE_ARROWHE
  ADzvNGa_ABOVEfBUOYeEQUAL_TOiIN_EQUAL_TOlOPERATORiPOINTgED_PLANETjING_BELLkSING_DIAGONAL_CROSSING_F
  ALLING_DIAGONALqSOUTH_EAST_ARROWzpLEbIbMbOcOASTED_SWEET_POTATOsBOT_FACEiCKaETeLL_OF_PAPERjED-UP_NE
  WSPAPERoR_COASTERhSKATEiING_ON_THE_FLOOR_LAUGHINGzcMAN_AS_SIGNhCENTURIAL_SIGNoDENARIUS_SIGNmIMIDIA
  _SEXTULA_SIGNtUPONDIUS_SIGNoNUMERAL_EIGHTeLEVENgFIFTYa_EARLY_FORMkTHOUSANDmVEa_HUNDREDhTHOUSANDmOU
  ReNINEeONEa_HUNDREDa_THOUSANDqTHOUSANDa_C_DqREVERSED_ONE_HUNDREDuSEVENeIXa_LATE_FORMnTENa_THOUSAND
  lHREEeWELVEeOlQUINARIUS_SIGNoSEMUNCIA_SIGNlSTERTIUS_SIGNnXTANS_SIGNiULA_SIGNlILIQUA_SIGNmUNCIA_SIG
  NoOSTERfSEaTTEfTATED_CAPITAL_QjFLORAL_HEART_BULLETtHEAVY_BLACK_HEART_BULLETyLIGHT_FOUR_POINTED_BLA
  CK_CUSPzeWHITE_FOUR_POINTED_CUSPzeUND_PUSHPINhTARGEThED_SYMBOL_FOR_CAIdFUcLUcSHOUcUANGXIiXItWBOATg
  SbUBLE_SIGNiGBY_FOOTBALLmLE-DELAYEDkMI_DIGIT_EIGHTfFIVEdOUReNINEeONEdSEVENeIXdTHREEeWOjFRACTION_ON
  E_HALFeQUARTERhTHIRDjTWO_THIRDStNUMBER_EIGHT_HUNDREDiYgFIFTYdVE_HUNDREDlORTYdUR_HUNDREDmNINE_HUNDR
  EDiTYgONE_HUNDREDlSEVEN_HUNDREDiTYgIX_HUNDREDiTYfTENcHIRTYeREE_HUNDREDmWENTYeO_HUNDREDvNIC_ARLAUG_
  SYMBOLnBELGTHOR_SYMBOLpCROSS_PUNCTUATIONrLETTER_AC_AdESCdLGIZ_EOLHXkNSUZ_AhBERKANAN_BEORC_BJARKAN_
  ByCaALCdEALCdNcWEORTHhDaAGAZ_DAEG_DlOTTED-LbNbPiEaARcHWAZ_EH_EjNGcTHdFEHU_FEOH_FE_FnRANKS_CASKET_A
  CbESCeEHcIScOSqGaARcEBO_GYFU_GjRdHAEGL_HfGLAZ_HiICELANDIC-YRlNGaWAZfORcSAZ_IS_ISS_ImWAZ_EOHiJERAN_
  JhKaAUN_KcAfLAUKAZ_LAGU_LOGR_LrONG-BRANCH-AR_AEfHAGALL_HiMADR_MgOSS_OfYRoMANNAZ_MAN_MmNAUDIZ_NYD_N
  AUD_NrOaEbNbObPEN-PfS_OdTHALAN_ETHEL_OpPERTHO_PEORTH_PpQbRAIDO_RAD_REID_RqSHaORT-TWIG-AR_AeBJARKAN
  _BjHAGALL_HiMADR_MgNAUD_NgOSS_OfSOL_SfTYR_TfYRmIGEL_LONG-BRANCH-SOL_SwOWILO_ShTANeTHURISAZ_THURS_T
  HORNtIWAZ_TIR_TYR_TpURUZ_UR_UjVbWaUNJO_WYNN_WmXbYaRcZiMULTIPLE_PUNCTUATIONuSINGLE_PUNCTUATIONsTVIM
  ADUR_SYMBOLsNERcING_SHIRT_WITH_SASHvPEE_SIGNiSSIAN_ASTROLOGICAL_SYMBOL_BINOVILEiNOVILEgQUINTILEiSE
  NTAGONiTREDECILEjVIGINTILEzmS_IN_TRIANGLEmAFETY_PINdVESTjGITTARIUSjILBOATgKE_BOTTLE_AND_CUPrLT_SHA
  KERhIREeUTING_FACElMARITAN_ABBREVIATION_MARKrLETTER_ALAFeBAAcITdDALATfFIcGAMANfINbTbYcKAAFeLABATfM
  IMdNUNdQUFdRISHeSHANdINGAAThTAAFdITcSAADIYhYUTdZENkMARK_DAGESHgEPENTHETIC_YUToINa-ALAFhNEQUDAAhOCC
  LUSIONnODIFIER_LETTER_EPENTHETIC_YUToIbSHORT_AxPUNCTUATION_AFSAAQfNGEDdNAAUfRKAANUgTMAAUgBAUdMELOD
  IC_QITSAnNEQUDAAhQITSAfSHIYYAALAAjOF_MASHFAATmTURUeZAEFdIQAArVOWEL_SIGN_AaAcEbIbLONG_AaAcEbIbUgOaV
  ERLONG_AaAlSHORT_AgUKUNfUuNDWICHfS-SERIF_HEAVY_DOUBLE_COMMA_QUOTATION_MARK_ORNAMENTzeTURNED_COMMA_
  QUOTATION_MARK_ORNAMENTzsLOW_DOUBLE_COMMA_QUOTATION_MARK_ORNAMENTzvINTERROBANG_ORNAMENTzeRIcTELLIT
  Ea_ANTENNAoURNeURASHTRA_CONSONANT_SIGN_HAARUuDANDAeIGIT_EIGHTfFIVEdOUReNINEeONEdSEVENeIXdTHREEeWOd
  ZEROjOUBLE_DANDAmLETTER_AaAbIbUcBAbHAdCAbHAdDAbDAbHAdHAdEaEcGAbHAdHAcIaIcJAbHAdKAbHAdLAbLAdMAcNAbG
  AcNAcYAdOaOcPAbHAdRAcSAbHAcSAdTAbHAcTAbHAeUaUcVAbOCALIC_LaLcRaRkYAjSIGN_ANUSVARAiCANDRABINDUlVIRAM
  AeSARGAmVOWEL_SIGN_AAbIbUcEaEcIaIcOaOcUaUcVOCALIC_LaLcRaRzdOPODgXOPHONEiCALESdRFdHOOLa_SATCHELmIbO
  OTEReRPIONcUSgREENcWDRIVERiIPT_CAPITAL_BbEbFbHbIbLbMbPbRjLIGATURE_ET_ORNAMENTuSMALL_EbGbLbOlOLLdUP
  LEgEALbTcCOND_PLACE_MEDALpTION_SIGNiOReDNAdE-NO-EVIL_MONKEYpDLINGgGMENTaED_DIGIT_EIGHTfFIVEdOUReNI
  NEeONEdSEVENeIXdTHREEeWOdZEROsLFIEeMICOLONfDIRECT_PRODUCT_WITH_BOTTOM_CLOSEDziSEXTILEjPARATED_SYMB
  OLoRIOUS_FACE_WITH_SYMBOLS_COVERING_MOUTHzmVICE_MARKkSAME_DOThQUIQUADRATEmT_MINUSfTRANSMIT_STATEqW
  ING_NEEDLElXTILEgGCcHADOWED_WHITE_CIRCLEgLATIN_CROSSlSTARqLLOW_PAN_OF_FOODqMROCKfRADA_ABBREVIATION
  _SIGNrCONTINUATION_SIGNrDANDAeIGIT_EIGHTfFIVEdOUReNINEeONEdSEVENeIXdTHREEeWOdZEROjOUBLE_DANDAmEKAM
  dXTRA_SHORT_VOWEL_MARKwHEADSTROKEkLETTER_AaAbIbUcBAbHAdCAbHAdDAbDAbHAdHAdEbGAbHAdHAcIaIcJAbHAdKAbH
  AdLAbLAdMAcNAbGAcNAcYAdObPAbHAdRAcSAbHAcSAdTAbHAcTAbHAeUaUcVAbOCALIC_LaLcRaRkYAjOMcSANDHI_MARKkECT
  ION_MARK-1b2mPARATORiIGN_ANUSVARAhVAGRAHAiCANDRABINDUlINVERTED_CANDRABINDUuJIHVAMULIYAlNUKTAfSIDDH
  AMhUPADHMANIYAlVIRAMAeSARGAlUTRA_MARKkVOWEL_MODIFIER_MARKnSIGN_AAbIbUcEbIaIcObPRISHTHAMATRA_EpUaUc
  VOCALIC_LaLcRaRzKcVED_ICEgIAN_LETTER_ADOcGEcHbIRcREbRAYeSHcWEdBIBdCHURCHgDEADeEARbTcGGcRRdFEEdGAGd
  HA-HAeUNGeIANcCEcFcJUDGEfKICKeLOLLeMEASUREgIMEeNUNdOAKcILcNbOZEdRbUTdPEEPeROAReSObUREeTHEYcIGHeOTd
  UPcVOWdWOEbOLeYEAbWdZOOqEEPdIELDdFT_INcOUTgNTO_SHRINEkPcOCKED_FACE_WITH_EXPLODING_HEADzeOTING_STAR
  kPPING_BAGSeTROLLEYnRT_BACKSLANTED_SOUTH_ARROWwENT_ARROW_POINTING_DOWNWARDS_THEN_NORTH_EASTzuDOWN_
  TACKa_WITH_OVERBARwLEFT_TACKjRIGHTWARDS_ARROW_ABOVE_LEFTWARDS_ARROWznSLANTED_NORTH_ARROWtUP_TACKa_
  ABOVE_SHORT_DOWN_TACKvWITH_UNDERBARwCAKEeHAND_FORMAT_CONTINUING_OVERLAPsDOWN_STEPjLETTER_OVERLAPoU
  P_STEPtSdULDERED_OPEN_BOXqWEReRIMPdUGdUFFLE_PRODUCTnYcIaDDHAM_DANDAeOUBLE_DANDAmEND_OF_TEXT_MARKqL
  ETTER_AaAbIbLTERNATE_UkUcBAbHAdCAbHAdDAbDAbHAdHAdEbGAbHAdHAcIaIcJAbHAdKAbHAdLAcMAcNAbGAcNAcYAdObPA
  bHAdRAcSAbHAcSAdTAbHAbREE-CIRCLE_ALTERNATE_IxTAbHAdWO-CIRCLE_ALTERNATE_IaIxUaUcVAbOCALIC_LaLcRaRkY
  AjREPETITION_MARK-1b2b3rSECTION_MARK_DOUBLE_RINGa_WITH_RAYSvWITH_CIRCLES_AND_FOUR_ENCLOSURESpRAYSe
  TWO_ENCLOSURESzbDOUBLE_CRESCENTSqQUADRUPLE_CRESCENTStRAYS_AND_DOTTED_CRESCENTSjDOUBLE_CRESCENTSqTR
  IPLE_CRESCENTSzhSEPTUPLE_CRESCENTSsTRIDENT_AND_DOTTED_CRESCENTSqU-SHAPED_ORNAMENTSzcPLE_CRESCENTSz
  hPARATOR_BARdDOTmIGN_ANUSVARAiCANDRABINDUlNUKTAfSIDDHAMhVIRAMAeSARGAmVOWEL_SIGN_AAbIbLTERNATE_UaUl
  UcEbIaIcObUaUcVOCALIC_RaRzbEWAYS_BLACK_DOWN_POINTING_INDEXtLEFT_POINTING_INDEXtRIGHT_POINTING_INDE
  XuUP_POINTING_INDEXxWHITE_DOWN_POINTING_INDEXtLEFT_POINTING_INDEXtRIGHT_POINTING_INDEXuUP_POINTING
  _INDEXzfGN_OF_THE_HORNSnWRITING_AIR_BLOW_SMALL_ROTATIONSqING_OUTlSUCK_SMALL_ROTATIONSqING_INoBREAT
  H_EXHALEgINHALElUSH_BETWEENhMULTIPLEiSINGLEmCHEEKS_NEUTRALhPUFFEDgSUCKEDmOLONdMMAfDREAMY_EYEBROWS_
  DOWN_NEUTRALmNEUTRAL_DOWNeUPkUP_NEUTRALzYNAMIC_ARROWHEAD_LARGEfSMALLpEVERY_OTHER_TIMEqFASTeGRADUAL
  hRELAXEDhSIMULTANEOUSa_ALTERNATINGxLOWeTENSEnEARSdXCITEMENTjYE_BLINK_MULTIPLEiSINGLEmWINKfBROWS_ST
  RAIGHT_DOWNeNEUTRALhUPrGAZE-FLOORPLANE_CURVEDgSTRAIGHTa_ALTERNATINGlDOUBLEzbWALLPLANE_CIRCLINGhURV
  EDgSTRAIGHTa_ALTERNATINGlDOUBLEzfLASHES_DOWNeFLUTTERINGkUPjS_CLOSEDgHALF_CLOSEDgOPENjOPENeSQUEEZED
  iWIDE_OPENfNING_MOVEMENTwFACE_DIRECTION_POSITION_NOSE_FORWARD_TILTINGpUP_OR_DOWNa_TILTINGzvILL_MOD
  IFIER-2b3b4b5b6nNGERfLICK_LARGE_MULTIPLEiSINGLEmSEQUENTIALjMALL_MULTIPLEiSINGLEqOORPLANE_SHOULDER_
  HIP_MOVEzcOREHEAD_CONTACThNEUTRALhWRINKLEDqULL_STOPjGRASP_BETWEENhMULTIPLEiSINGLEmHAIRcND-ANGLEa_I
  NDEXa_MIDDLE_LITTLEgRINGlRING_LITTLEa_OUTpTHUMBa_INcOUTpLITTLE_INDEXa_THUMB_INDEX_THUMBa_OUTzcUPjM
  IDDLE_RING_LITTLEa_INcOUTwRING_DOWN_MIDDLE_THUMB_INDEX_CROSSzeLITTLErCIRCLEa_INDEXa_BENTeHINGEfMID
  DLEa_CROSS_LITTLEhEDhLITTLEgRINGeTHUMBmRING_LITTLErLITTLE_INDEXfUPjMIDDLE_RING_LITTLEa_BENTqUPjRIN
  G_LITTLErLAWa_FOUR_FINGERS_CONJOINEDwINDEX_THUMB_CURVE_THUMB_INSIDEzfMIDDLE_RING_LITTLE_CONJOINEDa
  _SIDEziNO_THUMBiTHUMB_FORWARDhSIDEoUPa_FIVE_FINGERS_SPREADa_OPENyINDEXa_RING_LITTLElTHUMBa_OPENqMI
  DDLE_RING_LITTLEsNO_THUMBiOPENa_NO_THUMBiTHUMB_FORWARDhSIDEpTHUMB_FORWARDhSIDEmRLICUEa_INDEX_RING_
  LITTLE_ONuMIDDLE_RING_LITTLE_ONvOPENnFISTa_FOUR_FINGERS_CONJOINED_BENTzcHEELeINDEXa_BENTa_OVER_MID
  DLEqCUPPEDgHINGEDa_LOWdMIDDLE_UPa_THUMB_SIDEzcMIDDLEa_BENTa_THUMB_STRAIGHTtCONJOINEDa_CUPPEDa_THUM
  B_FORWARDuHINGEDa_THUMB_SIDErINDEX_BENTkMIDDLE_BENTlTHUMB_FORWARDhSIDEa_BENTeCONJOINEDzeROSS_LITTL
  EhEDa_THUMB_SIDEsHINGEDa_SPREAD_THUMB_SIDEyLITTLEgRAISED_KNUCKLESoINGa_BENTeCONJOINEDoSTRAIGHT_THU
  MB_BENTtTHUMBa_ANGLEDa_OUTkBENTeCIRCLEDgONJOINED_HINGEDpUPPEDgHINGEDfOOKEDmUP_SPREAD_THUMB_FORWARD
  zfRAISED_KNUCKLEnING_LITTLElTHUMB_ANGLED_IN_MIDDLE_UPmOUT_MIDDLE_UPuCIRCLEaD_MIDDLE_UPqUPPED_MIDDL
  E_UPoRLICUEfVE_THUMB_INSIDEgUNDERrFORWARD_INDEX_BENTeSTRAIGHTwHOOKaED_MIDDLE_HINGEDgUPqSIDEa_BOTH_
  BENTjINDEX_BENTeHINGElTHUMB_BENTeCONJOINEDjDIAGONALzUP_MIDDLE_HINGEDa_THUMB_CONJOINEDjSIDEziLITTLE
  _BENTeDOWNa_OTHERS_CIRCLEDoRIPPLE_CURVEDgSTRAIGHTuINDEXa_THUMBlRAISED_KNUCKLEoTHUMBeOUCHES_THUMBnU
  PjMIDDLE_BENT_OVER_INDEXpDOWNeLITTLEgRAISED_KNUCKLEnING_LITTLElTHUMB_ANGLED_INDEX_UPiOUT_INDEX_CRO
  SSEDhUPtCIRCLED_INDEX_HINGEDgUPpUPPED_INDEX_UPpHOOKED_INDEX_UPpLITTLEmUPa_THUMB_SIDEuRING_DOWNeIND
  EXfLITTLEgMIDDLEa_CONJOINEDjRAISED_KNUCKLESwRAISED_KNUCKLEoTHUMBfUPhTHUMBa_BETWEEN_INDEX_MIDDLEa_S
  TRAIGHTvMIDDLE_RINGlRING_LITTLEtFORWARDhHEELeOVER_FOUR_RAISED_KNUCKLESuTWO_FINGERSqSIDE_BENTeCONJO
  INEDjDIAGONALnUNDER_FOUR_FINGERSmINDEX_BENTkLITTLE_UPjTHREE_FINGERSmWO_FINGERSzcLATa_BETWEEN_PALM_
  FACINGSuFIVE_FINGERS_SPREADa_BENTeFOUR_BENTjHINGEDa_NO_THUMBiTHUMB_SIDErTHUMB_FORWARDzhOUR_FINGERS
  a_BENTeCONJOINEDa_SPLITpHINGEDtHEELa_FIVE_FINGERS_SPREADa_BENTeFOUR_BENTzeTHUMB_SIDEpSPLIT_CENTREa
  _THUMB_SIDEa_BENTwINDEX_THUMB_SIDEqLITTLEmTHUMB_BENTeFORWARDhSIDEpHINGEa_FIVE_FINGERS_SPREAD_OPENx
  OUR_FINGERS_CONJOINEDwINDEXa_HINGEDgMIDDLE_LITTLEgRINGa_CONJOINEDvRING_LITTLElTHUMBa_LARGEfOPENeSI
  DEdMALLrLITTLEa_INDEXa_THUMBlTHUMBmMIDDLEa_RING_LITTLEsNO_THUMBiOPENa_NO_THUMBiTHUMB_FORWARDhSIDEp
  RINGa_DOWN_INDEX_THUMB_HOOK_MIDDLEziSMALLfTHUMB_BETWEEN_MIDDLE_RINGtSIDEa_TOUCHING_INDEXzfOOKa_CUR
  LICUEiINDEX_RING_LITTLE_INcOUTdUNDERxMIDDLE_RING_LITTLE_CONJOINEDa_INcOUTzTHUMBmRING_THUMBpOVALa_F
  IVE_FINGERS_SPREADtINDEXfLITTLE_UPjNO_THUMBiRING_LITTLElTHUMB_FORWARDhSIDEtEADa_MOVEMENT_CIRCLEh-F
  LOORPLANE_CURVEfSTRAIGHTtWALLPLANE_CURVEfSTRAIGHTiTILTxRIMiLIMB_COMBINATIONlLENGTH-1b2b3b4b5b6b7lP
  _LOWER_OVER_UPPERqUPPER_OVER_LOWERrS_PRESSED_TOGETHERuOCATION_DEPTHfHEAD_NECKhIGHTgLIMBS_DIGITSmTO
  RSOfWIDTHg-FLOORPLANE_SPACEqWALLPLANE_SPACEyMOUTH_CLOSED_CONTACThFORWARDhNEUTRALnORNERShFROWNa_OPE
  NeWRINKLEDoKISSa_FORWARDhWRINKLEDnOPEN_CIRCLEgFORWARDhOVALa_WRINKLEDiYAWNjRECTANGLEa_WRINKLEDiYAWN
  oWRINKLEDnSMILEa_OPENeWRINKLEDoTENSEa_FORWARDhSUCKEDmWRINKLES_DOUBLEgSINGLEtVEMENT-DIAGONAL_AWAY_L
  ARGEaSThMEDIUMgSMALLkBETWEEN_AWAY_LARGEaSThMEDIUMgSMALLkTOWARDS_LARGEaSThMEDIUMgSMALLvTOWARDS_LARG
  EaSThMEDIUMgSMALLwFLOORPLANE_ARM_CIRCLE_HITTING_WALL_LARGE_DOUBLEgSINGLEmMEDIUM_DOUBLEgSINGLEnSMAL
  L_DOUBLEgSINGLEzlBENDdOX_LARGEfMEDIUMgSMALLjCHECKeORNER_LARGEfMEDIUMgSMALLlROSSeURVE_COMBINEDiHITT
  ING_CEILING_LARGEfSMALLnFLOOR_LARGEfSMALLtLARGEaSThMEDIUMgSMALLlDOUBLE_ALTERNATINGa_WRIST_FLEXwSTR
  AIGHTiWRIST_FLEXrFINGER_CIRCLES_HITTING_WALL_DOUBLEgSINGLEzbONTACToHUMP_HITTING_CEILING_LARGE_DOUB
  LEgTRIPLEmSMALL_DOUBLEgTRIPLEuFLOOR_LARGE_DOUBLEmSMALL_DOUBLEmTRIPLE_LARGE_TRIPLEmSMALL_TRIPLEziSM
  ALLkJAWdLOOP_HITTING_CEILING_LARGE_DOUBLEgSINGLEmSMALL_DOUBLEgSINGLEuFLOOR_LARGE_DOUBLEgSINGLEmSMA
  LL_DOUBLEgSINGLEzbSMALLkPEAKS_LARGEfMEDIUMgSMALLlSHAKING_PARALLELpINGLE_STRAIGHT_LARGEaSThMEDIUMgS
  MALLoWRIST_FLEXrTRIPLE_ALTERNATING_MOVEMENTiWRIST_FLEXwSTRAIGHT_MOVEMENTrWRIST_FLEXrWAVE_HITTING_C
  EILING_LARGEfSMALLnFLOOR_LARGEfSMALLtLARGEfSMALLeNAKEjRIST_CIRCLE_HITTING_WALL_DOUBLEgSINGLEzhZIGZ
  AG_LARGEfMEDIUMgSMALLxHINGE_DOWN_SEQUENTIALpSIDE_TO_SIDE_SCISSORSvUP_DOWN_ALTERNATING_LARGEfSMALLr
  LARGEfSMALLkSEQUENTIALtWALLPLANE_ARM_CIRCLE_MEDIUM_DOUBLEgSINGLEnSMALL_DOUBLEgSINGLExBEND_LARGEfME
  DIUMgSMALLjOX_LARGEfMEDIUMgSMALLjCHECK_LARGEfMEDIUMgSMALLkORNER_LARGEfMEDIUMgROTATIONiSMALLlROSSeU
  RVE_HALF-CIRCLE_LARGEaSThMEDIUMgSMALLqITTING_CHESTfFRONT_WALLsQUARTER_LARGEaSThMEDIUMgSMALLnTHEN_S
  TRAIGHTlREE-QUARTER_CIRCLE_MEDIUMgSMALLzcD_CROSS_MEDIUMgSMALLsDOUBLE_ALTERNATINGa_WRIST_FLEXwSTRAI
  GHTiWRIST_FLEXrFINGER_CIRCLES_DOUBLEgSINGLEnONTACToHUMP_HITTING_CHESTfFRONT_WALLsLARGEfMEDIUMgSMAL
  LkJAWdLOOP_HITTING_CHESTfFRONT_WALLsLARGEfMEDIUMgSMALLa_DOUBLErPEAKS_LARGEfMEDIUMgSMALLlSHAKINGgIN
  GLE_STRAIGHT_LARGEaSThMEDIUMgSMALLoWRIST_FLEXrTRIPLE_ALTERNATINGa_WRIST_FLEXwSTRAIGHT_MOVEMENTrWRI
  ST_FLEXrWAVE_CURVE_DOUBLE_LARGEfMEDIUMgSMALLmTRIPLE_LARGEfMEDIUMgSMALLsDIAGONAL_PATH_LARGEfMEDIUMg
  SMALLtHITTING_CHESTfFRONT_WALLwRIST_CIRCLE_FRONT_DOUBLEgSINGLEzZIGZAG_LARGEfMEDIUMgSMALLzgNECKdOSE
  _CONTACThNEUTRALhWIGGLESgRINKLESnPARENTHESISlROTATION_MODIFIER-10b1b2b3b4b5b6c2b3b4b5b6b7b8b9l-FLO
  ORPLANE_ALTERNATINGa_HITTING_CEILINGhFLOORzDOUBLEa_HITTING_CEILINGhFLOORuSINGLEa_HITTING_CEILINGhF
  LOORzgWALLPLANE_ALTERNATEbING_HITTING_CHESTfFRONT_WALLzfDOUBLEa_HITTING_CHESTfFRONT_WALLzSINGLEa_H
  ITTING_CHESTfFRONT_WALLzsUB_BETWEENhMULTIPLEiSINGLEkSEMICOLONiHOULDER_HIP_POSITIONSjSPINEjTILTING_
  FROM_WAISTzbQUEEZE_FLICK_ALTERNATINGrLARGE_MULTIPLEiSINGLEmSEQUENTIALjMALL_MULTIPLEiSINGLEtTRIKE_B
  ETWEENhMULTIPLEiSINGLEmURFACE_BETWEENhSYMBOLSpTEETHa_BITE_LIPSjMOVEMENTiON_LIPSa_MOVEMENTnTONGUEa_
  MOVEMENTwNSE_CHEEKS_HIGHeLOWdMIDDLEsONGUE_CENTRE_INSIDE_MOUTHmSTICKING_OUTtINSIDE_MOUTH_RELAXEDuLI
  CKING_LIPSmMOVES_AGAINST_CHEEKtSTICKING_OUT_FARqTIP_BETWEEN_LIPSmTOUCHING_INSIDE_MOUTHzfRSO-FLOORP
  LANE_TWISTINGtWALLPLANE_CURVED_BENDlSTRAIGHT_STRETCHzfUCH_BETWEENhMULTIPLEiSINGLElRAVEL-FLOORPLANE
  _ROTATION-FLOORPLANE_ALTERNATINGlDOUBLEgSINGLErWALLPLANE_ALTERNATINGlDOUBLEgSINGLEzSHAKINGsWALLPLA
  NE_ARM_SPIRAL_DOUBLEgSINGLEgTRIPLErROTATION-FLOORPLANE_ALTERNATINGlDOUBLEgSINGLErWALLPLANE_ALTERNA
  TINGlDOUBLEgSINGLEzSHAKINGyUPPER_BODY_TILTING_FROM_HIP_JOINTSzjWALLPLANE_SHOULDER_HIP_MOVEzmLHOUET
  TE_OF_JAPANrMILAR_ABOVE_GREATER-THAN_ABOVE_EQUALS_SIGNzfLESS-THAN_ABOVE_EQUALS_SIGNziMINUS_SIMILAR
  nOR_GREATER-THANmLESS-THANsNE_WAVEgGLE_CHARACTER_INTRODUCERuGRAPHIC_CHARACTER_INTRODUCERzdHIGH-REV
  ERSED-9_QUOTATION_MARKzfLEFT-POINTING_ANGLE_QUOTATION_MARKziOW-9_QUOTATION_MARKuRIGHT-POINTING_ANG
  LE_QUOTATION_MARKzkSHIFT_THREEeWOk-SHIFT-2b3lHALA_ARCHAIC_DIGIT_EIGHTfFIVEdOUReNINEeONEdSEVENeIXdT
  HREEeWOjNUMBER_EIGHTYgFIFTYeORTYfNINETYgONE_HUNDREDhTHOUSANDmSEVENTYgIXTYfTENcHIRTYfWENTYvLETTER_A
  AYANNAgEEYANNAgYANNAgIYANNAgLPAPRAANA_BAYANNAhCAYANNAhDAYANNAgDAYANNAiGAYANNAhJAYANNAhKAYANNAhPAYA
  NNAhTAYANNAgTAYANNAsMBA_BAYANNAlUYANNAgYANNAgDANTAJA_LAYANNAhNAYANNAhSAYANNApEEYANNAgYANNAgFAYANNA
  hHAYANNAhIIYANNAgLUUYANNAgYANNAhRUUYANNAgYANNAhYANNAgKANTAJA_NAASIKYAYAsMAHAAPRAANA_BAYANNAhCAYANN
  AhDAYANNAgDAYANNAiGAYANNAhJAYANNAhKAYANNAhPAYANNAhTAYANNAgTAYANNAsYANNAgUURDHAJA_LAYANNAhNAYANNAhS
  AYANNArOOYANNAgYANNAgRAYANNAhSANYAKA_DAYANNAgDAYANNAiGAYANNAhJAYANNApTAALUJA_NAASIKYAYAkSANYOOGA_N
  AAKSIKYAYAsYANNApUUYANNAgYANNAgVAYANNAhYAYANNAnITH_DIGIT_EIGHTfFIVEdOUReNINEeONEdSEVENeIXdTHREEeWO
  dZEROpPUNCTUATION_KUNDDALIYAwSIGN_AL-LAKUNAiNUSVARAYAkCANDRABINDUlVISARGAYAoVOWEL_SIGN_AELA-PILLAk
  DIGA_AEDA-PILLAkGAETTA-PILLAkYANUKITTAlIS-PILLAiKOMBUVAhPAA-PILLAoGAETTA-PILLAkYANUKITTAlKETTI_AED
  A-PILLAkIS-PILLAiPAA-PILLAoOMBU_DEKAfVAa_HAA_AELA-PILLAkDIGA_AELA-PILLApGAYANUKITTAzpX_PETALLED_BL
  ACK_AND_WHITE_FLORETTEzhOINTED_BLACK_STARkPINWHEEL_STARnSTAR_WITH_MIDDLE_DOTze-PER-EM_SPACEnTEEN_P
  OINTED_ASTERISKxKATEBOARDiI_AND_SKI_BOOTnERdULLa_AND_CROSSBONESrNKeLANTED_EQUAL_TO_OR_GREATER-THAN
  a_WITH_DOT_INSIDEzdLESS-THANa_WITH_DOT_INSIDEzmNORTH_ARROW_WITH_HOOKED_HEADjRIZONTAL_TAILzmVONIC_A
  STERISKpEDbEPING_ACCOMMODATIONnFACEeSYMBOLkY_FACEiUTH_OR_SPYlICE_OF_PIZZAlGHTLY_FROWNING_FACEnSMIL
  ING_FACEtOPEbING_LARGE_ANDdORnT_MACHINEiHeMALL_AIRPLANEhMPERSANDiSTERISKiBLUE_DIAMONDmCOLONdMMAbER
  CIAL_ATlNTAINS_AS_MEMBERjWITH_OVERBARhVERTICAL_BAR_AT_END_OF_HORIZONTAL_STROKEzzeDOLLAR_SIGNlELEME
  NT_OFa_WITH_OVERBARhVERTICAL_BAR_AT_END_OF_HORIZONTAL_STROKEzzfM_DASHgQUALS_SIGNkXCLAMATION_MARKqF
  ULL_STOPjGREATER-THAN_SIGNrHYPHEN-MINUSmIDEOGRAPHIC_COMMArLEFT_CURLY_BRACKETnPARENTHESISlTORTOISE_
  SHELL_BRACKETzSS-THAN_SIGNoNUMBER_SIGNlORANGE_DIAMONDoPERCENT_SIGNlLUS_SIGNjQUESTION_MARKnREVERSE_
  SOLIDUSoIGHT_CURLY_BRACKETnPARENTHESISlTORTOISE_SHELL_BRACKETzcOMAN_NUMERAL_EIGHTeLEVENgFIFTYdVEa_
  HUNDREDlOUReNINEeONEa_HUNDREDhTHOUSANDmSEVENeIXdTENcHREEeWELVEeOrSEMICOLONjTILDEeWO_DOTS_OVER_ONE_
  DOT_PUNCTUATIONziVEE_WITH_UNDERBARsER_THANa_OR_EQUAL_TOvSH_PRODUCTlILEbING_CAT_FACE_WITH_HEART-SHA
  PED_EYESrOPEN_MOUTHyFACE_WITH_HALOdEART-SHAPED_EYESqORNSfOPEN_MOUTHa_AND_COLD_SWEATkSMILING_EYESmT
  IGHTLY-CLOSED_EYESzjSMILING_EYESa_AND_HAND_COVERING_MOUTHtTHREE_HEARTSzdUNGLASSESkTEARtRKING_FACEl
  OKING_SYMBOLnNAILcKEdEEZING_FACElOW_CAPPED_MOUNTAINqBOARDERhFLAKEfMANa_WITHOUT_SNOWtOaCCER_BALLiKS
  dFT_HYPHENgICE_CREAMjSHELL_FLOPPY_DISKsBALLeWARE-FUNCTION_SYMBOLwGDIAN_COMBINING_CURVE_ABOVEfBELOW
  lDOT_ABOVEfBELOWjHOOK_ABOVEfBELOWkLONG_HOOK_BELOWpRESH_BELOWkSTROKE_BELOWmTWO_DOTS_ABOVEfBELOWyIND
  EPENDENT_SHINqLETTER_ALEPHeYINeBETHeFETHeGIMELfHEaTHeKAPHeLAMEDHfESHeMEMdNUNdPEcRESH-AYINjSADHEdME
  KHfHINeTAWdWAWdYODHeZAYINmNUMBER_ONEa_HUNDREDlTENcWENTYnPUNCTUATION_CIRCLE_WITH_DOTpHALF_CIRCLE_WI
  TH_DOTuTWO_CIRCLES_WITH_DOTSrVERTICAL_BARSa_WITH_DOTSzuHbLID_QUILT_SQUARE_ORNAMENTa_IN_BLACK_SQUAR
  EznUSa_WITH_OVERBARsM_SIGNgON_WITH_RIGHTWARDS_ARROW_ABOVEzfRA_SOMPENG_DIGIT_EIGHTfFIVEdOUReNINEeON
  EdSEVENeIXdTHREEeWOdZEROkLETTER_AHcBAHdCAHdDAHdEEHcHcGAHdHAHdIHcJAHdKAHdLAHdMAEbHdNAHcGAHdYAHeOHcP
  AHdRAHdSAHdTAHdUHcVAHdYAHvSbUND_RECORDING_COPYRIGHTwTH_EAST_ARROWa_AND_SOUTH_WEST_ARROWuCROSSING_N
  ORTH_EAST_ARROWzTO_CORNERjWITH_HOOKpBLACK_ARROWlDOUBLE_ARROWmPOINTING_BUDdLEAFeVINE_LEAFsSANS-SERI
  F_ARROWqTRIANGLE-HEADED_ARROWa_TO_BARzdWHITE_ARROWqWEST_ARROWa_AND_NORTH_WEST_ARROWuWITH_HOOKpBLAC
  K_ARROWlDOUBLE_ARROWmPOINTING_BUDdLEAFeVINE_LEAFsSANS-SERIF_ARROWqTRIANGLE-HEADED_ARROWa_TO_BARzdW
  HITE_ARROWuYOMBO_CLUSTER-INITIAL_LETTER_LAcRAcSAbHAzbFINAL_CONSONANT_SIGN_-AcBbDbGbKbLbMbNaGcRbSaH
  xGEMINATION_MARKpHEAD_MARK_WITH_MOON_AND_SUNa_AND_FLAMEfTRIPLE_FLAMEztLETTER_-AcAbBAbHAdCAbHAdDAbD
  AbHAdHAcZAdGAbHAdHAcJAbHAdKAbHAcSSAeLAcMAcNAbGAcNAcYAdPAbHAdRAcSAbHAcSAdTAbHAcSAbHAdTAbHAeVAcYAcZA
  bHAkMARK_DOUBLE_SHADlPLUTAfSHADeTSHEGkSIGN_ANUSVARAiJIHVAMULIYAlUPADHMANIYAlVISARGAlUBJOINERjTERMI
  NAL_MARK-1b2pVOWEL_LENGTH_MARKlSIGN_AIbUcEbIbOaEcUaEcVOCALIC_LbRzcPaAaCEcGHETTIgRKLEaScING_HEARTnE
  AK-NO-EVIL_MONKEYpERa_WITH_CANCELLATION_STROKEtONE_SOUND_WAVEoTHREE_SOUND_WAVESzING_HEAD_IN_SILHOU
  ETTEyECH_BALLOONkDBOATgSMILO_SIGNlHERICAL_ANGLEa_OPENING_LEFTeUPyIDERa_WEBhRAL_CALENDAR_PADmNOTE_P
  ADiSHELLkLASHING_SWEAT_SYMBOLuONGEdOL_OF_THREADlNcRTS_MEDALjUTING_WHALEnQUARE_A_OVER_MhARUdMbNPEAe
  PAATOfRUHUAfUcBAARERUfRcEETAeIRUdORUTOfQbUSSYERUiC_OVER_KGiALbPcCbDbMa_CUBEDfSQUAREDjOaRPORATIONkU
  PdDAaASUeBbESIdJbLbMa_CUBEDfSQUAREDjORUeEEKAAeRA_NAME_HEISEIgMEIZIfREIWAfSYOUWAgTAISYOUoGcSUKUUDOh
  VcFMbOOTcUR_CORNERSmGALbNMAdRONeBbHZcIGAcNIIdRUDAAgPAcURAMUaTONiYcHAaITUeEKUTAARUhRUTUfGbIRAGANA_H
  OKAmONbONbRUePaAcUARADDOgIITOeRANeZcIMAGE_OFa_OR_EQUAL_TOiNOT_EQUAL_TOxNaINGUeTIdUcK_OHMeAaIRIdRAT
  TOeORIIgBbCALdEESUeGbHZcIROaGURAMUgMEETORUhWATTOiKbLbMa_CAPITALgUBEDfSQUAREDjOOPOdRUNAfPAcTbUROONE
  eUZEIROiVbWbYURIIgLEFT_OPEN_BOX_OPERATORvMbNbOGbZENGEgXcM_CUBEDfOHMcVER_Sa_SQUAREDoSQUAREDiAaHHAdI
  KUROeRUdNSYONfRUKUfBa_SMALLhEETORUfGAaTONgGbHZcIKURONfLbRIaBAARUiLbMa_CUBEDfSQUAREDjOLcPAcSbU_AbFb
  GbLbMbSbVbWdVa_MEGAgWa_MEGAhNAaNOdFbMbOTTOeSbVbWcONSUdOMUdRIGINAL_OFa_OR_EQUAL_TOiNOT_EQUAL_TOzbVc
  PAa_AMPSfASENTOfTUeCbEEZIdNIHIdSUdSOdFbHbIASUTORUhKObURUfMbOINTOeNDOdSITION_INDICATORrPMcRbSbVbWcR
  ADa_OVER_Sa_SQUAREDrEMUcNTOGENhIGHT_OPEN_BOX_OPERATORvRAcTTORUgOOTdUPIIdUBURUhSAIKURUfNTIIMUhENTIb
  OeIRINGUgRbVcTARGETfHZcONdUONdV_OVER_MiWATTOeBbITH_BOTTOM_HALF_BLACKrCONTOURED_OUTLINErDIAGONAL_CR
  OSSHATCH_FILLyHORIZONTAL_FILLpLEFT_HALF_BLACKoOWER_LEFT_DIAGONAL_HALF_BLACKyRIGHT_DIAGONAL_HALF_BL
  ACKzgORTHOGONAL_CROSSHATCH_FILLzbRIGHT_HALF_BLACKqTOP_HALF_BLACKoUPPER_LEFT_DIAGONAL_HALF_BLACKtTO
  _LOWER_RIGHT_FILLyRIGHT_DIAGONAL_HALF_BLACKtTO_LOWER_LEFT_FILLzfVERTICAL_FILLsYAADOcRUeUANfD_ASTER
  ISKiCJK_UNIFIED_IDEOGRAPH-4E00b9c2Dc8CcA4e518Dd21Dc4Dc72d3CCcF3d408c39d5B6d8F0d91Ac29dB57dDE6dF8Ce
  624Bc53c95d307c55d599cB0d620d708b9dE80dF14e7121d51Fc33d981dA7AdD42e89E3dCA9dD70e904Ad14DzLbOOLeDOT
  _OPERATORmEIGHT_KhFALLING_DIAGONAL_SLASHvIVE_POINT_ONEnOUR_DOT_PUNCTUATIONpKfREEeHCbDRcI-RESfVcIDc
  KATAKANA_DEcKOKOeSAkEYdLATIN_CAPITAL_LETTER_AbBbCbDbEbFbGbHbIbJbKbLbMbNbObPbQbRbSbTbUbVbWbXbYbZqSM
  ALL_LETTER_DtOGICAL_ANDdORiSSLESSiMINUSeVcNEWcGcOKbNE_HUNDRED_TWENTY_PuPLUSdPVdRISING_DIAGONAL_SLA
  SHvSALTIREgDbECOND_SCREENlVEN_POINT_ONEoHVcIXTY_PgMALL_CIRCLElOScQUAREfScTHREE_DgIMESeWENTY-TWO_PO
  INT_TWOsO_KfUHDcP_WITH_EXCLAMATION_MARKyVODcScWCgT_BLACK_RIGHTWARDS_ARROWzIDeS2b3bAcTaADIUMeFF_OF_
  AESCULAPIUSlHERMESmMPED_ENVELOPEnNDING_PERSONmR_AND_CRESCENTmEQUALSgOF_DAVIDhPERATORiWITH_LEFT_HAL
  F_BLACKpRIGHT_HALF_BLACKwT_OF_GUARDED_AREAmHEADINGhPROTECTED_AREAoSELECTED_AREAmTRINGgTEXTkTIONdUE
  _OF_LIBERTYpEAM_LOCOMOTIVElING_BOWLkNOGRAPHIC_FULL_STOPtTHOSCOPEjICK_FIGUREa_LEANING_LEFTeRIGHTnWI
  TH_ARMS_RAISEDlDRESSvOCK_CHARTiPWATCHhRAIGHT_RULERgNESSiWBERRYhESS_OUTLINED_WHITE_STARxICTLY_EQUIV
  ALENT_TOsNG_TERMINATORpSbUDIO_MICROPHONEoFFED_FLATBREADoPAdXcUBaSCRIPT_EIGHTeQUALS_SIGNlFIVEdOUReL
  EFT_PARENTHESISqMINUSfNINEeONEdPLUS_SIGNjRIGHT_PARENTHESISrSEVENeIXdTHREEeWOdZEROkET_ABOVE_RIGHTWA
  RDS_ARROWqSUBSETePERSEToOFa_ABOVE_ALMOST_EQUAL_TOpEQUALS_SIGNlNOT_EQUAL_TOmTILDE_OPERATORuOR_EQUAL
  _TOa_WITH_DOT_ABOVEzbWITH_NOT_EQUAL_TOuWITH_DOTdMULTIPLICATION_SIGN_BELOWzPLUS_SIGN_BELOWxTITUTEiC
  CEEDSa_ABOVE_ALMOST_EQUAL_TOpEQUALS_SIGNlNOT_ALMOST_EQUAL_TOpEQUAL_TOmSINGLE-LINE_EQUALS_SIGNlNOT_
  EQUAL_TOzfBUT_NOT_EQUIVALENT_TOvOR_EQUAL_TOfIVALENT_TOqUNDER_RELATIONvMMATION_BOTTOMgTOPdWITH_INTE
  GRALvNa_BEHIND_CLOUDmWITH_FACEkDANESE_AVAGRAHAiCONSONANT_SIGN_PAMINGKALhNYAKRAeIKUfSANGAN_MAcWAzbD
  IGIT_EIGHTfFIVEdOUReNINEeONEdSEVENeIXdTHREEeWOdZEROkLETTER_AaEcBAbHAdCAcDAcEaUcFAbINAL_KbMhGAcHAcI
  bJAcKAbHAdLAbEUdMAcNAbGAcYAdObPAcQAcRAbEUdSAbYAdTAcUbVAcWAcXAcYAcZAjPUNCTUATION_BINDU_BA_SATANGAkC
  AKRAfDA_SATANGAkKA_SATANGAkLEU_SATANGAlPANGLONGhURNAMAhSURYAxSIGN_PAMAAEHfNGLAYARfWISADgYECEKiVIRA
  MAlVOWEL_SIGN_PAMEPETfNAELAENGhEULEUNGhGHULUfOLONGfYUKUzFLOWERgRISEa_OVER_MOUNTAINStSET_OVER_BUILD
  INGStPERHEROeSCRIPT_EIGHTeQUALS_SIGNlFIVEdOUReLATIN_SMALL_LETTER_IbNtEFT_PARENTHESISqMINUSfNINEeON
  EdPLUS_SIGNjRIGHT_PARENTHESISrSEVENeIXdTHREEeWOdZEROkET_ABOVE_LEFTWARDS_ARROWpSUBSETePERSEToBESIDE
  _AND_JOINED_BY_DASH_WITH_SUBSETzfSUBSETnOFa_ABOVE_ALMOST_EQUAL_TOpEQUALS_SIGNlNOT_EQUAL_TOmTILDE_O
  PERATORuOR_EQUAL_TOa_WITH_DOT_ABOVEzbWITH_NOT_EQUAL_TOuPRECEDING_SOLIDUSrWITH_DOTdMULTIPLICATION_S
  IGN_BELOWzPLUS_SIGN_BELOWyVILLAINkRFACE_INTEGRALmEReSHIcPENSION_RAILWAYrWANbSH_AMPERSAND_ORNAMENTw
  IMMERfUNG_DASHjYLOTI_NAGRI_LETTER_AbBHOcOcCHOcOcDDHOcOcHOcOcEbGHOcOcHOcIbJHOcOcKHOcOcLOcMOcNOcObPH
  OcOcRObROdSOcTHOcObTHOcOdUiPOETRY_MARK-1b2b3b4nSIGN_ALTERNATE_HASANTAqNUSVARAiDVISVARAiHASANTAmVOW
  EL_SIGN_AbEbIbOOcUxMBOL_FOR_ACKNOWLEDGElBACKSPACEiELLeCANCELeRRIAGE_RETURNpDATA_LINK_ESCAPEpELETEa
  _FORM_TWOnVICE_CONTROL_FOUReONEdTHREEeWOsEND_OF_MEDIUMgTEXTdRANSMISSIONa_BLOCKxQUIRYgSCAPEgFILE_SE
  PARATORnORM_FEEDjGROUP_SEPARATORpHORIZONTAL_TABULATIONvLINE_FEEDjMARKS_CHAPTERnNEGATIVE_ACKNOWLEDG
  EsWLINEgULLeRECORD_SEPARATORqSAMARITAN_SOURCEpHIFT_INcOUTiPACEeTART_OF_HEADINGhTEXTmUBSTITUTEa_FOR
  M_TWOsYNCHRONOUS_IDLEqTYPE_A_ELECTRONICSsUNIT_SEPARATORoVERTICAL_TABULATIONzcMETRYgNaAGOGUEgCHRONO
  US_IDLEoRIAC_ABBREVIATION_MARKrBARREKHhCOLON_SKEWED_LEFTeRIGHTqNTRACTIONlDOTTED_ZLAMA_ANGULARhHORI
  ZONTALxEND_OF_PARAGRAPHpSASA_ABOVEfBELOWlFEMININE_DOTmHARKLEAN_ASTERISCUSkMETOBELUSjOBELUSoBASA_AB
  OVEfBELOWg-ESASA_DOTTEDrORIZONTAL_COLONqLETTER_ALAPHfBETHeDALATHfOTLESS_DALATH_RISHtEbFINAL_SEMKAT
  HnGAMALa_GARSHUNIoHEaTHeKAPHeLAMADHgMALAYALAM_BHAdJAcLLAbLAeNGAcNAbNAdYAdRAcSSAdTTAmIMdNUNdPEaRSIA
  N_BHETHfDHALATHhGHAMALoQAPHeREVERSED_PEkISHeSADHEeEMKATHgHINdOGDIAN_FEcKHAPHfZHAINmUPERSCRIPT_ALAP
  HrTAWcETHa_GARSHUNInWAWdYUDHa_HEhZAINlMUSICfOBLIQUE_LINE_ABOVEfBELOWsPTHAHA_ABOVEfBELOWfDOTTEDnQUS
  HSHAYAjRBASA_ABOVEfBELOWkUKKAKHAhWAHAfSUBLINEAR_COLONa_SKEWED_LEFTeRIGHTsFULL_STOPrPRALINEAR_COLON
  a_SKEWED_LEFTrFULL_STOPvTHREE_DOTS_ABOVEfBELOWpWO_VERTICAL_DOTS_ABOVEfBELOWxZQAPHA_ABOVEfBELOWfDOT
  TEDqNGEhT-REXdSHIRTgABaLE_TENNIS_PADDLE_AND_BALLzbCOcG_AMPERSANDiPOSTROPHEjSTERISKiCIRCUMFLEX_ACCE
  NTqOLONdMMAbERCIAL_ATnDIGIT_EIGHTfFIVEdOUReNINEeONEdSEVENeIXdTHREEeWOdZEROjOLLAR_SIGNlEQUALS_SIGNk
  XCLAMATION_MARKqFULL_STOPjGRAVE_ACCENTkEATER-THAN_SIGNrHYPHEN-MINUSmLATIN_CAPITAL_LETTER_AbBbCbDbE
  bFbGbHbIbJbKbLbMbNbObPbQbRbSbTbUbVbWbXbYbZqSMALL_LETTER_AbBbCbDbEbFbGbHbIbJbKbLbMbNbObPbQbRbSbTbUb
  VbWbXbYbZtEFT_CURLY_BRACKETnPARENTHESISlSQUARE_BRACKETrSS-THAN_SIGNnOW_LINEiNUMBER_SIGNlPERCENT_SI
  GNlLUS_SIGNjQUESTION_MARKlOTATION_MARKoREVERSE_SOLIDUSoIGHT_CURLY_BRACKETnPARENTHESISlSQUARE_BRACK
  ETuSEMICOLONiOLIDUSgPACEfTILDEfVERTICAL_LINEoALOG_LETTER_AaRCHAIC_RAkBAcDAcGAcHAcIbKAcLAcMAcNAbGAd
  PAcRAcSAcTAcUbWAcYAjSIGN_PAMUDPODiVIRAMAlVOWEL_SIGN_IbUrBANWA_LETTER_AbBAcDAcGAcIbKAcLAcMAcNAbGAdP
  AcSAcTAcUbWAcYAjVOWEL_SIGN_IbUtI_LE_LETTER_AaIbUEdEaEbHcFAcHAcIbKAbHAdLAcMAcNAbGAdOaOcPAbHAdQAcSAc
  TAbHAcONE-2b3b4b5b6fSAbHAeUaEcVAcXAcYAmTHAM_COMBINING_CRYPTOGRAMMIC_DOTzNSONANT_SIGN_BAcFINAL_NGAj
  HIGH_RATHA_OR_LOW_PAuLA_TANG_LAIkOW_PAgMAbEDIAL_LAcRAjSArHORA_DIGIT_EIGHTfFIVEdOUReNINEeONEdSEVENe
  IXdTHREEeWOdZEROpLETTER_AbBAcDAcEEcGREAT_SAiHIGH_CAbHAdFAcHAcKAbHAcXAdPAbHAdRATHAfSAbHAcSAdTAbHAdY
  AhIaIcLAaEcLAcOW_CAbHAdFAcHAcKAbHAcXAdPAbHAdRATHAfSAcTAbHAdYAfUEdMAcNAbGAcYAdOOcRAaNAcTAdUEdUaUcWA
  jSIGN_CAANGfDOKMAIgHANGdOYdKAANaKUUgEOWdHUEN_TONE-3b4b5h-LUE_KARANpMAI_KANGa_LAIiSAMdYAMOKjRA_HAAM
  gEVERSED_ROTATED_RANAvSAKOTdTKAANaKUUiWANfTONE-1b2gWIANGaWAAKoTHAM_DIGIT_EIGHTfFIVEdOUReNINEeONEdS
  EVENeIXdTHREEeWOdZEROpVOWEL_SIGN_AaAbEbIcEbIaIcMAI_SAThOaA_ABOVEfBELOWhObYcTALL_AAgHAM_AIhUaEbUaEt
  VIET_LETTER_HIGH_BOcCHOcOcDOcFOcGOcHOcKHHOcOcOcLOcMOcNGOcObYOdObPHOcOcROcSOcTHOcOcVOcYOhLOW_BOcCHO
  cOcDOcFOcGOcHOcKHHOcOcOcLOcMOcNGOcObYOdObPHOcOcROcSOcTHOcOcVOcYOnMAI_KANGdHITiSYMBOL_HO_HOIgKOI_KO
  IfNdNUENGfSAMkTONE_MAI_EKcNUENGfSONGeTHOmVOWEL_AAbMbNbUEcYcEbIaAcObUaAbEaAqKEOUT_BOXiRI_ABBREVIATI
  ON_SIGNrDIGIT_EIGHTfFIVEdOUReNINEeONEdSEVENeIXdTHREEeWOdZEROkLETTER_AaAbIbRCHAIC_KHAkUcBAbHAdCAbHA
  dDAbDAbHAdHAdEbGAbHAdHAcIaIcJAbHAdKAbHAdLAcMAcNAbGAcNAcYAdObPAbHAdRAbRAdSAbHAdTAbHAcTAbHAeUaUcVAcY
  AjSIGN_ANUSVARAiNUKTAfVIRAMAeSARGAmVOWEL_SIGN_AAbIbUcEbIaIcObUaUrLLY_MARK_FIVEeONEmMALEdIL_AND_ODD
  _SIGNlS_ABOVE_SIGNmU_LENGTH_MARKoCREDIT_SIGNkURRENT_SIGNmDAY_SIGNhEBIT_SIGNjIGIT_EIGHTfFIVEdOUReNI
  NEeONEdSEVENeIXdTHREEeWOdZEROjRY_CULTIVATION_SIGNuFRACTION_DOWNSCALING_FACTOR_KIIZHyONE_EIGHTHbIET
  HjFIFTHeORTIETHiHALF-1b2gONE-HUNDRED-AND-SIXTIETHyQUARTERhSIXTEENTH-1b2hY-FOURTHmTENTHeHIRTY-SECON
  DlREE-HUNDRED-AND-TWENTIETHzbWENTIETHnTHREE_EIGHTIETHSkQUARTERSiSIXTEENTHSgY-FOURTHSnTWENTIETHSzIN
  _POSSESSION_SIGNsLAND_SIGNiETTER_AaAbIbUcCAcEaEcHAcIaIcJAcKAcLAbLAbLAeMAcNAbGAcNAbNAdYAdOaOcPAcRAb
  RAdSAbHAcSAdTAbTAdUaUcVAcYAjMONTH_SIGNkNUMBER_ONE_HUNDREDhTHOUSANDmSIGNeTENkOMcPUNCTUATION_END_OF_
  TEXTxRUPEE_SIGNkSALT_PAN_SIGNmIGN_AAZHAAKKUiNUSVARAiCEVITUgKAACUeURUNIeZHIfMUKKURUNIhTHALIYAhUVUZH
  AKKUlNELdPAARAMeNAMdTHAKKUhONdUZHAKKUhVAKAIYARAAiRAAKANhELIdIRAMAeSARGAlPENT_SIGNjTARTING_FROM_SIG
  NsTOTAL_SIGNjRADITIONAL_CREDIT_SIGNlNUMBER_SIGNxVOWEL_SIGN_AAbIbUcEaEcIaIcOaOcUaUnWET_CULTIVATION_
  SIGNuYEAR_SIGNnNABATA_TREEkGERINEfSA_DIGIT_EIGHTfFIVEdOUReNINEeONEdSEVENeIXdTHREEeWOdZEROkLETTER_A
  CbQbWCbQbXbZcXbZcBAcCAbHAdDAbHAdECbQbXbZcFAbINAL_NGiGAbHAdHAbTAbTAeICbQbXbZcKAbHAdLAbONG_UEXiMAbCb
  QbXbZcNAbGAcHAcYAdOCbQbXbZcPAbHAdRAcSAbHAbORT_AWXdUEZjTAbHAcSAdUCbECbQbXbZcICbQbUCbQbXbZcXbZcQbXbZ
  cVCbQbXbZcWAcXAcYAcZAmUT_COMPONENT-001b2b3b4b5b6b7b8b9c10b1b2b3b4b5b6b7b8b9c20b1b2b3b4b5b6b7b8b9c3
  0b1b2b3b4b5b6b7b8b9c40b1b2b3b4b5b6b7b8b9c50b1b2b3b4b5b6b7b8b9c60b1b2b3b4b5b6b7b8b9c70b1b2b3b4b5b6b
  7b8b9c80b1b2b3b4b5b6b7b8b9c90b1b2b3b4b5b6b7b8b9d100b1b2b3b4b5b6b7b8b9c10b1b2b3b4b5b6b7b8b9c20b1b2b
  3b4b5b6b7b8b9c30b1b2b3b4b5b6b7b8b9c40b1b2b3b4b5b6b7b8b9c50b1b2b3b4b5b6b7b8b9c60b1b2b3b4b5b6b7b8b9c
  70b1b2b3b4b5b6b7b8b9c80b1b2b3b4b5b6b7b8b9c90b1b2b3b4b5b6b7b8b9d200b1b2b3b4b5b6b7b8b9c10b1b2b3b4b5b
  6b7b8b9c20b1b2b3b4b5b6b7b8b9c30b1b2b3b4b5b6b7b8b9c40b1b2b3b4b5b6b7b8b9c50b1b2b3b4b5b6b7b8b9c60b1b2
  b3b4b5b6b7b8b9c70b1b2b3b4b5b6b7b8b9c80b1b2b3b4b5b6b7b8b9c90b1b2b3b4b5b6b7b8b9d300b1b2b3b4b5b6b7b8b
  9c10b1b2b3b4b5b6b7b8b9c20b1b2b3b4b5b6b7b8b9c30b1b2b3b4b5b6b7b8b9c40b1b2b3b4b5b6b7b8b9c50b1b2b3b4b5
  b6b7b8b9c60b1b2b3b4b5b6b7b8b9c70b1b2b3b4b5b6b7b8b9c80b1b2b3b4b5b6b7b8b9c90b1b2b3b4b5b6b7b8b9d400b1
  b2b3b4b5b6b7b8b9c10b1b2b3b4b5b6b7b8b9c20b1b2b3b4b5b6b7b8b9c30b1b2b3b4b5b6b7b8b9c40b1b2b3b4b5b6b7b8
  b9c50b1b2b3b4b5b6b7b8b9c60b1b2b3b4b5b6b7b8b9c70b1b2b3b4b5b6b7b8b9c80b1b2b3b4b5b6b7b8b9c90b1b2b3b4b
  5b6b7b8b9d500b1b2b3b4b5b6b7b8b9c10b1b2b3b4b5b6b7b8b9c20b1b2b3b4b5b6b7b8b9c30b1b2b3b4b5b6b7b8b9c40b
  1b2b3b4b5b6b7b8b9c50b1b2b3b4b5b6b7b8b9c60b1b2b3b4b5b6b7b8b9c70b1b2b3b4b5b6b7b8b9c80b1b2b3b4b5b6b7b
  8b9c90b1b2b3b4b5b6b7b8b9d600b1b2b3b4b5b6b7b8b9c10b1b2b3b4b5b6b7b8b9c20b1b2b3b4b5b6b7b8b9c30b1b2b3b
  4b5b6b7b8b9c40b1b2b3b4b5b6b7b8b9c50b1b2b3b4b5b6b7b8b9c60b1b2b3b4b5b6b7b8b9c70b1b2b3b4b5b6b7b8b9c80
  b1b2b3b4b5b6b7b8b9c90b1b2b3b4b5b6b7b8b9d700b1b2b3b4b5b6b7b8b9c10b1b2b3b4b5b6b7b8b9c20b1b2b3b4b5b6b
  7b8b9c30b1b2b3b4b5b6b7b8b9c40b1b2b3b4b5b6b7b8b9c50b1b2b3b4b5b6b7b8b9c60b1b2b3b4b5b6b7b8nITERATION_
  MARKtPE_CARTRIDGEjDRIVEiURUSeXIdEACUP_WITHOUT_HANDLEsPOTdR-OFF_CALENDARnDROP-BARBED_RIGHTWARDS_ARR
  OWxSPOKED_ASTERISKwDDY_BEARiLEPHONE_LOCATION_SIGNnON_TOP_OF_MODEMpRECEIVERa_WITH_PAGEpORDERiSIGNkS
  COPEfVISIONhUGU_AI_LENGTH_MARKoDIGIT_EIGHTfFIVEdOUReNINEeONEdSEVENeIXdTHREEeWOdZEROkFRACTION_DIGIT
  _ONE_FOR_EVEN_POWERS_OF_FOURtODD_POWERS_OF_FOURzbTHREE_FOR_EVEN_POWERS_OF_FOURtODD_POWERS_OF_FOURz
  cWO_FOR_EVEN_POWERS_OF_FOURtODD_POWERS_OF_FOURzbZERO_FOR_ODD_POWERS_OF_FOURzrLENGTH_MARKjTTER_AaAb
  IbUcBAbHAdCAbHAdDAbDAbHAdHAcZAdEaEcGAbHAdHAcIaIcJAbHAdKAbHAdLAbLAbLAeMAcNAaKAARA_POLLUmGAcNAcYAdOa
  OcPAbHAdRAbRAbRAeSAbHAcSAdTAbHAcSAcTAbHAeUaUcVAbOCALIC_LaLcRaRkYAjSIGN_ANUSVARAhVAGRAHAiCANDRABIND
  UkOMBINING_ANUSVARA_ABOVEoCANDRABINDU_ABOVEzcNUKTAfSIDDHAMhTUUMUfVIRAMAeSARGAmVOWEL_SIGN_AAbIbUcEa
  EcIaIcOaOcUaUcVOCALIC_LaLcRaRzbNGE_SIGNhNIS_RACQUET_AND_BALLuTcST_TUBEhTRAGRAM_FOR_ACCUMULATIONlDV
  ANCEgGGRAVATIONkSCENTgBARRIERgOLD_RESOLUTIONoRANCHING_OUTnCENTREfHANGEfLOSED_MOUTHhNESSfUREgOMPLET
  IONfIANCEiNSTANCYgTACTdENTIONgRARIETYlDARKENINGiECISIVENESSkFECTIVENESS_OR_DISTORTIONzPARTUREiIFFI
  CULTIESkMINISHMENTjMINGfVERGENCEjOUBTeUTIESgEASEdMBELLISHMENTmNCOUNTERSiDEAVOURhLARGEMENTkTERNITYh
  XHAUSTIONkFAILUREgLIGHTfOLLOWINGhSTERINGiULL_CIRCLEhNESSiGATHERINGa_INlOING_TO_MEETmREATNESSiUARDE
  DNESSlHARDNESShOLDING_BACKmINCREASEgNERfJOYdKEEPING_SMALLmINSHIPhLABOURINGhW_OR_MODELlEGIONgMASSIN
  GgEASUREgIREDfON_THE_VERGElPPOSITIONkPACKINGfTTERNgENETRATIONkURITYgREACHdLEASEfSIDENCEfSTANCEhPON
  SEhITUALgSEVERANCEiINKINGgTOPPAGEfVEdRENGTHiUNITYfVASTNESS_OR_WASTINGtWAITINGfTCHfYOUTHFULNESSzHAA
  NA_AABAAFILIiBAFILIhEBEFILIgEBEEFILIiYBEYFILIjIBIFILIhLETTER_AINUdLIFUfBAAdCHAVIYANIjDAADHUeVIYANI
  hHAALUgFAAFUfGAAFUeHAINUfNAVIYANIjHAAcHAAeJAVIYANIiKAAFUeHAAeLAAMUeHAVIYANIjMEEMUfNAAcOONUfPAVIYAN
  IiQAAFUfRAAdSAADHUfEENUeHAVIYANIhEENUgTAVIYANIhHAAaLUfObTAAeVAAVUfWAAVUfYAAdZAAbVIYANIhOjOABOAFILI
  iBOFILIgOBOOFILIjSUKUNfUBUFILIlI_CHARACTER_ANGKHANKHUkBO_BAIMAIjCHO_CHANaGdINGdOEiDO_CHADAfDEKgFO_
  FAaNeNGMANhHO_HIPdNOKHUKjKHO_KHAIcONcUATdWAIfRAKHANGiMUTfO_KAIgLAKKHANGYAOkO_CHULAfLINGgUcMAI_CHAT
  TAWAiEKcHAN-AKATiTHOcRIeTAIKHUgYAMOKhO_MAfNGO_NGUgIKHAHIThO_NENcUfO_ANGfPAIYANNOIiHINTHUfO_PHANcUN
  GfSAMPHAOkO_PLAgRO_RUAfUcSARA_AaAbEbI_MAIMALAIeUANjMcEbIaIcObUaEaEcUgO_RUSIeSALAdObUAgTHANTHAKHATj
  O_NANGMONTHOkPHUTHAOhTHAHANdNcONGdUNGiO_PATAKfTAOgWO_WAENhYAMAKKANhO_YAKcINGqURRENCY_SYMBOL_BAHTuD
  IGIT_EIGHTfFIVEdOUReNINEeONEdSEVENeIXdTHREEeWOdZEROnERE_DOES_NOT_EXISToEXISTShFOREfMODYNAMIChMETER
  jIN_GREEK_CROSSlSALTIREgPACEgKING_FACEkRD_PLACE_MEDALpONG_SANDALjUGHT_BALLOONnREE_BUTTON_MOUSEmCON
  SECUTIVE_EQUALS_SIGNSyDIMENSIONAL_ANGLEqOT_PUNCTUATIONpLEFTWARDS_ARROWSpINES_CONVERGING_LEFTeRIGHT
  wNETWORKED_COMPUTERStPOINTED_BLACK_STARsRAYS_ABOVEfBELOWfLEFTeRIGHTjIGHTWARDS_ARROWSrSPEECH_BUBBLE
  Sp-D_BOTTOM-LIGHTED_RIGHTWARDS_ARROWHEADzkLEFT-LIGHTED_DOWNWARDS_EQUILATERAL_ARROWHEADztRIGHT-LIGH
  TED_UPWARDS_EQUILATERAL_ARROWHEADzsTOP-LIGHTED_LEFTWARDS_EQUILATERAL_ARROWHEADzgRIGHTWARDS_ARROWHE
  ADjEQUILATERAL_ARROWHEADzvEM_DASHhPER-EM_SPACEqUMBS_DOWN_SIGNjUP_SIGNlNDER_CLOUD_AND_RAINpSTORMlIB
  ETAN_ASTROLOGICAL_SIGN_-KHYUD_PAjSDONG_TSHUGSlGRA_GCAN_-CHAR_RTAGSzoCANTILLATION_SIGN_CANG_TE-UjHE
  AVY_BEATkLIGHT_BEATkSBUB_-CHALzdDIGIT_EIGHTfFIVEdOUReHALF_EIGHTfFIVEdOUReNINEeONEdSEVENeIXdTHREEeW
  OdZEROjNINEeONEdSEVENeIXdTHREEeWOdZEROkKU_RU_KHAa_BZHI_MIG_CANwLETTER_-AcAbBAbHAdCAbHAdDAbDAbHAdHA
  cZAbHAeFIXED-FORM_RAnGAbHAdHAcJAcKAbHAcKAcSSAeLAcMAcNAbGAcNAcYAdPAbHAdRAbRAdSAbHAcSAdTAbHAcSAbHAdT
  AbHAeWAcYAcZAbHAjOGOTYPE_SIGN_CHAD_RTAGSkLHAG_RTAGSyMARK_ANG_KHANG_GYAScONoBKA-_SHOG_GI_MGO_RGYANm
  YIG_MGOqSDUS_RTAGSjKA-_SHOG_GI_MGO_RGYANuUR_YIG_MGOnCARET_-DZUD_RTAGS_BZHI_MIG_CANmME_LONG_CANxYIG
  _MGO_PHUR_SHAD_MAzHE_MGOgLOSING_BRDA_RNYING_YIG_MGO_SGAB_MAzcYIG_MGO_SGAB_MAxDELIMITER_TSHEG_BSTAR
  vGTER_TSHEGfYIG_MGO_-UM_GTER_TSHEG_MAnRNAM_BCAD_MAqTRUNCATED_AxUG_RTAGS_GYAScONoHALANTAhINITIAL_BR
  DA_RNYING_YIG_MGO_MDUN_MAzcYIG_MGO_MDUN_MAvTERSYLLABIC_TSHEGtLEADING_MCHAN_RTAGStMNYAM_YIG_GI_MGO_
  RGYANwNGAS_BZUNG_NYI_ZLAhSGOR_RTAGSuYIS_SHADeTSHEGa_SHADpPALUTAgRGYA_GRAM_SHADnIN_CHEN_SPUNGS_SHAD
  uSBRUL_SHADjHADeTRAILING_MCHAN_RTAGStSA_-PHRUhHEG_SHADkYIG_MGO_TSHEG_SHAD_MAzbSIGN_GRU_CAN_RGYINGS
  lMED_RGYINGSpINVERTED_MCHU_CANrLCE_TSA_CANjI_RTAGSjMAR_TSHESiCHU_CANiNYI_ZLA_NAA_DAoRDEL_DKAR_GCIG
  dNYISeSUMeRDEL_NAGnNAG_GCIGdNYISeSUMeRDEL_DKARrJES_SU_NGA_ROnNAM_BCADjSNA_LDANiYANG_RTAGSiR_TSHESn
  UBJOINED_LETTER_-AcAbBAbHAdCAbHAdDAbDAbHAdHAcZAbHAeFIXED-FORM_RAcWAcYAnGAbHAdHAcJAcKAbHAcSSAeLAcMA
  cNAbGAcNAcYAdPAbHAdRAcSAbHAcSAdTAbHAcSAbHAdTAbHAeWAcYAcZAbHAkSIGN_INVERTED_MCHU_CANrLCE_TSA_CANlMC
  HU_CANwYLLABLE_OMjMBOL_DRIL_BUhNOR_BUa_BZHI_-KHYILlGSUM_-KHYILlNYIS_-KHYILsPADMA_GDANjHUR_PAhRDO_R
  JEa_RGYA_GRAMyVOWEL_SIGN_AAcEaEcIaIcOaOcREVERSED_IaIlUaUcVOCALIC_LaLcRaRzcCKETeE_OVER_INFINITYpFIN
  AGH_CONSONANT_JOINERqLETTER_AHAGGAR_YAZHlYER_YAGHjBERBER_ACADEMY_YAHbJsTAWELLEMET_YAZnUAREG_YAGHbN
  cHbKaHcNGcQbZHlYAaAbBaHcCHcDaDaHcHcFbGaHaHdHaHcJbKaHaHdLbMbNbPbQbRaRcSaHbScTaHbTcVbWbYbZaHbZdEaYcI
  bObUjMODIFIER_LETTER_LABIALIZATION_MARKzjSEPARATOR_MARKvGERa_FACEhHT_TRIFOLIATE_SNOWFLAKEyLDEa_OPE
  RATORa_ABOVE_LEFTWARDS_ARROWpRIGHTWARDS_ARROWwWITH_DOT_ABOVEjRISING_DOTSzWITH_DOT_ABOVEfBELOWjRING
  _ABOVEtMER_CLOCKhS_WITH_LEFT_HALF_BLACKpRIGHT_HALF_BLACKzNYa_TWO_DOTS_OVER_ONE_DOT_PUNCTUATIONzlRE
  D_FACEhHUTA_ABBREVIATION_SIGNqNJIeDIGIT_EIGHTfFIVEdOUReNINEeONEdSEVENeIXdTHREEeWOdZEROkGVANGfLETTE
  R_AaAbIbUcBAbHAdCAbHAdDAbDAbHAdHAdEbGAbHAdHAcIaIcJAbHAdKAbHAdLAcMAcNAbGAcNAcYAdObPAbHAdRAcSAbHAcSA
  dTAbHAcTAbHAeUaUcVAbOCALIC_LaLcRaRkYAjOMcSIGN_ANUSVARAhVAGRAHAiCANDRABINDUlNUKTAfVIRAMAeSARGAmVOWE
  L_SIGN_AAbIbUcEbIaIcObSHORT_EbOhUaUcVOCALIC_LaLcRaRzbONIAN_SIGN_CAPITAL_ETkETpOILETeKYO_TOWERjMATO
  eNGUEeOLBOXeTHaBRUSHiP_ARC_ANTICLOCKWISE_ARROWa_WITH_PLUSzeCLOCKWISE_ARROW_WITH_MINUSzfCURLY_BRACK
  ETnHALF_BLACK_CIRCLEmINTEGRALiLEFT_PARENTHESISqRIGHT_PARENTHESISrSECTION_SIGNpTdLEFT_CORNERfROPeHA
  LF_BRACKETrPARENTHESISlRIGHT_CORNERfROPeHALF_BRACKETsSQUARE_BRACKEToTORTOISE_SHELL_BRACKETwWITH_UP
  WARDS_ARROW_ABOVEzbRTOISE_SHELL_BRACKETED_CJK_UNIFIED_IDEOGRAPH-4E09c8Ce52DDdB89e6253d557d72Ce70B9
  d6D7zbLATIN_CAPITAL_LETTER_SzuTAL_RUNOUTjO_LETTER_AaEcBAbREATHY_AEcEaOcIaUkCHAdDAcEaOcGAcHAcIaUcJA
  cKAcLAcMAcNAbGAdObPAcRAcSAcTAcUbWAcYAjSIGN_RISING_TONEuRACKBALLfTOReDE_MARK_SIGNmINcMa_CARfNSPLUTO
  fVERSAL_INTERSECTIONwIANGLE_WITH_DOT_ABOVEjROUNDED_CORNERSpSERIFS_AT_BOTTOMqUNDERBARo-HEADED_RIGHT
  WARDS_ARROWzbULAR_BULLETgFLAG_ON_POSTmRULERnCOLONfDENT_EMBLEMlGRAM_FOR_EARTHfFIREeHEAVENgLAKEeMOUN
  TAINiTHUNDERhWATEReINDnPLE_COLON_OPERATORoDAGGERgHORIZONTAL_BAR_WITH_DOUBLE_VERTICAL_STROKEwTRIPLE
  _VERTICAL_STROKEzrINTEGRALiNESTED_GREATER-THANmLESS-THANqPLUSdRIMEfSOLIDUS_BINARY_RELATIONxTILDEfV
  ERTICAL_BAR_BINARY_RELATIONpDELIMITERjRIGHT_TURNSTILEpWITH_HORIZONTAL_STROKEzpOLLaEYBUShPHYcICAL_D
  RINKfFISHlUEa_LIGHT_MOON_ARTArMPETgUGRIK_SIGNjLIPdMBLER_GLASSlRKEYcISH_LIRA_SIGNoNED_AMPERSANDiNGL
  EfBLACK_PENTAGONiSHOGI_PIECErCAPITAL_FiOMMAfDAGGERfIGIT_THREEeWOjGREEK_SMALL_LETTER_IOTAxNORTH_EAS
  T_POINTING_LEAFsWEST_POINTING_LEAFwT_SIGNiOK_HAND_SIGNmSANS-SERIF_CAPITAL_GbLbYtEMICOLONiMALL_FgOU
  TH_EAST_POINTING_LEAFsWEST_POINTING_LEAFyWHITE_SHOGI_PIECEvTLEfWELVE_POINTED_BLACK_STARxISTED_RIGH
  TWARDS_ARROWSxO_ASTERISKS_ALIGNED_VERTICALLYzdBUTTON_MOUSEmCONSECUTIVE_EQUALS_SIGNSyDOT_LEADERgPUN
  CTUATIONmS_OVER_ONE_DOT_PUNCTUATIONzeHEARTSgINTERSECTING_LOGICAL_ANDdORxJOINED_SQUARESoLOGICAL_AND
  _OPERATORmOR_OPERATORtMEN_HOLDING_HANDSrSPEECH_BUBBLESoWOMEN_HOLDING_HANDSu-EM_DASHlUGARITIC_LETTE
  R_AINcLPAeBETAeDELTAeHALeGAMLAeHAINfHOaTAeIbKAFcHAdLAMDAfMEMdNUNdPUcQOPAeRASHAfSADEcMKAeHINdSUdTET
  cHANNAfOcUbWOcYODdZETAdUjWORD_DIVIDERuMBRELLAa_ON_GROUNDjWITH_RAIN_DROPSxNAMUSED_FACElCERTAINTY_SI
  GNoDERTIEfO_SYMBOLjICORN_FACEjONa_ABOVE_BAR_ABOVE_INTERSECTIONwINTERSECTIONsBESIDE_AND_JOINED_WITH
  _UNIONzdWITH_LOGICAL_ORkMINUS_SIGNkOVERBARpT_SEPARATORkED_SYMBOLkVERSAL_RECYCLING_SYMBOLyMARRIED_P
  ARTNERSHIP_SYMBOLzcP_ARROW_THROUGH_CIRCLEpHEADa_BETWEEN_TWO_HORIZONTAL_BARSzcIN_A_RECTANGLE_BOXzdB
  ARB_LEFT_DOWN_BARB_LEFT_HARPOONmRIGHT_HARPOONzdRIGHT_DOWN_BARB_LEFT_HARPOONmRIGHT_HARPOONzjDOWN_AR
  ROWa_WITH_BASEpBLACK_ARROWlDOUBLE_ARROWmSANS-SERIF_ARROWqTRIANGLE-HEADED_ARROWvWHITE_ARROWqFISH_TA
  ILjRIGHT_DIAGONAL_ELLIPSISxTACKa_WITH_CIRCLE_ABOVEx-POINTING_AIRPLANEiMILITARY_AIRPLANErRED_TRIANG
  LEmSMALL_AIRPLANEiRED_TRIANGLEsTRIANGLE_WITH_LEFT_HALF_BLACKpRIGHT_HALF_BLACKzpPER_AND_LEFT_AND_LO
  WER_TRIANGULAR_THREE_QUARTERS_BLOCKzuOWER_ONE_EIGHTH_BLOCKqTRIANGULAR_HALF_BLOCKzcRIGHT_AND_LOWER_
  TRIANGULAR_THREE_QUARTERS_BLOCKzzbBLADE_SCISSORSoFIVE_EIGHTHS_BLOCKsHALF_BLOCKa_AND_LOWER_HALF_INV
  ERSE_MEDIUM_SHADEzqCIRCLEgINVERSE_MEDIUM_SHADE_AND_LOWER_HALF_BLOCKziWHITE_CIRCLEuMEDIUM_SHADErLEF
  T_BLOCK_DIAGONAL_LOWER_CENTRE_TO_LOWER_MIDDLE_RIGHTsUPPER_MIDDLE_RIGHTmRIGHTvLEFT_TO_LOWER_MIDDLE_
  RIGHTsUPPER_CENTREgMIDDLE_RIGHTzbMIDDLE_LEFT_TO_UPPER_CENTREgMIDDLE_RIGHTmRIGHTzhUPPER_MIDDLE_LEFT
  _TO_UPPER_CENTREgRIGHTzwCORNER_WITH_DOTpOR_LOWER_RIGHT_CURLY_BRACKET_SECTIONzlQUADRANT_CIRCULAR_AR
  CvTO_LOWER_RIGHT_FILLsRIANGLEcULAR_MEDIUM_SHADEzdONE_EIGHTH_BLOCKmQUARTER_BLOCKrRIGHT_BLOCK_DIAGON
  AL_LOWER_MIDDLE_LEFT_TO_LOWER_CENTREgRIGHTzhUPPER_CENTRE_TO_LOWER_MIDDLE_RIGHTmRIGHTlUPPER_MIDDLE_
  RIGHTzdLEFT_TO_LOWER_CENTREgMIDDLE_RIGHTsUPPER_MIDDLE_RIGHTzbMIDDLE_LEFT_TO_LOWER_CENTREgMIDDLE_RI
  GHTmRIGHTzwDROP-SHADOWED_WHITE_SQUAREzbOR_LOWER_LEFT_CURLY_BRACKET_SECTIONzkPENCILgQUADRANT_CIRCUL
  AR_ARCvSHADOWED_WHITE_CIRCLEgSQUAREvTO_LOWER_LEFT_FILLrRIANGLEcULAR_MEDIUM_SHADEzeSEVEN_EIGHTHS_BL
  OCKtTHREE_EIGHTHS_BLOCKnQUARTERS_BLOCKtRIANGULAR_ONE_QUARTER_BLOCKzhSIDE-DOWN_FACEoWARDS_ANCORAfRR
  OWa_AND_RIGHT_ONE_EIGHTH_BLOCKzbFROM_BARiLEFTWARDS_OF_DOWNWARDS_ARROWzdTO_BARgWITH_DOUBLE_STROKEnE
  QUILATERAL_ARROWHEADvHORIZONTAL_STROKErLARGE_TRIANGLE_ARROWHEADyMEDIUM_TRIANGLE_ARROWHEADzNOTCHED_
  TAILmSMALL_EQUILATERAL_ARROWHEADvTRIANGLE_ARROWHEADyTIP_LEFTWARDSjRIGHTWARDSzBLACK_ARROWfCIRCLED_W
  HITE_ARROWzCOMPRESSED_ARROWqDASHED_ARROWlOUBLE_ARROWmFINGER-POST_ARROWrHARPOON_WITH_BARB_LEFT_BESI
  DE_DOWNWARDS_HARPOON_WITH_BARB_RIGHTziUPWARDS_HARPOON_WITH_BARB_RIGHTznFROM_BARiTO_BARhWARDSjRIGHT
  _FROM_BARiTO_BARhWARDSzcEAVY_ARROWfCOMPRESSED_ARROWwPAIRED_ARROWSnQUADRUPLE_ARROWpROCKETgSANS-SERI
  F_ARROWpQUARED_ARROWnTRIANGLE_ARROWHEADk-HEADED_ARROWa_LEFTWARDS_OF_DOWNWARDS_TRIANGLE-HEADED_ARRO
  WztTO_BARgWITH_BOLD_SHAFTkDOUBLE_HORIZONTAL_STROKEyHEAVY_SHAFTlLONG_TIP_LEFTWARDSjRIGHTWARDStMEDIU
  M_SHAFTmNARROW_SHAFTmVERY_HEAVY_SHAFTzcDASHED_ARROWmPAIRED_ARROWSzbPLE_ARROWlWO_HEADED_ARROWn-HEAD
  ED_ARROW_FROM_SMALL_CIRCLErWITH_TRIANGLE_ARROWHEADSzqWHITE_ARROWa_FROM_BARa_WITH_HORIZONTAL_BARzdO
  N_PEDESTALa_WITH_HORIZONTAL_BARoVERTICAL_BARzeWITHIN_TRIANGLE_ARROWHEADzgDOUBLE_ARROWa_ON_PEDESTAL
  zmRANUSfScVAI_COMMAfDIGIT_EIGHTfFIVEdOUReNINEeONEdSEVENeIXdTHREEeWOdZEROkFULL_STOPjQUESTION_MARKnS
  YLLABLE_AaNcBAbEaEcHAbEaEcIbOaOcUcIbOaOcUcCAbEaEcIbOaOcUcDAbEaEcHAbEaEcHAbEaEcIbOaOcUcIbOaOcUcIbOa
  OcUcEaEaNcNcFAbEaEcIbOaOcUcGAbBAbEaEbNcIbOaNbOcUcEaEbNcIbOaOcUcHAaNcEaEbNcIaNcOaNbOcUaNdIaNcJAbEaE
  cIbOaOcUcKAaNcEaEcIbOaOcPAaNcEaEbNcIbOaOcUcUcLAbEaEbNGTHENERjIbOaOcUcMAbBAbEaEcIbOaOcUcEaEcGBAbEaE
  cIbOaOcUdIbOaOcUcNAbDAbEaEcIbOaLE_DOcFAcKAcMAcSOOgOcUcEaEcGaANcENcGAbEaEbNcIbOaOcUcONdIbJAbEaEcIbO
  aOcUcOaOcUbYAbEaEcIbOaOcUdOaNbOaNdPAbEaEcIbOaOcUcRAbEaEcIbOaOcUcSAbEaEcHAbEaEcIbOaOcUcIbOaOcUcTAbE
  aEcHAbEaEcIbOaOcUcIbOaOcUcUaNcVAbEaEcIbOaOcUcWAaNcEaEaNcNcIaNcOaNbOaNdUaNdYAbEaEcIbOaOcUcZAbEaEcHA
  bEaEcIbOaOcUcIbOaOcUjMBOL_BANGeDANGdO-OcONGfFAAcEENGfJONGeKEENGeUNGeNIIdTAAcINGdONGnMPIREfRIATION_
  SELECTOR-1a0a0b1b2b3b4b5b6b7b8b9c1a0b1b2b3b4b5b6b7b8b9c2a0b1b2b3b4b5b6b7b8b9c3a0b1b2b3b4b5b6b7b8b9
  c4a0b1b2b3b4b5b6b7b8b9c5a0b1b2b3b4b5b6b7b8b9c6a0b1b2b3b4b5b6b7b8b9c7a0b1b2b3b4b5b6b7b8b9c8a0b1b2b3
  b4b5b6b7b8b9c9a0b1b2b3b4b5b6b7b8b9d2a0a0b1b2b3b4b5b6b7b8b9c1a0b1b2b3b4b5b6b7b8b9c2a0b1b2b3b4b5b6b7
  b8b9c3a0b1b2b3b4b5b6b7b8b9c4a0b1b2b3b4b5b6b7b8b9c5a0b1b2b3b4b5b6c6b7b8b9c3a0b1b2b3b4b5b6b7b8b9c4a0
  b1b2b3b4b5b6b7b8b9c5a0b1b2b3b4b5b6b7b8b9c6a0b1b2b3b4b5b6b7b8b9c7a0b1b2b3b4b5b6b7b8b9c8a0b1b2b3b4b5
  b6b7b8b9c9a0b1b2b3b4b5b6b7b8b9uECTOR_OR_CROSS_PRODUCTvDIC_SIGN_ANUSVARA_ANTARGOMUKHAmBAHIRGOMUKHAm
  UBHAYATO_MUKHAoVAMAGOMUKHAa_WITH_TAILzeRDHAVISARGAlTIKRAMAiDOUBLE_ANUSVARA_ANTARGOMUKHAzdHEXIFORM_
  LONG_ANUSVARAwJIHVAMULIYAlLONG_ANUSVARAnNIHSHVASAjREVERSED_VISARGA_ANUDATTAiUDATTAwOTATED_ARDHAVIS
  ARGAtTHANG_LONG_ANUSVARAuTIRYAKgUPADHMANIYAlVISARGA_ANUDATTAa_WITH_TAILsSVARITAhUDATTAa_WITH_TAILy
  YAJURVEDIC_MIDLINE_SVARITAzgTONE_ATHARVAVEDIC_INDEPENDENT_SVARITAzhCANDRA_ABOVEfBELOWmDOT_BELOWhUB
  LE_RING_ABOVEkSVARITAoKARSHANAgTHAKA_ANUDATTAqPRENKHAhRIGVEDIC_KASHMIRI_INDEPENDENT_SVARITAzkNG_AB
  OVEkSHARAfTHREE_DOTS_BELOWpRIPLE_SVARITAnWO_DOTS_BELOWoYAJURVEDIC_AGGRAVATED_INDEPENDENT_SVARITAzf
  INDEPENDENT_SVARITAtKATHAKA_INDEPENDENT_SVARITAa_SCHROEDERzzhRSICLEfTICAL_BAR_BESIDE_RIGHT_TRIANGL
  EvDOUBLE_LEFT_TURNSTILEvTRIPLE_RIGHT_TURNSTILEwWITH_HORIZONTAL_STROKEzbELLIPSISiFOUR_DOTSjIDEOGRAP
  HIC_ITERATION_MARKzbKANA_REPEAT_MARKa_LOWER_HALFkUPPER_HALFpWITH_VOICED_SOUND_MARKa_UPPER_HALFzuLI
  NEa_EXTENSIONjWITH_CIRCLE_ABOVEfBELOWmMIDDLE_DOTuMALE_WITH_STROKE_SIGNvONE_EIGHTH_BLOCK-2b3b4b5b6b
  7sSIX_DOTSiTAB_KEYeULATIONa_SETnILDEeRAFFIC_LIGHTnZIGZAG_LINErY_BOLD_GREEK_CROSSqHEAVY_EIGHT_POINT
  ED_BLACK_STARsSPOKED_ASTERISKvFIVE_SPOKED_ASTERISKuGREEK_CROSSlREVERSE_SOLIDUSpSALTIREgIX_SPOKED_A
  STERISKsOLIDUShWHITE_CIRCLEgSQUAREsMUCH_GREATER-THANmLESS-THANrSTAeIBRATION_MODEmCTORY_HANDkDEO_CA
  MERAgGAMEfCASSETTElETNAMESE_ALTERNATE_READING_MARK_CAcNHAYzkWDATA_SQUAREnOLINeRGOdTHKUQI_CAPITAL_L
  ETTER_AbBBEcEcCEbHEdDEbHEdEaIcFEcGAcHAbHAdIaJEdJEcKAcLAbLAdMEcNEbJEdObPEcQAcREcSEbHEdTEbHEdUbVEcXE
  cYbZErSMALL_LETTER_AbBBEcEcCEbHEdDEbHEdEaIcFEcGAcHAbHAdIaJEdJEcKAcLAbLAdMEcNEbJEdObPEcQAcREcSEbHEd
  TEbHEdUbVEcXEcYbZExOIDED_GREEK_CROSSqLCANOeLEYBALLhUME_INTEGRALoS1a0a0b1b2b3b4b5b6b7b8b9c1a0b1b2b3
  b4b5b6b7b8b9c2a0b1b2b3b4b5b6b7b8b9c3a0b1b2b3b4b5b6b7b8b9c4a0b1b2b3b4b5b6b7b8b9c5a0b1b2b3b4b5b6b7b8
  b9c6a0b1b2b3b4b5b6b7b8b9c7a0b1b2b3b4b5b6b7b8b9c8a0b1b2b3b4b5b6b7b8b9c9a0b1b2b3b4b5b6b7b8b9d2a0a0b1
  b2b3b4b5b6b7b8b9c1a0b1b2b3b4b5b6b7b8b9c2a0b1b2b3b4b5b6b7b8b9c3a0b1b2b3b4b5b6b7b8b9c4a0b1b2b3b4b5b6
  b7b8b9c5a0b1b2b3b4b5b6c6b7b8b9c3a0b1b2b3b4b5b6b7b8b9c4a0b1b2b3b4b5b6b7b8b9c5a0b1b2b3b4b5b6b7b8b9c6
  a0b1b2b3b4b5b6b7b8b9c7a0b1b2b3b4b5b6b7b8b9c8a0b1b2b3b4b5b6b7b8b9c9a0b1b2b3b4b5b6b7b8b9dTaScULCANUS
  fGAR_FRACTION_FIVE_EIGHTHShSIXTHSkOUR_FIFTHSlONE_EIGHTHgFIFTHfHALFeNINTHfQUARTERhSEVENTHgIXTHfTENT
  HeHIRDjSEVEN_EIGHTHSnTHREE_EIGHTHShFIFTHSgQUARTERSnWO_FIFTHSgTHIRDSkZERO_THIRDSzcWAFFLEeNCHO_DIGIT
  _EIGHTfFIVEdOUReNINEeONEdSEVENeIXdTHREEeWOdZEROkLETTER_AaAaNaGdNGcUcBAcCAcDAcEaNcFAcGAcHAcIaNGdJAc
  KAbHAdLAbLHAeMAcNAbGAcYAdOaNaGdPAbHAdRAcSAbHAdTAbHAcRAcSAdUaENdVAcWAcYAbIHdZAjNGUN_SIGNjTONE_KOIaN
  IfTUPaNIoING_CRESCENT_MOON_SYMBOLuGIBBOUS_MOON_SYMBOLyRANG_CITI_CAPITAL_LETTER_AaMbNGcTcBUcDAcEaNN
  bYdGAcHARcIYOdOLOcRReIIcKOcNGAAdUNGeOaDDdPUcSIIcSUUeTTEdUCbUcVIYOeWIcYAbObUaJsDIGIT_EIGHTfFIVEdOUR
  eNINEeONEdSEVENeIXdTHREEeWOdZEROkNUMBER_EIGHTYgFIFTYeORTYfNINETYgSEVENTYgIXTYfTENcHIRTYfWENTYnOMcS
  MALL_LETTER_AaMbNGcTcBUcDAcEaNNbYdGAcHARcIYOdOLOcRReIIcKOcNGAAdUNGeOaDDdPUcSIIcSUUeTTEdUCbUcVIYOeW
  IcYAbObUaJzNING_SIGNkSTEBASKETjTCHcER_BUFFALOhCLOSETgPOLOeWAVEfMELONiVE_ARROW_POINTING_DIRECTLY_LE
  FTeRIGHTzeDASHgING_BLACK_FLAGkHAND_SIGNjWHITE_FLAGoY_DASHeLINEdOW_LINEiOVERLINElXING_CRESCENT_MOON
  _SYMBOLuGIBBOUS_MOON_SYMBOLzEARY_CAT_FACEiFACEiDDINGeGE-TAILED_RIGHTWARDS_ARROWzcIERSTRASS_ELLIPTI
  C_FUNCTIONzbGHT_LIFTERlST_SYRIAC_CROSSqHALEdEELa_OF_DHARMAkCHAIR_SYMBOLpITE_ARROW_SHAFT_WIDTH_ONEd
  TWO_THIRDSzdBULLETgCHESS_BISHOPa_ROTATED_NINETY_DEGREESoTWO_HUNDRED_SEVENTY_DEGREESzrEQUIHOPPERa_R
  OTATED_NINETY_DEGREESziKINGa_ROTATED_NINETY_DEGREESoTWO_HUNDRED_SEVENTY_DEGREESzoNIGHTa_ROTATED_FO
  RTY-FIVE_DEGREESsNINETY_DEGREESoONE_HUNDRED_THIRTY-FIVE_DEGREESzgTHREE_HUNDRED_FIFTEEN_DEGREESzdWO
  _HUNDRED_SEVENTY_DEGREESpTWENTY-FIVE_DEGREESzp-BISHOPgQUEENfROOKlPAWNa_ROTATED_NINETY_DEGREESoTWO_
  HUNDRED_SEVENTY_DEGREESzpQUEENa_ROTATED_NINETY_DEGREESoTWO_HUNDRED_SEVENTY_DEGREESzqROOKa_ROTATED_
  NINETY_DEGREESoTWO_HUNDRED_SEVENTY_DEGREESzpTURNED_BISHOPgKINGdNIGHTgPAWNeQUEENfROOKqIRCLEa_CONTAI
  NING_BLACK_SMALL_CIRCLEzeWITH_DOT_RIGHThWN_ARROWkLOWER_LEFT_QUADRANTnRIGHT_QUADRANTuTWO_DOTSiUPPER
  _LEFT_QUADRANTnRIGHT_QUADRANTzgLUB_SUITiONCAVE-SIDED_DIAMONDa_WITH_LEFTWARDS_TICKoRIGHTWARDS_TICKz
  rDIAMONDa_CONTAINING_BLACK_MEDIUM_DIAMONDoSMALL_DIAMONDnVERY_SMALL_DIAMONDzkIN_SQUAREjSUITeWITH_CE
  NTRED_DOTxOWN_POINTING_BACKHAND_INDEXoINDEXfLEFT_HAND_INDEXz-POINTING_SMALL_TRIANGLEoTRIANGLEvRAUG
  HTS_KINGeMANmEXCLAMATION_MARK_ORNAMENTzFLAGa_WITH_HORIZONTAL_MIDDLE_BLACK_STRIPEznORETTEfWERfOUR_P
  OINTED_CUSPeSTARqROWNING_FACEnHARD_SHELL_FLOPPY_DISKvEARTa_SUIThVY_CHECK_MARKkSALTIRE_WITH_ROUNDED
  _CORNERSzhXAGONgORIZONTAL_ELLIPSEqURGLASSjLARGE_SQUAREkTIN_CROSSkEFT_LANE_MERGEkPOINTING_BACKHAND_
  INDEXoINDEXp-POINTING_POINTERhSMALL_TRIANGLEoTRIANGLEvOZENGE_CONTAINING_BLACK_SMALL_LOZENGEznMEDIU
  M_DIAMONDhLOZENGEhSMALL_SQUARElQUAREfTARkOON_SELENAlNIBdPARALLELOGRAMmENNANTeTAGONiQUESTION_MARK_O
  RNAMENTwRECTANGLEiIGHT_POINTING_BACKHAND_INDEXoINDEXp-POINTING_PENTAGONhOINTERhSMALL_TRIANGLEoTRIA
  NGLExSCISSORShESAME_DOTjHOGI_PIECEkMALL_LOZENGEhSQUAREfTARiILING_FACElPADE_SUITjQUAREa_BUTTONgCONT
  AINING_BLACK_MEDIUM_SQUAREnSMALL_SQUAREmVERY_SMALL_SQUAREzjWITH_CENTRE_VERTICAL_LINEuLEFTWARDS_TIC
  KnOWER_LEFT_QUADRANTnRIGHT_QUADRANTuRIGHTWARDS_TICKoOUNDED_CORNERSpUPPER_LEFT_QUADRANTnRIGHT_QUADR
  ANTuVERTICAL_BISECTING_LINEzjTARdUNa_BEHIND_CLOUDa_WITH_RAINwWITH_RAYSeSMALL_CLOUDuTELEPHONEiOUCHT
  ONE_TELEPHONEsRAPEZIUMhIANGLE_CONTAINING_SMALL_WHITE_TRIANGLEzoWO-WAY_LEFT_WAY_TRAFFICyUP_POINTING
  _BACKHAND_INDEXoINDEXp-POINTING_CHEVRONhSMALL_TRIANGLEoTRIANGLEa_WITH_DOTzeVERTICAL_BARdELLIPSEhRE
  CTANGLEpY_SMALL_SQUAREs-FEATHERED_RIGHTWARDS_ARROWzgIDE-HEADED_DOWNWARDS_BARB_ARROWkHEAVY_BARB_ARR
  OWqLIGHT_BARB_ARROWqMEDIUM_BARB_ARROWrVERY_HEAVY_BARB_ARROWzgLEFTWARDS_BARB_ARROWkHEAVY_BARB_ARROW
  qLIGHT_BARB_ARROWqMEDIUM_BARB_ARROWrVERY_HEAVY_BARB_ARROWzgNORTH_EAST_BARB_ARROWkHEAVY_BARB_ARROWq
  LIGHT_BARB_ARROWqMEDIUM_BARB_ARROWrVERY_HEAVY_BARB_ARROWzbWEST_BARB_ARROWkHEAVY_BARB_ARROWqLIGHT_B
  ARB_ARROWqMEDIUM_BARB_ARROWrVERY_HEAVY_BARB_ARROWzhRIGHTWARDS_BARB_ARROWkHEAVY_BARB_ARROWqLIGHT_BA
  RB_ARROWqMEDIUM_BARB_ARROWrVERY_HEAVY_BARB_ARROWzhSOUTH_EAST_BARB_ARROWkHEAVY_BARB_ARROWqLIGHT_BAR
  B_ARROWqMEDIUM_BARB_ARROWrVERY_HEAVY_BARB_ARROWzbWEST_BARB_ARROWkHEAVY_BARB_ARROWqLIGHT_BARB_ARROW
  qMEDIUM_BARB_ARROWrVERY_HEAVY_BARB_ARROWzhUPWARDS_BARB_ARROWkHEAVY_BARB_ARROWqLIGHT_BARB_ARROWqMED
  IUM_BARB_ARROWrVERY_HEAVY_BARB_ARROWzoGGLY_VERTICAL_LINEsLTED_FLOWERlND_BLOWING_FACEmCHIMEgOWdE_GL
  ASShKING_FACEkRED_KEYBOARDnJbOLF_FACEhMANa_WITH_BUNNY_EARSqS_BOOTSfCLOTHEShHATdSANDALkENS_SYMBOLlN
  _SIGNgODcRD_JOINERgSEPARATOR_MIDDLE_DOTwLD_MAPgMbRIED_FACElRAPPED_PRESENTnEATH_PRODUCTlNCHdSTLERSh
  ITING_HANDmX_IN_A_RECTANGLE_BOXt-RAYeIANGQI_BLACK_CANNONfHARIOThELEPHANTiGENERALhHORSEfMANDARINiSO
  LDIERnRED_CANNONfHARIOThELEPHANTiGENERALhHORSEfMANDARINiSOLDIERsORdYAWNING_FACElELLOW_HEARTkN_SIGN
  gZIDI_COMBINING_HAMZA_MARKkMADDA_MARKuHYPHENATION_MARKqLETTER_BEcCHHIMdIMdIMdDADbLdELIFdTbWbYNdFAc
  GAFdHAYcHAdJAcKAFcHAFeLAMa_WITH_DOT_ABOVEsMIMdNUNdOWcPEbHEdQAFdRAbHAdSADcEbHINdINdTAbHEdUMcVAa_ALT
  ERNATE_FORMrWAWdXAbHEYNfYOTa_WITH_CIRCUMFLEX_ABOVEzZAaLcEpI_RADICAL_BBUTdURdCHEcIPcUOPdYaPbTdDDURd
  UcGAbEPcGOPcUOdOTdHMOcXITcOPcUOeJJIEcUTcYcOcKEbITdLIaEcYRdMIbOPdNBIEdYIPcOPdZUPeOPcPUTcYTdQOTdSHAT
  cOPcURcYcSIdTATcUcVEPcURdWOcYITcOcZAbOTcUPbRcZIETnSYLLABLE_AaPbTbXcBAaPbTbXcBAaPbTbXcEaPbXcIaEaPbT
  bXcPbTbXcOaPbTbXcUaOaPbXcPbRaXcTbXcYaPbTbXdEaPbXcIaEaPbTbXcPbTbXcOaPbTbXcUaOaPbXcPbRaXcTbXcYaPbRaX
  cTbXdCAaPbTbXcEaPbXcHAaPbTbXcEaPbTbXcOaPbTbXcUaOaPbTbXcPbRaXcXcYaPbRaXcTbXdIaEaPbTbXcPbTbXcOaPbTbX
  cUaOaPbXcPbRaXcTbXcYaPbRaXcTbXdDAaPbTbXcDAaPbTbXcEaPbXcIaEaPbXcPbTbXcOaPbTbXcUaOaPbXcPbRaXcTbXdEaP
  bXcIaEaPbXcPbTbXcOaPbTbXcUaOaXcPbRaXcTbXdEaXcFAaPbTbXcIaPbTbXcOaPbXcUaPbRaXcTbXcYaPbTbXdGAaPbTbXcE
  aPbTbXcGAaPbTbXcEaPbTbXcIaEaPbXcTbXcOaPbTbXcUaOaPbTbXcPbRaXcTbXdIaEaPbTbXcPbTbXcOaPbTbXcUaOaPbTbXc
  PbRaXcTbXdHAaPbTbXcEaPbXcIEaXcTcLAaPbTbXcEaPbXcIaEaPbXcPbTbXcOaPbXcUaOaPbXcPbRaXcTbXcYaPbRaXcTbXdM
  AaPbTbXcIaEaPbXcPbTbXcOaPbTbXcUaOaPbXcPbRaXcTbXcYaPbRaXcXdNAaPbTbXcEaPbXcIaEaPbTbXcPbTbXcOPbTbXcUO
  aXcTdOaPbTbXcUOaPbTbXdXAaPbTbXcEaPbXcIaEaPbTbXcPbTbXcOaPbTbXcUOaPbTbXfIaEaPbTbXcPbTaERATION_MARKnX
  cJIaEaPbTbXcPbTbXcJIaEaPbTbXcPbTbXcOaPbTbXcUaOaPbXcPbRaXcTbXcYaPbTbXdOaPbTbXcUaOaPbTbXcPbRaXcTbXcY
  aPbRaXcTbXdKAaPbTbXcEaPbTbXcIaEaPbXcPbTbXcOaPbTbXcUaOaPbXcPbRaXcTbXdLAaPbTbXcEaPbXcIaEaPbTbXcPbTbX
  cOaPbTbXcUaOaPbTbXcPbRaXcTbXcYaPbRaXcTbXdMAaPbTbXcEaXcGAaPbTbXcEaPbXcIEaXdOaPbTbXcUaOaPbXcPbRaXcTb
  XdIaEaPbXcPbTbXcOaPbTbXcUaOaPbTbXcPbRaXcTbXcYaPbTbXdNAaPbXcBAaPbTbXcIaEaPbXcPbTbXcOaPbTbXcUaPbRaXc
  TbXcYaPbRaXcTbXdDAaPbTbXcEaPbXcIaEaXcPbTbXcOaPbTbXcUaPbRaXcTbXdEaPbXcGAaPbTbXcEaPbXcIEaPbXdOaPbTbX
  cUOaTbXeIaEaPbXcPbTbXcJIaEaPbTbXcPbTbXcOaPbTbXcUaOaXcPbRaXcXcYaPbRaXcTbXdOaPbTbXcRAaPbTbXcEaPbTbXc
  OaPbXcUaPbRaXcTbXcYaPbRaXcTbXdUaOaPbXcPbRaXcTbXcYIaEaPbTbXcPbTbXcOaPbTbXcUaOaPbXcPbTbXdZAaPbTbXcEa
  XcIaEaPbXcPbTbXcOPbXcUaOaXcPbRaXcXcYaPbRaXcTbXeOaPbTbXcPAaPbTbXcIaEaPbXcPbTbXcOaPbTbXcUaOaPbXcPbRa
  XcTbXcYaPbRaXcTbXdQIaEaPbTbXcPbTbXcOaPbTbXcUaOaPbTbXcPbRaXcTbXcYaPbRaXcTbXdRAaPbTbXcEaPbXcOaPbTbXc
  RAaXcEaPbTbXcOaPbTbXcUaOaXcPbRaXcTbXcYaPbRaXcTbXdUaOaPbXcPbRaXcTbXcYaPbRaXcTbXdSAaPbTbXcEaPbXcHAaP
  bTbXcEaPbTbXcOaPbTbXcUaOaPbXcPbRaXcTbXcYaPbRaXcTbXdIaEaPbXcPbTbXcOaPbTbXcSAaPbTbXcEaPbXcIaEaPbXcPb
  TbXcOaPbTbXcUaPbTbXcYaPbRaXcTbXdUaOaPbXcPbRaXcTbXcYaPbRaXcTbXdTAaPbTbXcEaPbXcIaEaPbXcPbTbXcOaPbTbX
  cUaOaPbTbXcPbRaXcTbXdUOaPbXdVAaPbTbXcEPbXcIaEaPbTbXcPbTbXcOaPbTbXcUaPbRaXcTbXcYaPbRaXcTbXdWAaPbTbX
  cEaPbXcOaPbXcUaOaPbXeXIaEaPbTbXcPbTbXcOaPbTbXcUOaXdYaPbRaXcTbXdYIaEaPbTbXcPbTbXcOaPbTbXcUaOaPbTbXc
  PbRaXcTbXcYaPbRaXcTbXdZAaPbTbXcEaPbXcHAaPbTbXcEaPbTbXcOaPbTbXcUaOaPbXcPbRaXcTbXcYaPbRaXcTbXdIaEaPb
  XcPbTbXcOaPbTbXcUaOaPbXcPbRaXcTbXcYaPbRaXcTbXcZAaPbTbXcEaPbXcIaEaPbTbXcPbTbXcOaPbXcUaPbRaXcXcYaPbR
  aXcTbXoN_YANGhO-YOfZ_NOTATION_BAG_MEMBERSHIPoDOMAIN_ANTIRESTRICTIONwLEFT_BINDING_BRACKETpIMAGE_BRA
  CKETsRANGE_ANTIRESTRICTIONuELATIONAL_COMPOSITIONvIGHT_BINDING_BRACKETpIMAGE_BRACKETtSCHEMA_COMPOSI
  TIONlPIPINGfROJECTIONqPOTeTYPE_COLONuANABAZAR_SQUARE_CLOSING_DOUBLE-LINED_HEAD_MARKwHEAD_MARKpUSTE
  R-FINAL_LETTER_LAcRAcVAcYApINITIAL_LETTER_RAzFINAL_CONSONANT_MARKuINITIAL_DOUBLE-LINED_HEAD_MARKwH
  EAD_MARKrLETTER_-AcAbBAbHAdCAbHAdDAbDAbHAdHAcZAbHAeGAbHAdHAcJAcKAbHAcSSAeLAcMAcNAbGAcNAcYAdPAbHAdR
  AcSAbHAcSAdTAbHAcSAbHAdTAbHAeVAcYAcZAbHAkMARK_DOUBLE_SHADlLONG_TSHEGkSHADeTSHEGkSIGN_ANUSVARAiCAND
  RA_WITH_ORNAMENToBINDUa_WITH_ORNAMENTzVIRAMAeSARGAlUBJOINERjVOWEL_LENGTH_MARKlSIGN_AIbUcEbIbOaEcRE
  VERSED_IkUaEzeEBRA_FACEiRO_WIDTH_JOINERgNO-BREAK_SPACEmN-JOINERkSPACEoUSdIPPER-MOUTH_FACEqNAMENNY_
  COMBINING_ATTACHING_VERTICAL_OMETxLOWER_TONAL_RANGE_INDICATORzcMARK_BORZAYAhCHASHKAa_POLNAYAoURVED
  _OMETlDEMESTVENNY_ZADERZHKAuVOETOCHIEkGORAZDO_NIZKO_ON_LEFTeRIGHTiS_KRYZHEM_ON_LEFTeRIGHTyVYSOKOoK
  ACHKAfRYZHa_ON_LEFTmUPNAYAhLOMKAfMALO_POVYSHE_ON_LEFTeRIGHTiS_KHOKHLOM_ON_LEFTeRIGHTqRYZHEMiTRANNO
  uNIZKO_ON_LEFTeRIGHTiS_KRYZHEM_ON_LEFTeRIGHTyOBLACHKOhNbTSECHKAiPODCHASHIEa_WITH_VERTICAL_STROKEzd
  VERTKAhVYSHE_ON_LEFTeRIGHTiS_KHOKHLOM_ON_LEFTeRIGHTqRYZHEMiTRANNOpRAVNOdZSEKAhSKOBAeOROCHYA_NOZHKA
  oREDNE_ON_LEFTeRIGHToTRANNO_MALO_POVYSHEuTIKHAYAgOCHKAfSATA_ON_LEFTeRIGHTiS_KRYZHEMpUDARKAgVYSOKO_
  ON_LEFTeRIGHTiS_KHOKHLOM_ON_LEFTeRIGHTqRYZHEMqZADERZHKAiELOcVOKkTONAL_RANGE_MARK_MRACHNOhSVETLOgTR
  ESVETLOzlNEUME_CHASHKAfELYUSTKAkDEMESTVENNY_KLYUCHqRBITSAhOUBLE_ZAPYATAYApUDAdVA_V_CHELNUmFITAeGOL
  UBCHIK_BORZYfMRACHNYhSVETLYgTIKHYeRESVETLYtKHAMILOgLYUCHfOBYLAfRYUKa_TIKHYiZHeUFISMAhMECHIKa_KLYUC
  HENEPOSTOYANNYmPOVODNYhVOYkPOVODNYoNEMKAfOBLAKOfSOKAa_KLYUCHEVAYA_NEPOSTOYANNAYAoSVETLAYAtRYUKOVAY
  A_SVETLAYAtSVETLAYAiTRESVETLAYArPALKAdRAKLITgUKdEREVODKAa_NEPOSTOYANNAYAxODCHASHIEiLKULIZMYkREVERS
  ED_CHELYUSTKAsOGdSKAMEYTSA_DVOECHELNAYA_KLYUCHEVAYAlNEPOSTOYANNAYAoPROSTAYAiSVETLAYAvKLYUCHENEPOST
  OYANNAYAoVAYA_SVETLAYAiTIKHAYAtMRACHNAYAjSVETLAYAiTIKHAYAgRESVETLAYAuLOZHITIEa_S_KRYZHEMhZAPYATOYk
  ZAKRYTOErTATYAa_NEPOSTOYANNAYAoS_DVUMYA_ZAPYATYMIqKRYZHEMa_I_ZAPYATOYsROGOMfZAPYATOYa_I_KRYZHEMhPO
  DCHASHIEMyZAKRYTAYAa_S_ZAPYATOYzOPITSAa_S_OCHKOMiWITH_SOROCHYA_NOZHKAzcRELA_DVOECHELNAYAa_KLYUCHEV
  AYApOKRYZHEVAYAkPOVODNAYAa_KLYUCHEVAYAzgGROMNAYAa_WITH_SINGLE_ZAPYATAYAzbOKRYZHEVAYAa_POVODNAYAuPO
  VODNAYAa_WITH_DOUBLE_ZAPYATAYAqSINGLE_ZAPYATAYAzlKLYUCHENEPOSTOYANNAYAoPOVODNAYApRYUKOVAYAa_GROMNA
  YAa_WITH_SINGLE_ZAPYATAYAzbOKRYZHEVAYAa_POVODNAYAuPOVODNAYAa_WITH_DOUBLE_ZAPYATAYAqSINGLE_ZAPYATAY
  AzlPOVODNAYAjTRYASKApZHEVAYAkMRACHNOTIKHAYAoNEPOSTOYANNAYAoPOLUPOVODNAYAlVODNAYAiROSTAYAiTIKHAYA_P
  UTNAYAoRYASOGLASNAYAiPOVODNAYAjSTRELNAYAwVRAKHIYA_KLYUCHEVAYA_MRACHNAYAjPROSTAYAiSVETLAYAiTRESVETL
  AYAxMRACHNAYAjPROSTAYAiSVETLAYAiTRESVETLAYAuZANOZHEKgPYATAYAiMEYTSAnPRIZNAK_MODIFIER_DIRECTION_FLI
  PoKRYZHfLEVEL-2b3hROGzdOMBIEfWJbNBSPdJcSP"

/-- The entries of the table: small letters, and what follows them. -/
def nameEntries : List (List Char) :=
  (nameTable.toList.filter (! isBlank ·)).splitBy fun before c => ! c.isLower || before.isLower

/-- The name of an entry, given the one before it. -/
def entryName (before entry : List Char) : List Char :=
  let letters := entry.takeWhile Char.isLower
  let taken := letters.foldl (fun taken c => taken + (c.toNat - 'a'.toNat)) 0
  let added := (entry.drop letters.length).map fun c => if c = '_' then ' ' else c
  before.take (before.length - taken) ++ added

/-- Whether a name is one of some entries, given the name before them. -/
def isEntryName (name before : List Char) : List (List Char) → Bool
  | [] => false
  | entry :: more =>
    let next := entryName before entry
    next = name || isEntryName name next more

/-! ## Names by rule -/

/-- The names of the parts of a syllable: leading consonants, vowels and trailing consonants. -/
def syllableParts : List (List String) := [
  ["G", "GG", "N", "D", "DD", "R", "M", "B", "BB", "S", "SS", "", "J", "JJ", "C", "K", "T", "P",
    "H"],
  ["A", "AE", "YA", "YAE", "EO", "E", "YEO", "YE", "O", "WA", "WAE", "OE", "YO", "U", "WEO", "WE",
    "WI", "YU", "EU", "YI", "I"],
  ["", "G", "GG", "GS", "N", "NJ", "NH", "D", "L", "LG", "LM", "LB", "LS", "LT", "LP", "LH", "M",
    "B", "BS", "S", "SS", "NG", "J", "C", "K", "T", "P", "H"]]

/-- Whether a text has one of the parts of each list, in order. -/
def hasParts : List (List String) → List Char → Bool
  | [], text => text.isEmpty
  | parts :: more, text =>
    parts.any fun part =>
      part.toList.isPrefixOf text && hasParts more (text.drop part.length)

/-- The numbers of ideographs. -/
def ideographs : Ranges := [
  (0x3400, 0x4DBF), (0x4E00, 0x9FFF), (0x20000, 0x2A6DF), (0x2A700, 0x2B738), (0x2B740, 0x2B81D),
  (0x2B820, 0x2CEA1), (0x2CEB0, 0x2EBE0), (0x30000, 0x3134A)]

/-- Whether a text is the number of an ideograph, in four or five hexadecimal digits. -/
def isIdeographNumber (digits : List Char) : Bool :=
  digits.length ∈ [4, 5] && digits.all (! Char.isLower ·) &&
    (hexadecimal? digits).any ideographs.contains

/-- Whether a text is the name of a character. Only names that are given by a rule have to be in
capital letters. -/
def isCharacterName (name : List Char) : Bool :=
  let syllable := "HANGUL SYLLABLE ".toList
  let ideograph := "CJK UNIFIED IDEOGRAPH-".toList
  if syllable.isPrefixOf name then hasParts syllableParts (name.drop syllable.length)
  else if ideograph.isPrefixOf name then isIdeographNumber (name.drop ideograph.length)
  else isEntryName (name.map Char.toUpper) [] nameEntries

end Bindery.Text
