import MetesBounds.Text.CharName.Block

/-!
# `Text/CharName/Alias` — second names of characters

Controls, whose codes have no names of their own, names that correct others, and abbreviations.
-/

set_option autoImplicit false

namespace MetesBounds.Text.CharName

/-- Second names. -/
def aliases : List Block := [
  (0x0, [":NULL"]),
  (0x0, [":NUL"]),
  (0x1, [":START OF HEADING"]),
  (0x1, [":SOH"]),
  (0x2, [":START OF TEXT"]),
  (0x2, [":STX"]),
  (0x3, [":END OF TEXT"]),
  (0x3, [":ETX"]),
  (0x4, [":END OF TRANSMISSION"]),
  (0x4, [":EOT"]),
  (0x5, [":ENQUIRY"]),
  (0x5, [":ENQ"]),
  (0x6, [":ACKNOWLEDGE"]),
  (0x6, [":ACK"]),
  (0x7, [":ALERT"]),
  (0x7, [":BEL"]),
  (0x8, [":BACKSPACE"]),
  (0x8, [":BS"]),
  (0x9, [":vexq"]),
  (0x9, [":lvxq"]),
  (0x9, [":HT"]),
  (0x9, [":TAB"]),
  (0xA, [":mwFEED"]),
  (0xA, [":NEWmw"]),
  (0xA, [":END OFmw"]),
  (0xA, [":LF"]),
  (0xA, [":NL"]),
  (0xA, [":EOL"]),
  (0xB, [":mwxq"]),
  (0xB, [":kwxq"]),
  (0xB, [":VT"]),
  (0xC, [":dFEED"]),
  (0xC, [":FF"]),
  (0xD, [":CARRIAGE RETURN"]),
  (0xD, [":CR"]),
  (0xE, [":SHIFT OUT"]),
  (0xE, [":LOCKING-SHIFTkd"]),
  (0xE, [":SO"]),
  (0xF, [":SHIFT IN"]),
  (0xF, [":LOCKING-SHIFTmk"]),
  (0xF, [":SI"]),
  (0x10, [":DATA LINK ESCAPE"]),
  (0x10, [":DLE"]),
  (0x11, [":DEVICE CONTROLkd"]),
  (0x11, [":DC1"]),
  (0x12, [":DEVICE CONTROLkb"]),
  (0x12, [":DC2"]),
  (0x13, [":DEVICE CONTROLki"]),
  (0x13, [":DC3"]),
  (0x14, [":DEVICE CONTROLkm"]),
  (0x14, [":DC4"]),
  (0x15, [":vlACKNOWLEDGE"]),
  (0x15, [":NAK"]),
  (0x16, [":SYNCHRONOUS IDLE"]),
  (0x16, [":SYN"]),
  (0x17, [":END OF TRANSMISSIONny"]),
  (0x17, [":ETB"]),
  (0x18, [":CANCEL"]),
  (0x18, [":CAN"]),
  (0x19, [":END OFmh"]),
  (0x19, [":EOM"]),
  (0x1A, [":SUBSTITUTE"]),
  (0x1A, [":SUB"]),
  (0x1B, [":ESCAPE"]),
  (0x1B, [":ESC"]),
  (0x1C, [":zjrgkm"]),
  (0x1C, [":FILErg"]),
  (0x1C, [":FS"]),
  (0x1D, [":zjrgki"]),
  (0x1D, [":GROUPrg"]),
  (0x1D, [":GS"]),
  (0x1E, [":zjrgkb"]),
  (0x1E, [":RECORDrg"]),
  (0x1E, [":RS"]),
  (0x1F, [":zjrgkd"]),
  (0x1F, [":UNITrg"]),
  (0x1F, [":US"]),
  (0x20, [":SP"]),
  (0x7F, [":DELETE"]),
  (0x7F, [":DEL"]),
  (0x80, [":PADDINGve"]),
  (0x80, [":PAD"]),
  (0x81, [":mvOCTET PRESET"]),
  (0x81, [":HOP"]),
  (0x82, [":BREAK PERMITTED HERE"]),
  (0x82, [":BPH"]),
  (0x83, [":NO BREAK HERE"]),
  (0x83, [":NBH"]),
  (0x84, [":lr"]),
  (0x84, [":IND"]),
  (0x85, [":NEXTmw"]),
  (0x85, [":NEL"]),
  (0x86, [":START OF SELECTED AREA"]),
  (0x86, [":py"]),
  (0x87, [":END OF SELECTED AREA"]),
  (0x87, [":ESA"]),
  (0x88, [":vexqSET"]),
  (0x88, [":lvxqSET"]),
  (0x88, [":HTS"]),
  (0x89, [":vexqaJUSTIFICATION"]),
  (0x89, [":lvxqaJUSTIFICATION"]),
  (0x89, [":HTJ"]),
  (0x8A, [":mwxqSET"]),
  (0x8A, [":kwxqSET"]),
  (0x8A, [":VTS"]),
  (0x8B, [":PARTIALmwui"]),
  (0x8B, [":PARTIALmwld"]),
  (0x8B, [":PLD"]),
  (0x8C, [":PARTIALmwBACKWARD"]),
  (0x8C, [":PARTIALmwUP"]),
  (0x8C, [":PLU"]),
  (0x8D, [":tfmwFEED"]),
  (0x8D, [":tflr"]),
  (0x8D, [":RI"]),
  (0x8E, [":ncSHIFTkb"]),
  (0x8E, [":SINGLE-SHIFT-2"]),
  (0x8E, [":SS2"]),
  (0x8F, [":ncSHIFTki"]),
  (0x8F, [":SINGLE-SHIFT-3"]),
  (0x8F, [":SS3"]),
  (0x90, [":DEVICE CONTROL STRING"]),
  (0x90, [":DCS"]),
  (0x91, [":PRIVATE USEkd"]),
  (0x91, [":PRIVATE USE-1"]),
  (0x91, [":PU1"]),
  (0x92, [":PRIVATE USEkb"]),
  (0x92, [":PRIVATE USE-2"]),
  (0x92, [":PU2"]),
  (0x93, [":SET TRANSMIT STATE"]),
  (0x93, [":STS"]),
  (0x94, [":CANCELve"]),
  (0x94, [":CCH"]),
  (0x95, [":MESSAGE WAITING"]),
  (0x95, [":MW"]),
  (0x96, [":START OF GUARDED AREA"]),
  (0x96, [":START OF PROTECTED AREA"]),
  (0x96, [":SPA"]),
  (0x97, [":END OF GUARDED AREA"]),
  (0x97, [":END OF PROTECTED AREA"]),
  (0x97, [":EPA"]),
  (0x98, [":START OF STRING"]),
  (0x98, [":SOS"]),
  (0x99, [":ncGRAPHICveINTRODUCER"]),
  (0x99, [":SGC"]),
  (0x9A, [":ncveINTRODUCER"]),
  (0x9A, [":SCI"]),
  (0x9B, [":CONTROL SEQUENCE INTRODUCER"]),
  (0x9B, [":CSI"]),
  (0x9C, [":STRING TERMINATOR"]),
  (0x9C, [":ST"]),
  (0x9D, [":OPERATING SYSTEM COMMAND"]),
  (0x9D, [":OSC"]),
  (0x9E, [":PRIVACY MESSAGE"]),
  (0x9E, [":PM"]),
  (0x9F, [":APPLICATION PROGRAM COMMAND"]),
  (0x9F, [":APC"]),
  (0xA0, [":NBSP"]),
  (0xAD, [":SHY"]),
  (0x1A2, [":ogeboz"]),
  (0x1A3, [":ogcboz"]),
  (0x34F, [":CGJ"]),
  (0x61C, [":ALM"]),
  (0x709, [":SYRIAC SUBLINEARrbSKEWEDka"]),
  (0xCDE, [":wibLLLA"]),
  (0xE9D, [":LAObFO FON"]),
  (0xE9F, [":LAObFO FAY"]),
  (0xEA3, [":LAObRO"]),
  (0xEA5, [":LAObLO"]),
  (0xFD0, [":TIBETANkgBKA- SHOG GI MGO RGYAN"]),
  (0x11EC, [":ukJONGSEONG YESIEUNG-KIYEOK"]),
  (0x11ED, [":ukJONGSEONG YESIEUNG-SSANGKIYEOK"]),
  (0x11EE, [":ukJONGSEONG SSANGYESIEUNG"]),
  (0x11EF, [":ukJONGSEONG YESIEUNG-KHIEUKH"]),
  (0x180B, [":FVS1"]),
  (0x180C, [":FVS2"]),
  (0x180D, [":FVS3"]),
  (0x180E, [":MVS"]),
  (0x180F, [":FVS4"]),
  (0x200B, [":ZWSP"]),
  (0x200C, [":ZWNJ"]),
  (0x200D, [":ZWJ"]),
  (0x200E, [":LRM"]),
  (0x200F, [":RLM"]),
  (0x202A, [":LRE"]),
  (0x202B, [":RLE"]),
  (0x202C, [":PDF"]),
  (0x202D, [":LRO"]),
  (0x202E, [":RLO"]),
  (0x202F, [":NNBSP"]),
  (0x205F, [":MMSP"]),
  (0x2060, [":WJ"]),
  (0x2066, [":LRI"]),
  (0x2067, [":RLI"]),
  (0x2068, [":FSI"]),
  (0x2069, [":PDI"]),
  (0x2118, [":WEIERSTRASS ELLIPTIC FUNCTION"]),
  (0x2448, [":MICR ON USkp"]),
  (0x2449, [":MICRpskp"]),
  (0x2B7A, [":lcnehakfkwko"]),
  (0x2B7C, [":ktnehakfkwko"]),
  (0xA015, [":YIojyekg"]),
  (0xAA6E, [":MYANMARbKHAMTI LLA"]),
  (0xFE18, [":PRESENTATIONdqgkwjklyolj"]),
  (0xFEFF, [":BYTE ORDERkg"]),
  (0xFEFF, [":BOM"]),
  (0xFEFF, [":ZWNBSP"]),
  (0x122D4, [":CUNEIFORMfNU11pv"]),
  (0x122D5, [":CUNEIFORMfNU11loNU11 BURloBUR"]),
  (0x16E56, [":MEDEFAIDRINebH"]),
  (0x16E57, [":MEDEFAIDRINebNG"]),
  (0x16E76, [":MEDEFAIDRINcbH"]),
  (0x16E77, [":MEDEFAIDRINcbNG"]),
  (0x1B001, [":HENTAIGANAbE-1"]),
  (0x1D0C5, [":BYZANTINEwkkpFTHORA SKLIRON CHROMA VASIS"]),
  (0xFE00, [":VS1@@@@@@@@@@@@@@@"]),
  (0xE0100, [":VS17@@@@@@@@@@@@@@@@@@@@@@@@@@@@@@@@@@@@@@@@@@@@@@@@@@@@@@@@@@@@@@@@@@@@@@@@@@@@@@@",
    "@@@@@@@@@@@@@@@@@@@@@@@@@@@@@@@@@@@@@@@@@@@@@@@@@@@@@@@@@@@@@@@@@@@@@@@@@@@@@@@@@@@@@@@@@@@@@",
    "@@@@@@@@@@@@@@@@@@@@@@@@@@@@@@@@@@@@@@@@@@@@@@@@@@@@@@@@@@@@@@@@@@@"])
]

end MetesBounds.Text.CharName
