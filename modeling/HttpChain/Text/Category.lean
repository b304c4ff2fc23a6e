import HttpChain.Text.RunTable

/-!
# HttpChain.Text.Category

The general category of each character (Unicode 17).
-/

namespace HttpChain.Text

/-- The general categories. -/
inductive Category where
  | upperLetter
  | lowerLetter
  | titleLetter
  | modifierLetter
  | otherLetter
  | nonspacingMark
  | spacingMark
  | enclosingMark
  | decimalDigit
  | letterNumber
  | otherNumber
  | connector
  | dash
  | openBracket
  | closeBracket
  | openQuote
  | closeQuote
  | otherPunctuation
  | mathSymbol
  | currencySymbol
  | modifierSymbol
  | otherSymbol
  | space
  | lineBreak
  | paragraphBreak
  | control
  | format
  | surrogate
  | privateUse
  | unassigned
deriving DecidableEq, Inhabited

namespace Category

/-- Every category, in the order of the letters of the table. -/
def all : List Category :=
  [upperLetter, lowerLetter, titleLetter, modifierLetter,
    otherLetter, nonspacingMark, spacingMark, enclosingMark, decimalDigit, letterNumber,
    otherNumber, connector, dash, openBracket, closeBracket, openQuote, closeQuote,
    otherPunctuation, mathSymbol, currencySymbol, modifierSymbol, otherSymbol, space, lineBreak,
    paragraphBreak, control, format, surrogate, privateUse, unassigned]

/-- The short name of a category; its first letter names its class. -/
def name : Category → String
  | upperLetter => "Lu"
  | lowerLetter => "Ll"
  | titleLetter => "Lt"
  | modifierLetter => "Lm"
  | otherLetter => "Lo"
  | nonspacingMark => "Mn"
  | spacingMark => "Mc"
  | enclosingMark => "Me"
  | decimalDigit => "Nd"
  | letterNumber => "Nl"
  | otherNumber => "No"
  | connector => "Pc"
  | dash => "Pd"
  | openBracket => "Ps"
  | closeBracket => "Pe"
  | openQuote => "Pi"
  | closeQuote => "Pf"
  | otherPunctuation => "Po"
  | mathSymbol => "Sm"
  | currencySymbol => "Sc"
  | modifierSymbol => "Sk"
  | otherSymbol => "So"
  | space => "Zs"
  | lineBreak => "Zl"
  | paragraphBreak => "Zp"
  | control => "Cc"
  | format => "Cf"
  | surrogate => "Cs"
  | privateUse => "Co"
  | unassigned => "Cn"

/-- The category of a letter of the table. -/
def ofLetter (c : Char) : Category :=
  all.getD (if c.isUpper then c.toNat - 65 else c.toNat - 71) .unassigned

/-- The categories of all characters. -/
def table : RunTable := .ofLines [
  "Z32WR3TR3NORSRMR2I10R2S3R2A26NROULUB26NSOSZ33WRT4VRUVEPSaVUVSK2UBR2UKEQK3RA23SA7B24SB8ABABAB",
  "ABABABABABABABABABABABABABABABABABABABABABABABABAB2ABABABABABABABAB2ABABABABABABABABABABABAB",
  "ABABABABABABABABABABABA2BABAB3A2BABA2BA3B2A4BA2BA3B3A2BA2BABABA2BAB2ABA2BA3BABA2B2EAB3E4ACBA",
  "CBACBABABABABABABABAB2ABABABABABABABABAB2ACBABA3BABABABABABABABABABABABABABABABABABABABABABA",
  "BABABABABABABAB7A2BA2B2ABA4BABABABAB69E2B26D18U4D12U14D5U7DUDU17F112ABABDUABd2DB3RAd4U2ARA3d",
  "AdA2BA17dA9B35AB2A3B3ABABABABABABABABABABABAB5ABSABA2B2A51B48ABABABABABABABABABABABABABABABA",
  "BABVF5H2ABABABABABABABABABABABABABABABABABABABABABABABABABABABA2BABABABABABAB2ABABABABABABAB",
  "ABABABABABABABABABABABABABABABABABABABABABABABABABABABABABABABABABABABABABABABABABdA38d2DR6B",
  "41RMd2V2TdF45MFRF2RF2RFd8E27d4E4R2d11a6S3R2TR2V2F11RaR3E32DE10F21I10R4E2FE99REF7aVF6D2F2VF4E",
  "2I10E3V2ER14daEFE30F27d2E89F11Ed14I10E33F9D2VR3Dd2FT2E22F4DF9DF3DF5d2R15dE25F3d2RdE11d5E24UE",
  "7a2d5F9E41DF24aF32GE54FGFEG3F8G4FG2EF7E10F2R2I10RDE15FG2dE8d2E2d2E22dE7dEd3E4d2FEG3F4d2G2d2G",
  "2FEd8Gd4E2dE3F2d2I10E2T2K6VTERFd2F2GdE6d4E2d2E22dE7dE2dE2dE2d2FdG3F2d4F2d2F3d3Fd7E4dEd7I10F2",
  "E3FRd10F2GdE9dE3dE22dE7dE2dE5d2FEG3F5dF2GdG2Fd2Ed15E2F2d2I10RTd7EF6dFG2dE8d2E2d2E22dE7dE2dE5",
  "d2FEGFGF4d2G2d2G2Fd7F2Gd4E2dE3F2d2I10VEK6d10FEdE6d3E3dE4d3E2dEdE2d3E2d3E3d3E12d4G2FG2d3G3dG3",
  "Fd2Ed6Gd14I10K3V6TVd5FG3FE8dE3dE23dE16d2FEF3G4dF3dF4d7F2dE3dE2d2E2F2d2I10d7RK7VEFG2RE8dE3dE2",
  "3dE10dE5d2FEGFG5dFG2dG2F2d7G2d5E3dE2F2d2I10dE2Gd12F2G2E9dE3dE41F2EG3F4dG3dG3FEVd4E3GK7E3F2d2",
  "I10K9VE6dFG2dE18d3E24dE9dEd2E7d3Fd4G3F3dFdG8d6I10d2G2Rd12E48FE2F7d4TE6DF8RI10R2d37E2dEdE5dE2",
  "4dEdE10FE2F9Ed2E5dDdF7dI10d2E4d32EV3R15VRV3F2V6I10K10VFVFVFNONOG2E8dE36d4F14GF5RF2E5F11dF36d",
  "V8FV6dV2R5V4R2d37E43G2F4GF6GF2G2F2EI10R6E6G2F2E4F3EG3E2G7E3F4E13FG2F2G6FEGI10G3FV2A38dAd5Ad2",
  "B43RDB3E329dE4d2E7dEdE4d2E41dE4d2E33dE4d2E7dEdE4d2E15dE57dE4d2E67d2F3R9K20d3E16V10d6A86d2B6d",
  "2ME620VRE17WE26NOd3E75R3J3E8d7E18F3Gd9E19F2GR2d9E18F2d12E13dE3dF2d12E52F2GF7G8FG2F11R3DR3TEF",
  "d2I10d6K10d6R6MR4F3aFI10d6E35DE53d7E5F2E34FEd5E70d10E31dF3G4F2G3d4G2FG6F3d4Vd3R2I10E30d2E5d1",
  "1E44d4E26d6I10Kd3V34E23F2G2Fd2R2E53GFGF7dFGFG2F8G6F10d2FI10d6I10d6R7DR6d2F14HF31d2F12d20F4GE",
  "47FGF5GFG5FG2E8dR2I10R7V10F9V9R3F2GE30GF4G2F2GF3E2I10E44FGF2G3FGF3G2d8R4E36G8F8G2F2d3R5I10d3",
  "E3I10E30D6R2B9ABd5A43d2A3R8d8F3RF13GF7E4FE6FE2GF2Ed5B44D63B13DB34D37F64ABABABABABABABABABABA",
  "BABABABABABABABABABABABABABABABABABABABABABABABABABABABABABABABABABABABABABABABABABABABABABA",
  "BABABABABABABABABABABABABABABABABABAB9ABABABABABABABABABABABABABABABABABABABABABABABABABABAB",
  "ABABABABABABABABABABABABABABABABABABABABABAB9A8B6d2A6d2B8A8B8A8B6d2A6d2B8dAdAdAdAB8A8B14d2B8",
  "C8B8C8B8C8B5dB2A4CUBU3B3dB2A4CU3B4d2B2A4dU3B8A5U3d2B3dB2A4CU2dW11a5M6R2PQNP2QNPR8XYa5WR9PQR4",
  "L2R3SNOR11SRLR10Wa5da10KDd2K6S3NODK10S3NOdD13d3T34d14F13H4FH3F12d15V2AV4AV2BA3B2A3BVAV2SA5V6",
  "AVAVAVA4VBA4BE4BV2B2A2S5AB4VSV2BVK16J35ABJ4KV2d4S5V5S2V4SV2SV2SV7SV31S2V2SVSV31S268V8NONOV20",
  "S2V7NOV81SV30S25V40S6V72d22V11d21K60V78K22V183SV9SV54S8V111SV248NONONONONONONOK30V44S5NOS31N",
  "ONONONONOS16V256S131NONONONONONONONONONONOS63NONOS32NOS258V48S21V2S6V39d2V138A48B48ABA3B2ABA",
  "BABA4BAB2AB6D2A3BABABABABABABABABABABABABABABABABABABABABABABABABABABABABABABABABABABABABABA",
  "BABABABABABABABABABABAB2V6ABABF3ABd5R4KR2B38dBd5Bd2E56d7DRd14FE23d9E7dE7dE7dE7dE7dE7dE7dE7dF",
  "32R2PQPQR3PQRPQR9MR2MRPQR2PQNONONONOR5DR10M2R4MRNR13V2R3NONONONOMd34V26dV89d12V214d26V16WR3V",
  "DEJNONONONONOV2NONONONOMNO2VJ9F4G2MD5V2J3DERV2dE86d2F2U2D2EME90RD3Ed5E43dE94dV2K4V10E32V38d9",
  "VE16V31dK10V30K8VK15V32K10V39K15V320E6592V64E21013DE1143d3V55d9E40D6R2E268DR3E16I10E2d20ABAB",
  "ABABABABABABABABABABABABABABABABABABABABABEFH3RF10RDABABABABABABABABABABABABABABD2F2E70J10F2",
  "R6d8U23D9U2ABABABABABABAB3ABABABABABABABABABABABABABABABABABABABABABABABABABABABABABABABDB8A",
  "BABA2BABABABABDU2ABABEABAB3ABABABABABABABABABABA5BA5BABABABABABABABA4BABA2BABABABABABABABAd2",
  "0D4ABED2BE7FE3FE4FE23G2F2GV4Fd3K6V2TVd6E52R4d8G2E50G16F2d8R2I10d6F18E6R3ERE2FI10E28F8R2E23F1",
  "1G2d11RE29d3F3GE47FG2F4G2F2G3R13dDI10d4R2E5FDE9I10E5dE41F6G2F2G2F2d9E3FE8FGd2I10d2R4E16DE6V3",
  "EGFGE50FEF3E2F2E5F2EFEd24E2DR2E11GF2G2R2ED2GFd10E6d2E6d2E6d9E7dE7dB43UD4B9DU2d4B80E35G2FG2FG",
  "2RGFd2I10d6E11172d12E23d4E49d4b2048c6400E366d2E106d38B7d12B5d5EFE10SE13dE5dEdE2dE2dE108U17V1",
  "6E363ONV16E64V2E54V8d32E12TV3F16R7NORd6F16RM2L2NONONONONONONONOR2NOR4L3R3dR4MNONONOR3SMS3dRT",
  "R2d4E5dE135d2adR3TR3NORSRMR2I10R2S3R2A26NROULUB26NSOSNORNOR2E10DE45D2E31d3E6d2E6d2E6d2E3d3T2",
  "SUVT2dVS4V2d10a3V2d2E12dE26dE19dE2dE15d2E14d34E123d5R3d4K45d3V9J53K4V17K2V3dV13d3Vd47V45Fd13",
  "0E29d3E49d15FK27d4E32K4d9E20JE8Jd5E38F5d5E30dRE36d4E8RJ5d42A40B40E78d2I10d6A36d4B36d4E40d8E5",
  "2d11RA11dA15dA7dA2dB11dB15dB7dB2d3E52d12E311d9E22d10E8d24D6dD42dD9d69E6d2EdE44dE2d3Ed2E23dRK",
  "8E23V2K7E31d8K9d48E19dE2d5K5E22K6d3RE26d5RE26d38E56d4K2E2K16d2K46EF3dF2d5F4E4dE3dE29d2F3d4FK",
  "9d7R9d7E29K2RE29K3d32E8VE28F2d4K5R7d9E54d3R7E22d2K8E19d5K8E18d7R4d12K7d80E73d55A51d13B51d7K6",
  "E36F4d8I10d6I10E4DEA22d3F5MDB22d8S2d208K31dE42dF2Md2E2d16E3DE2d8RV8d33F6E29K10Ed8E22F11K4R5d",
  "22E18F4R4d38E21K7d20E23d9GFGE53F15R7d4K20I10FE2F2Ed9F3GE45G3F4G2F2R2aR4Fd10ad2E25d7I10d6F3E3",
  "6F5GF8dI10R4EG2Ed8E35FR2Ed9F2GE48G3F9G2E4R4F4RGFI10ERER3dK20d11E18dE25G3F3G2FGF2R6FE2Fd62E7d",
  "EdE4dE15dE10Rd6E47FG3F8d5I10d6F2G2dE8d2E2d2E22dE7dE2dE5dF2EG2FG4d2G2d2G3d2Ed6Gd5E5G2d2F7d3F5",
  "d11E10dEd2EdE38dEG3F6dGd2GdG4dG2FGFEFER2dR2d8F2d29E53G3F8G2F3GFE4R5I10R2dRFE3d30E48G3F6GFG4F",
  "2GF2E2REd8I10d166E47G3F4d2G4F2GF2R23E4F2d34E48G3F8G2FGF2R3Ed11I10d6R13d19E43FGFG2F6GFERd6I10",
  "d6I20d28E27d2FGFG2F4GF5d4I10K2R3VE7d185E44G3F9GF2Rd100A32B32I10K9d12E8d2Ed2E8dE2dE24G6dG2d2F",
  "2GFEGEGFR3d9I10d70E8d2E39G3F4d2F2G4FEREGd27EF10E40F6GEF4R8Fd8EF6G2F3E46F13GF2R3ER5d13E73d7R1",
  "0d86FGF3GFGd88E33Rd14I10d6E9dE37GF7dF6GFER5d10I10K19d3R2E30d2F22dGF7GF2GF2d73E7dE2dE38F6d3Fd",
  "F2dF7EFd8I10d6E6dE2dE32G5dF2dG2FGFEd7I10d6E41DE2d4I10d246E19F2G2R2d7F2EGE13dE34G2F5d3G2FGFR1",
  "3I10Fd85Ed15K21V8T4V17d13RE922d102J111dR5d11E196d2636E97R2d13E1072a16FE6F15d10E3995d5E583d68",
  "41E30F12G3F3I10d1734E569d7E31dI10d4R2E79dI10d6E30d2F5Rd10E48F7R5V4D4RVd10I10dK7dE21d5E19d432",
  "D3E40D2R3I10d198A32B32K23R4d5A25d2B25d44E75d4FEG55d7F4D13d64D2RDFd11G2D2J3d9E7382d41E32d97E1",
  "15d8701D4dD7dD2dE291d15Ed29E3d2Ed14E4d8E396d2308E107d5E13d3E9d7E10d2VF2Ra4d3932V240I10V3d3V4",
  "36d6V23d15V16Sd15F46d2F23d9V116d60V246d10V39d2V60G2F3V3G6a8F8V2F7V30F4V61d21V66F3Vd122K20d12",
  "K20d12V87d9K25d135A26B26A26B7dB18A26B26AdA2d2Ad2A2d2A4dA8B4dBdB7dB11A26B26A2dA4d2A8dA7dB26A2",
  "dA4dA5dAd3A7dB26A26B26A26B26A26B26A26B26A26B26A26B28d2A25SB25SB6A25SB25SB6A25SB25SB6A25SB25S",
  "B6A25SB25SB6ABd2I50V512F55V4F50V8FV14FV2R5d15F5dF15d1104B10EB20d6B6d213F7dF17d2F7dF2dF5d5D62",
  "d33Fd112E45d3F7D7d2I10d4EVd320E30Fd17E44F4I10d5Td464E27DF4I10d214E30F2EI10d4Rd192E31dE3FE2FE",
  "7F2E5Fd8EDd224E7dE4dE2dE15dE197d2K9F7d41A34B34F7Dd4I10d4R2d785K59VK3TK4d76K45VK15d194E4dE27d",
  "E2dEd2EdE10dE4dEdEd6Ed4EdEdEdE3dE2dEd2EdEdEdEdEdE2dEd2E4dE7dE4dE4dEdE10dE17d5E3dE5dE17d52S2d",
  "270V44d4V100d12V15d2V15dV15dV37d10K13V161d56V29d13V44d4V9d7V2d14V6d154V251U5V729d3V17d3V13d3",
  "V218d6V12d4Vd15V12d4V56d8V10d6V40d8V30d2V12d4V2d14S9d39V344d8V14d2V13d3V11d3V57dVd4V16d2V12d",
  "4V10d7V147dV92I10Vd1029E42720d32E4382d2E5774d2E7473d15E622d2466E542d1506E4939d5E8490d707463a",
  "d30a96d128F240d65040c65534d2c65534d2"]

/-- The category of a character. -/
def of (c : Char) : Category := ((table.letter? c).map ofLetter).getD .unassigned

end Category

end HttpChain.Text
