import HttpChain.Text.Normalization

/-!
# HttpChain.Url.Mapping

What becomes of each character of a host name before it is encoded: it is kept,
dropped, replaced or refused.  Replacements fold the case and resolve variants
of characters; the table is the one of international domain names.
-/

namespace HttpChain.Url

open Text.Normalization (hexNumber)

/-- What becomes of a character. -/
inductive Mapping where
  | kept
  | dropped
  | replaced (cs : List Char)
  | refused
deriving DecidableEq, Inhabited

namespace Mapping

/-- The rule of a run of characters: the same for all of them, each replaced by the
one at a distance, or every other one replaced by the next. -/
inductive Rule where
  | uniform (m : Mapping)
  | shifted (distance : Int)
  | paired
deriving DecidableEq, Inhabited

/-- A run of characters under one rule, by its first code point. -/
structure MappedRun where
  first : Nat
  rule : Rule
deriving Inhabited

/-- The characters of hexadecimal numbers with points between them. -/
def characters (cs : List Char) : List Char :=
  (Text.splitAll '.' cs).map fun w => Char.ofNat (hexNumber w)

/-- The rule of a word of the table, and how many characters it is about. -/
def rule (word : List Char) : Rule × Nat :=
  let digits := (word.drop 1).takeWhile Text.isDigit
  let count := if digits = [] then 1 else Text.decimalValue digits
  let rest := word.drop (digits.length + 1)
  let rule : Rule := match word.head?, rest with
    | some 'V', _ => .uniform .kept
    | some 'I', _ => .uniform .dropped
    | some 'P', _ => .paired
    | _, '=' :: cs => .uniform (.replaced (characters cs))
    | some 'D', cs => .shifted ((Text.readInteger? cs).getD 0)
    | _, _ => .uniform .refused
  (rule, if rule = .paired then 2 * count else count)

/-- Read the runs of words from a code point on. -/
def readRuns (first : Nat) : List (List Char) → List MappedRun → List MappedRun
  | [], runs => runs
  | w :: ws, runs =>
    let (r, count) := rule w
    readRuns (first + count) ws (⟨first, r⟩ :: runs)

/-- The table from U+0000 on: `V` for characters that are kept, `I` for those that
are dropped, `X` for those that are refused, `P` for pairs, `D` for those replaced
at a distance, and `M` and `S` for those replaced by a text; the number of
characters stands behind the letter when it is not one. -/
def table : List String := [
  "V65 D26+32 V37 X32 M=20 V7 M=20.308 V M=61 V2 I V M=20.304 V2 D2-128 M=20.301 M=3BC V2 ",
  "M=20.327 M=31 M=6F V M=31.2044.34 M=31.2044.32 M=33.2044.34 V D23+32 V D7+32 V33 P24 M=69.307 ",
  "V S2=69.6A P2 V P3 S2=6C.B7 P4 M=2BC.6E P23 M=FF P3 M=73 V M=253 P2 M=254 P D2+205 P V M=1DD ",
  "M=259 M=25B P M=260 M=263 V M=269 M=268 P V2 M=26F M=272 V M=275 P3 M=280 P M=283 V2 P M=288 ",
  "P D2+217 P2 M=292 P V2 P V6 S3=64.17E S3=6C.6A S3=6E.6A P8 V P9 V S3=64.7A P M=195 M=1BF P20 ",
  "M=19E V P9 V6 M=2C65 P M=19A M=2C66 V2 P M=180 M=289 M=28C P5 V96 M=68 M=266 M=6A M=72 M=279 ",
  "M=27B M=281 M=77 M=79 V31 M=20.306 M=20.307 M=20.30A M=20.328 M=20.303 M=20.30B V2 M=263 M=6C ",
  "M=73 M=78 M=295 V91 D2-64 V M=313 M=308.301 M=3B9 V9 I V32 P2 M=2B9 V P X2 M=20.3B9 V3 M=3B ",
  "M=3F3 X4 M=20.301 M=20.308.301 M=3AC M=B7 D3+37 X M=3CC X D2+63 V D17+32 X D9+32 V35 M=3D7 ",
  "M=3B2 M=3B8 M=3C5 M=3CD M=3CB M=3C6 M=3C0 V P12 M=3BA M=3C1 M=3C3 V M=3B8 M=3B5 V P M=3C3 P V ",
  "D3-130 D16+80 D32+32 V48 P17 V8 P27 M=4CF P7 V P48 X D38+48 X2 V46 M=565.582 V3 X2 V3 X V55 ",
  "X8 V27 X4 V6 X17 V22 X V88 M=627.674 M=648.674 M=6C7.674 M=64A.674 V100 X V48 X2 V59 X2 V101 ",
  "X14 V59 X2 V49 X2 V15 X V28 X2 V X V11 X5 V32 X7 V75 X V117 M=915.93C M=916.93C M=917.93C ",
  "M=91C.93C M=921.93C M=922.93C M=92B.93C M=92F.93C V36 X V8 X2 V2 X2 V22 X V7 X V X3 V4 X2 V9 ",
  "X2 V2 X2 V4 X8 V X4 M=9A1.9BC M=9A2.9BC X M=9AF.9BC V4 X2 V25 X2 V3 X V6 X4 V2 X2 V22 X V7 X ",
  "V M=A32.A3C X V M=A38.A3C X V2 X2 V X V5 X4 V2 X2 V3 X3 V X7 M=A16.A3C M=A17.A3C M=A1C.A3C V ",
  "X M=A2B.A3C X7 V17 X10 V3 X V9 X V3 X V22 X V7 X V2 X V5 X2 V10 X V3 X V3 X2 V X15 V4 X2 V12 ",
  "X7 V7 X V3 X V8 X2 V2 X2 V22 X V7 X V2 X V5 X2 V9 X2 V2 X2 V3 X7 V3 X4 M=B21.B3C M=B22.B3C X ",
  "V5 X2 V18 X10 V2 X V6 X3 V3 X V4 X3 V2 X V X V2 X3 V2 X3 V3 X3 V12 X4 V5 X3 V3 X V4 X2 V X6 V ",
  "X14 V21 X5 V13 X V3 X V23 X V16 X2 V9 X V3 X V4 X7 V2 X V3 X V2 X2 V4 X2 V10 X7 V22 X V3 X ",
  "V23 X V10 X V5 X2 V9 X V3 X V4 X7 V2 X5 V3 X V4 X2 V10 X V3 X12 V13 X V3 X V51 X V3 X V6 X4 ",
  "V16 X2 V26 X V3 X V18 X3 V24 X V9 X V X2 V7 X3 V X4 V6 X V X V8 X6 V10 X2 V3 X12 V50 ",
  "M=E4D.E32 V7 X4 V29 X37 V2 X V X V5 X V24 X V X V12 M=ECD.EB2 V10 X2 V5 X V X V7 X V10 X2 ",
  "M=EAB.E99 M=EAB.EA1 V2 X32 V12 M=F0B V54 M=F42.FB7 V4 X V4 M=F4C.FB7 V4 M=F51.FB7 V4 ",
  "M=F56.FB7 V4 M=F5B.FB7 V12 M=F40.FB5 V3 X4 V2 M=F71.F72 V M=F71.F74 M=FB2.F80 M=FB2.F71.F80 ",
  "M=FB3.F80 M=FB3.F71.F80 V7 M=F71.F80 V17 M=F92.FB7 V4 X V4 M=F9C.FB7 V4 M=FA1.FB7 V4 ",
  "M=FA6.FB7 V4 M=FAB.FB7 V12 M=F90.FB5 V3 X V15 X V13 X37 V160 D38+7264 X M=2D27 X5 M=2D2D X2 ",
  "V44 M=10DC V98 I2 V232 X V4 X2 V7 X V X V4 X2 V41 X V4 X2 V33 X V4 X2 V7 X V X V4 X2 V15 X ",
  "V57 X V4 X2 V67 X2 V32 X3 V26 X6 V86 X2 D6-8 X2 V640 X V28 X3 V89 X7 V22 X9 V24 X9 V20 X12 ",
  "V13 X V3 X V2 X12 V52 I2 V40 X2 V10 X6 V10 X6 V11 I5 V10 X6 V89 X7 V43 X5 V70 X10 V31 X V12 ",
  "X4 V12 X4 V X3 V42 X2 V5 X11 V44 X4 V26 X6 V11 X3 V62 X2 V65 X V29 X2 V11 X6 V10 X6 V14 X2 ",
  "V46 X2 V12 X20 V77 X V166 X8 V60 X3 V15 X3 V51 M=432 M=434 M=43E D2-6210 M=442 M=44A M=463 ",
  "M=A64B P X5 D43-3008 X2 D3-3008 V8 X8 V43 X5 V44 M=61 M=E6 M=62 V D2-7372 M=1DD D8-7372 V ",
  "M=6F M=223 M=70 M=72 D2-7372 M=77 M=61 D2-6900 M=1D02 M=62 D2-7396 M=259 D2-6896 M=67 V M=6B ",
  "M=6D M=14B M=6F M=254 D2-62 M=70 D2-7395 M=1D1D M=26F M=76 M=1D25 D3-6571 D2-6554 M=69 M=72 ",
  "D2-7407 D2-6580 M=3C1 D2-6563 V13 M=43D V34 M=252 M=63 M=255 M=F0 M=25C M=66 M=25F M=261 ",
  "M=265 D3-6972 M=1D7B M=29D M=26D M=1D85 M=29F M=271 M=270 D4-6972 M=278 D2-6961 M=1AB D2-6957 ",
  "M=1D1C D2-6958 M=7A D3-6956 M=3B8 V64 P75 V4 M=61.2BE M=1E61 V2 M=DF V P48 V8 D8-8 V6 X2 D6-8 ",
  "X2 V8 D8-8 V8 D8-8 V6 X2 D6-8 X2 V8 X M=1F51 X M=1F53 X M=1F55 X M=1F57 V8 D8-8 V M=3AC V ",
  "M=3AD V M=3AE V M=3AF V M=3CC V M=3CD V M=3CE X2 M=1F00.3B9 M=1F01.3B9 M=1F02.3B9 M=1F03.3B9 ",
  "M=1F04.3B9 M=1F05.3B9 M=1F06.3B9 M=1F07.3B9 M=1F00.3B9 M=1F01.3B9 M=1F02.3B9 M=1F03.3B9 ",
  "M=1F04.3B9 M=1F05.3B9 M=1F06.3B9 M=1F07.3B9 M=1F20.3B9 M=1F21.3B9 M=1F22.3B9 M=1F23.3B9 ",
  "M=1F24.3B9 M=1F25.3B9 M=1F26.3B9 M=1F27.3B9 M=1F20.3B9 M=1F21.3B9 M=1F22.3B9 M=1F23.3B9 ",
  "M=1F24.3B9 M=1F25.3B9 M=1F26.3B9 M=1F27.3B9 M=1F60.3B9 M=1F61.3B9 M=1F62.3B9 M=1F63.3B9 ",
  "M=1F64.3B9 M=1F65.3B9 M=1F66.3B9 M=1F67.3B9 M=1F60.3B9 M=1F61.3B9 M=1F62.3B9 M=1F63.3B9 ",
  "M=1F64.3B9 M=1F65.3B9 M=1F66.3B9 M=1F67.3B9 V2 M=1F70.3B9 M=3B1.3B9 M=3AC.3B9 X V M=1FB6.3B9 ",
  "D2-8 M=1F70 M=3AC M=3B1.3B9 M=20.313 M=3B9 M=20.313 M=20.342 M=20.308.342 M=1F74.3B9 ",
  "M=3B7.3B9 M=3AE.3B9 X V M=1FC6.3B9 M=1F72 M=3AD M=1F74 M=3AE M=3B7.3B9 M=20.313.300 ",
  "M=20.313.301 M=20.313.342 V3 M=390 X2 V2 D2-8 M=1F76 M=3AF X M=20.314.300 M=20.314.301 ",
  "M=20.314.342 V3 M=3B0 V4 D2-8 M=1F7A M=3CD M=1FE5 M=20.308.300 M=20.308.301 M=60 X2 ",
  "M=1F7C.3B9 M=3C9.3B9 M=3CE.3B9 X V M=1FF6.3B9 M=1F78 M=3CC M=1F7C M=3CE M=3C9.3B9 M=20.301 ",
  "M=20.314 X S11=20 I V2 X2 V M=2010 V5 M=20.333 V12 X3 V X7 M=20 V3 M=2032.2032 ",
  "M=2032.2032.2032 V M=2035.2035 M=2035.2035.2035 V4 M=21.21 V M=20.305 V8 M=3F.3F M=3F.21 ",
  "M=21.3F V13 M=2032.2032.2032.2032 V7 M=20 I5 X5 I6 M=30 M=69 X2 D6-8256 M=2B M=2212 M=3D ",
  "D2-8277 M=6E D10-8272 M=2B M=2212 M=3D D2-8293 X M=61 M=65 M=6F M=78 M=259 M=68 D4-8235 M=70 ",
  "D2-8232 X3 V8 M=72.73 V25 X14 V33 X15 M=61.2F.63 M=61.2F.73 M=63 M=B0.63 V M=63.2F.6F ",
  "M=63.2F.75 M=25B V M=B0.66 D2-8355 S3=68 M=127 S2=69 S2=6C V M=6E M=6E.6F V2 D3-8361 S2=72 V2 ",
  "M=73.6D M=74.65.6C M=74.6D V M=7A V M=3C9 V M=7A V M=6B M=E5 D2-8394 V S2=65 M=66 M=214E M=6D ",
  "M=6F D4-7013 M=69 V M=66.61.78 M=3C0 S2=3B3 M=3C0 M=2211 V4 S2=64 M=65 D2-8415 V6 ",
  "M=31.2044.37 M=31.2044.39 M=31.2044.31.30 M=31.2044.33 M=32.2044.33 M=31.2044.35 M=32.2044.35 ",
  "M=33.2044.35 M=34.2044.35 M=31.2044.36 M=35.2044.36 M=31.2044.38 M=33.2044.38 M=35.2044.38 ",
  "M=37.2044.38 M=31.2044 M=69 M=69.69 M=69.69.69 M=69.76 M=76 M=76.69 M=76.69.69 M=76.69.69.69 ",
  "M=69.78 M=78 M=78.69 M=78.69.69 M=6C D2-8458 M=6D M=69 M=69.69 M=69.69.69 M=69.76 M=76 ",
  "M=76.69 M=76.69.69 M=76.69.69.69 M=69.78 M=78 M=78.69 M=78.69.69 M=6C D2-8474 M=6D V3 P V4 ",
  "M=30.2044.33 V2 X4 V156 M=222B.222B M=222B.222B.222B V M=222E.222E M=222E.222E.222E V248 ",
  "D2+3295 V255 X22 V11 X21 D9-9263 M=31.30 M=31.31 M=31.32 M=31.33 M=31.34 M=31.35 M=31.36 ",
  "M=31.37 M=31.38 M=31.39 M=32.30 M=28.31.29 M=28.32.29 M=28.33.29 M=28.34.29 M=28.35.29 ",
  "M=28.36.29 M=28.37.29 M=28.38.29 M=28.39.29 M=28.31.30.29 M=28.31.31.29 M=28.31.32.29 ",
  "M=28.31.33.29 M=28.31.34.29 M=28.31.35.29 M=28.31.36.29 M=28.31.37.29 M=28.31.38.29 ",
  "M=28.31.39.29 M=28.32.30.29 X20 M=28.61.29 M=28.62.29 M=28.63.29 M=28.64.29 M=28.65.29 ",
  "M=28.66.29 M=28.67.29 M=28.68.29 M=28.69.29 M=28.6A.29 M=28.6B.29 M=28.6C.29 M=28.6D.29 ",
  "M=28.6E.29 M=28.6F.29 M=28.70.29 M=28.71.29 M=28.72.29 M=28.73.29 M=28.74.29 M=28.75.29 ",
  "M=28.76.29 M=28.77.29 M=28.78.29 M=28.79.29 M=28.7A.29 D26-9301 D26-9327 M=30 V1313 ",
  "M=222B.222B.222B.222B V103 M=3A.3A.3D M=3D.3D M=3D.3D.3D V101 M=2ADD.338 V151 X2 V138 D48+48 ",
  "V48 P M=26B M=1D7D M=27D V2 P3 M=251 M=271 M=250 M=252 V P V P V5 M=6A M=76 D2-10815 P50 V7 ",
  "P2 V3 P X5 V45 X V X5 V X2 V56 X7 M=2D61 V X14 V24 X9 V7 X V7 X V7 X V7 X V7 X V7 X V7 X V7 X ",
  "V126 X34 V26 X V4 M=6BCD V83 M=9F9F X12 M=4E00 M=4E28 M=4E36 M=4E3F M=4E59 M=4E85 M=4E8C ",
  "M=4EA0 M=4EBA M=513F M=5165 M=516B M=5182 M=5196 M=51AB M=51E0 M=51F5 M=5200 M=529B M=52F9 ",
  "M=5315 M=531A M=5338 M=5341 M=535C M=5369 M=5382 M=53B6 M=53C8 M=53E3 M=56D7 M=571F M=58EB ",
  "M=5902 M=590A M=5915 M=5927 M=5973 M=5B50 M=5B80 M=5BF8 M=5C0F M=5C22 M=5C38 M=5C6E M=5C71 ",
  "M=5DDB M=5DE5 M=5DF1 M=5DFE M=5E72 M=5E7A M=5E7F M=5EF4 M=5EFE M=5F0B M=5F13 M=5F50 M=5F61 ",
  "M=5F73 M=5FC3 M=6208 M=6236 M=624B M=652F M=6534 M=6587 M=6597 M=65A4 M=65B9 M=65E0 M=65E5 ",
  "M=66F0 M=6708 M=6728 M=6B20 M=6B62 M=6B79 M=6BB3 M=6BCB M=6BD4 M=6BDB M=6C0F M=6C14 M=6C34 ",
  "M=706B M=722A M=7236 M=723B M=723F M=7247 M=7259 M=725B M=72AC M=7384 M=7389 M=74DC M=74E6 ",
  "M=7518 M=751F M=7528 M=7530 M=758B M=7592 M=7676 M=767D M=76AE M=76BF M=76EE M=77DB M=77E2 ",
  "M=77F3 M=793A M=79B8 M=79BE M=7A74 M=7ACB M=7AF9 M=7C73 M=7CF8 M=7F36 M=7F51 M=7F8A M=7FBD ",
  "M=8001 M=800C M=8012 M=8033 M=807F M=8089 M=81E3 M=81EA M=81F3 M=81FC M=820C M=821B M=821F ",
  "M=826E M=8272 M=8278 M=864D M=866B M=8840 M=884C M=8863 M=897E M=898B M=89D2 M=8A00 M=8C37 ",
  "M=8C46 M=8C55 M=8C78 M=8C9D M=8D64 M=8D70 M=8DB3 M=8EAB M=8ECA M=8F9B M=8FB0 M=8FB5 M=9091 ",
  "M=9149 M=91C6 M=91CC M=91D1 M=9577 M=9580 M=961C M=96B6 M=96B9 M=96E8 M=9751 M=975E M=9762 ",
  "M=9769 M=97CB M=97ED M=97F3 M=9801 M=98A8 M=98DB M=98DF M=9996 M=9999 M=99AC M=9AA8 M=9AD8 ",
  "M=9ADF M=9B25 M=9B2F M=9B32 M=9B3C M=9B5A M=9CE5 M=9E75 M=9E7F M=9EA5 M=9EBB M=9EC3 M=9ECD ",
  "M=9ED1 M=9EF9 M=9EFD M=9F0E M=9F13 M=9F20 M=9F3B M=9F4A M=9F52 M=9F8D M=9F9C M=9FA0 X42 M=20 ",
  "V M=2E V51 M=3012 V M=5341 D2+8971 V5 X V86 X2 V2 M=20.3099 M=20.309A V2 M=3088.308A V95 ",
  "M=30B3.30C8 X5 V43 X D2-8241 M=11AA M=1102 D2-8073 D3-8244 D6-8074 M=111A D3-8251 M=1121 ",
  "D10-8252 D21-8174 I D2-8273 D2-8096 M=11CC M=11CE M=11D3 M=11D7 M=11D9 M=111C M=11DD M=11DF ",
  "D2-8276 M=1120 D2-8274 M=1127 M=1129 D5-8269 M=1132 M=1136 M=1140 M=1147 M=114C D2-8081 ",
  "D3-8237 D2-8195 M=1188 D2-8185 M=1194 M=119E M=11A1 X V2 M=4E00 M=4E8C M=4E09 M=56DB M=4E0A ",
  "M=4E2D M=4E0B M=7532 M=4E59 M=4E19 M=4E01 M=5929 M=5730 M=4EBA V70 X10 V16 M=28.1100.29 ",
  "M=28.1102.29 M=28.1103.29 M=28.1105.29 M=28.1106.29 M=28.1107.29 M=28.1109.29 M=28.110B.29 ",
  "M=28.110C.29 M=28.110E.29 M=28.110F.29 M=28.1110.29 M=28.1111.29 M=28.1112.29 M=28.AC00.29 ",
  "M=28.B098.29 M=28.B2E4.29 M=28.B77C.29 M=28.B9C8.29 M=28.BC14.29 M=28.C0AC.29 M=28.C544.29 ",
  "M=28.C790.29 M=28.CC28.29 M=28.CE74.29 M=28.D0C0.29 M=28.D30C.29 M=28.D558.29 M=28.C8FC.29 ",
  "M=28.C624.C804.29 M=28.C624.D6C4.29 X M=28.4E00.29 M=28.4E8C.29 M=28.4E09.29 M=28.56DB.29 ",
  "M=28.4E94.29 M=28.516D.29 M=28.4E03.29 M=28.516B.29 M=28.4E5D.29 M=28.5341.29 M=28.6708.29 ",
  "M=28.706B.29 M=28.6C34.29 M=28.6728.29 M=28.91D1.29 M=28.571F.29 M=28.65E5.29 M=28.682A.29 ",
  "M=28.6709.29 M=28.793E.29 M=28.540D.29 M=28.7279.29 M=28.8CA1.29 M=28.795D.29 M=28.52B4.29 ",
  "M=28.4EE3.29 M=28.547C.29 M=28.5B66.29 M=28.76E3.29 M=28.4F01.29 M=28.8CC7.29 M=28.5354.29 ",
  "M=28.796D.29 M=28.4F11.29 M=28.81EA.29 M=28.81F3.29 M=554F M=5E7C M=6587 M=7B8F V8 M=70.74.65 ",
  "M=32.31 M=32.32 M=32.33 M=32.34 M=32.35 M=32.36 M=32.37 M=32.38 M=32.39 M=33.30 M=33.31 ",
  "M=33.32 M=33.33 M=33.34 M=33.35 M=1100 D2-8543 D3-8542 M=1109 D2-8540 D5-8539 M=AC00 M=B098 ",
  "M=B2E4 M=B77C M=B9C8 M=BC14 M=C0AC M=C544 M=C790 M=CC28 M=CE74 M=D0C0 M=D30C M=D558 ",
  "M=CC38.ACE0 M=C8FC.C758 M=C6B0 V M=4E00 M=4E8C M=4E09 M=56DB M=4E94 M=516D M=4E03 M=516B ",
  "M=4E5D M=5341 M=6708 M=706B M=6C34 M=6728 M=91D1 M=571F M=65E5 M=682A M=6709 M=793E M=540D ",
  "M=7279 M=8CA1 M=795D M=52B4 M=79D8 M=7537 M=5973 M=9069 M=512A M=5370 M=6CE8 M=9805 M=4F11 ",
  "M=5199 M=6B63 M=4E0A M=4E2D M=4E0B M=5DE6 M=53F3 M=533B M=5B97 M=5B66 M=76E3 M=4F01 M=8CC7 ",
  "M=5354 M=591C M=33.36 M=33.37 M=33.38 M=33.39 M=34.30 M=34.31 M=34.32 M=34.33 M=34.34 M=34.35 ",
  "M=34.36 M=34.37 M=34.38 M=34.39 M=35.30 M=31.6708 M=32.6708 M=33.6708 M=34.6708 M=35.6708 ",
  "M=36.6708 M=37.6708 M=38.6708 M=39.6708 M=31.30.6708 M=31.31.6708 M=31.32.6708 M=68.67 ",
  "M=65.72.67 M=65.76 M=6C.74.64 M=30A2 M=30A4 M=30A6 M=30A8 D2-554 M=30AD M=30AF M=30B1 M=30B3 ",
  "M=30B5 M=30B7 M=30B9 M=30BB M=30BD M=30BF M=30C1 M=30C4 M=30C6 M=30C8 D6-538 M=30D2 M=30D5 ",
  "M=30D8 M=30DB D5-528 M=30E4 M=30E6 D6-525 D4-524 M=4EE4.548C M=30A2.30D1.30FC.30C8 ",
  "M=30A2.30EB.30D5.30A1 M=30A2.30F3.30DA.30A2 M=30A2.30FC.30EB M=30A4.30CB.30F3.30B0 ",
  "M=30A4.30F3.30C1 M=30A6.30A9.30F3 M=30A8.30B9.30AF.30FC.30C9 M=30A8.30FC.30AB.30FC ",
  "M=30AA.30F3.30B9 M=30AA.30FC.30E0 M=30AB.30A4.30EA M=30AB.30E9.30C3.30C8 ",
  "M=30AB.30ED.30EA.30FC M=30AC.30ED.30F3 M=30AC.30F3.30DE M=30AE.30AC M=30AE.30CB.30FC ",
  "M=30AD.30E5.30EA.30FC M=30AE.30EB.30C0.30FC M=30AD.30ED M=30AD.30ED.30B0.30E9.30E0 ",
  "M=30AD.30ED.30E1.30FC.30C8.30EB M=30AD.30ED.30EF.30C3.30C8 M=30B0.30E9.30E0 ",
  "M=30B0.30E9.30E0.30C8.30F3 M=30AF.30EB.30BC.30A4.30ED M=30AF.30ED.30FC.30CD M=30B1.30FC.30B9 ",
  "M=30B3.30EB.30CA M=30B3.30FC.30DD M=30B5.30A4.30AF.30EB M=30B5.30F3.30C1.30FC.30E0 ",
  "M=30B7.30EA.30F3.30B0 M=30BB.30F3.30C1 M=30BB.30F3.30C8 M=30C0.30FC.30B9 M=30C7.30B7 ",
  "M=30C9.30EB M=30C8.30F3 M=30CA.30CE M=30CE.30C3.30C8 M=30CF.30A4.30C4 ",
  "M=30D1.30FC.30BB.30F3.30C8 M=30D1.30FC.30C4 M=30D0.30FC.30EC.30EB M=30D4.30A2.30B9.30C8.30EB ",
  "M=30D4.30AF.30EB M=30D4.30B3 M=30D3.30EB M=30D5.30A1.30E9.30C3.30C9 M=30D5.30A3.30FC.30C8 ",
  "M=30D6.30C3.30B7.30A7.30EB M=30D5.30E9.30F3 M=30D8.30AF.30BF.30FC.30EB M=30DA.30BD ",
  "M=30DA.30CB.30D2 M=30D8.30EB.30C4 M=30DA.30F3.30B9 M=30DA.30FC.30B8 M=30D9.30FC.30BF ",
  "M=30DD.30A4.30F3.30C8 M=30DC.30EB.30C8 M=30DB.30F3 M=30DD.30F3.30C9 M=30DB.30FC.30EB ",
  "M=30DB.30FC.30F3 M=30DE.30A4.30AF.30ED M=30DE.30A4.30EB M=30DE.30C3.30CF M=30DE.30EB.30AF ",
  "M=30DE.30F3.30B7.30E7.30F3 M=30DF.30AF.30ED.30F3 M=30DF.30EA M=30DF.30EA.30D0.30FC.30EB ",
  "M=30E1.30AC M=30E1.30AC.30C8.30F3 M=30E1.30FC.30C8.30EB M=30E4.30FC.30C9 M=30E4.30FC.30EB ",
  "M=30E6.30A2.30F3 M=30EA.30C3.30C8.30EB M=30EA.30E9 M=30EB.30D4.30FC M=30EB.30FC.30D6.30EB ",
  "M=30EC.30E0 M=30EC.30F3.30C8.30B2.30F3 M=30EF.30C3.30C8 M=30.70B9 M=31.70B9 M=32.70B9 ",
  "M=33.70B9 M=34.70B9 M=35.70B9 M=36.70B9 M=37.70B9 M=38.70B9 M=39.70B9 M=31.30.70B9 ",
  "M=31.31.70B9 M=31.32.70B9 M=31.33.70B9 M=31.34.70B9 M=31.35.70B9 M=31.36.70B9 M=31.37.70B9 ",
  "M=31.38.70B9 M=31.39.70B9 M=32.30.70B9 M=32.31.70B9 M=32.32.70B9 M=32.33.70B9 M=32.34.70B9 ",
  "M=68.70.61 M=64.61 M=61.75 M=62.61.72 M=6F.76 M=70.63 M=64.6D M=64.6D.32 M=64.6D.33 M=69.75 ",
  "M=5E73.6210 M=662D.548C M=5927.6B63 M=660E.6CBB M=682A.5F0F.4F1A.793E M=70.61 M=6E.61 ",
  "M=3BC.61 M=6D.61 M=6B.61 M=6B.62 M=6D.62 M=67.62 M=63.61.6C M=6B.63.61.6C M=70.66 M=6E.66 ",
  "M=3BC.66 M=3BC.67 M=6D.67 M=6B.67 M=68.7A M=6B.68.7A M=6D.68.7A M=67.68.7A M=74.68.7A ",
  "M=3BC.6C M=6D.6C M=64.6C M=6B.6C M=66.6D M=6E.6D M=3BC.6D M=6D.6D M=63.6D M=6B.6D M=6D.6D.32 ",
  "M=63.6D.32 M=6D.32 M=6B.6D.32 M=6D.6D.33 M=63.6D.33 M=6D.33 M=6B.6D.33 M=6D.2215.73 ",
  "M=6D.2215.73.32 M=70.61 M=6B.70.61 M=6D.70.61 M=67.70.61 M=72.61.64 M=72.61.64.2215.73 ",
  "M=72.61.64.2215.73.32 M=70.73 M=6E.73 M=3BC.73 M=6D.73 M=70.76 M=6E.76 M=3BC.76 M=6D.76 ",
  "M=6B.76 M=6D.76 M=70.77 M=6E.77 M=3BC.77 M=6D.77 M=6B.77 M=6D.77 M=6B.3C9 M=6D.3C9 X M=62.71 ",
  "M=63.63 M=63.64 M=63.2215.6B.67 X M=64.62 M=67.79 M=68.61 M=68.70 M=69.6E M=6B.6B M=6B.6D ",
  "M=6B.74 M=6C.6D M=6C.6E M=6C.6F.67 M=6C.78 M=6D.62 M=6D.69.6C M=6D.6F.6C M=70.68 X M=70.70.6D ",
  "M=70.72 M=73.72 M=73.76 M=77.62 M=76.2215.6D M=61.2215.6D M=31.65E5 M=32.65E5 M=33.65E5 ",
  "M=34.65E5 M=35.65E5 M=36.65E5 M=37.65E5 M=38.65E5 M=39.65E5 M=31.30.65E5 M=31.31.65E5 ",
  "M=31.32.65E5 M=31.33.65E5 M=31.34.65E5 M=31.35.65E5 M=31.36.65E5 M=31.37.65E5 M=31.38.65E5 ",
  "M=31.39.65E5 M=32.30.65E5 M=32.31.65E5 M=32.32.65E5 M=32.33.65E5 M=32.34.65E5 M=32.35.65E5 ",
  "M=32.36.65E5 M=32.37.65E5 M=32.38.65E5 M=32.39.65E5 M=33.30.65E5 M=33.31.65E5 M=67.61.6C ",
  "V28813 X3 V55 X9 V348 X20 P23 V18 P14 M=44A M=44C V90 X8 V34 P7 V2 P31 M=A76F V8 P2 M=1D79 P5 ",
  "V3 P M=265 V2 P2 V2 P10 M=266 M=25C M=261 M=26C M=26A V M=29E M=287 M=29D M=AB53 P8 M=A794 ",
  "M=282 M=1D8E P2 M=264 P8 M=19B X20 M=73 M=63 M=66 M=71 P V M=127 M=153 V51 X3 V10 X6 V56 X8 ",
  "V70 X8 V12 X6 V116 X11 V30 X3 V78 X V11 X4 V33 X V55 X9 V14 X2 V10 X2 V103 X24 V28 X10 V6 X2 ",
  "V6 X2 V6 X9 V7 X V7 X V44 M=A727 M=AB37 M=26B M=AB52 V9 M=28D V2 X4 D80-38864 V46 X2 V10 X6 ",
  "V11172 X12 V23 X4 V49 X8452 M=8C48 M=66F4 M=8ECA M=8CC8 M=6ED1 M=4E32 M=53E5 S2=9F9C M=5951 ",
  "M=91D1 M=5587 M=5948 M=61F6 M=7669 M=7F85 M=863F M=87BA M=88F8 M=908F M=6A02 M=6D1B M=70D9 ",
  "M=73DE M=843D M=916A M=99F1 M=4E82 M=5375 M=6B04 M=721B M=862D M=9E1E M=5D50 M=6FEB M=85CD ",
  "M=8964 M=62C9 M=81D8 M=881F M=5ECA M=6717 M=6D6A M=72FC M=90CE M=4F86 M=51B7 M=52DE M=64C4 ",
  "M=6AD3 M=7210 M=76E7 M=8001 M=8606 M=865C M=8DEF M=9732 M=9B6F M=9DFA M=788C M=797F M=7DA0 ",
  "M=83C9 M=9304 M=9E7F M=8AD6 M=58DF M=5F04 M=7C60 M=807E M=7262 M=78CA M=8CC2 M=96F7 M=58D8 ",
  "M=5C62 M=6A13 M=6DDA M=6F0F M=7D2F M=7E37 M=964B M=52D2 M=808B M=51DC M=51CC M=7A1C M=7DBE ",
  "M=83F1 M=9675 M=8B80 M=62CF M=6A02 M=8AFE M=4E39 M=5BE7 M=6012 M=7387 M=7570 M=5317 M=78FB ",
  "M=4FBF M=5FA9 M=4E0D M=6CCC M=6578 M=7D22 M=53C3 M=585E M=7701 M=8449 M=8AAA M=6BBA M=8FB0 ",
  "M=6C88 M=62FE M=82E5 M=63A0 M=7565 M=4EAE M=5169 M=51C9 M=6881 M=7CE7 M=826F M=8AD2 M=91CF ",
  "M=52F5 M=5442 M=5973 M=5EEC M=65C5 M=6FFE M=792A M=95AD M=9A6A M=9E97 M=9ECE M=529B M=66C6 ",
  "M=6B77 M=8F62 M=5E74 M=6190 M=6200 M=649A M=6F23 M=7149 M=7489 M=79CA M=7DF4 M=806F M=8F26 ",
  "M=84EE M=9023 M=934A M=5217 M=52A3 M=54BD M=70C8 M=88C2 M=8AAA M=5EC9 M=5FF5 M=637B M=6BAE ",
  "M=7C3E M=7375 M=4EE4 M=56F9 M=5BE7 M=5DBA M=601C M=73B2 M=7469 M=7F9A M=8046 M=9234 M=96F6 ",
  "M=9748 M=9818 M=4F8B M=79AE M=91B4 M=96B8 M=60E1 M=4E86 M=50DA M=5BEE M=5C3F M=6599 M=6A02 ",
  "M=71CE M=7642 M=84FC M=907C M=9F8D M=6688 M=962E M=5289 M=677B M=67F3 M=6D41 M=6E9C M=7409 ",
  "M=7559 M=786B M=7D10 M=985E M=516D M=622E M=9678 M=502B M=5D19 M=6DEA M=8F2A M=5F8B M=6144 ",
  "M=6817 M=7387 M=9686 M=5229 M=540F M=5C65 M=6613 M=674E M=68A8 M=6CE5 M=7406 M=75E2 M=7F79 ",
  "M=88CF M=88E1 M=91CC M=96E2 M=533F M=6EBA M=541D M=71D0 M=7498 M=85FA M=96A3 M=9C57 M=9E9F ",
  "M=6797 M=6DCB M=81E8 M=7ACB M=7B20 M=7C92 M=72C0 M=7099 M=8B58 M=4EC0 M=8336 M=523A M=5207 ",
  "M=5EA6 M=62D3 M=7CD6 M=5B85 M=6D1E M=66B4 M=8F3B M=884C M=964D M=898B M=5ED3 M=5140 M=55C0 V2 ",
  "M=585A V M=6674 V2 M=51DE M=732A M=76CA M=793C M=795E M=7965 M=798F M=9756 M=7CBE M=7FBD V ",
  "M=8612 V M=8AF8 V2 M=9038 M=90FD V3 M=98EF M=98FC M=9928 M=9DB4 M=90DE M=96B7 M=4FAE M=50E7 ",
  "M=514D M=52C9 M=52E4 M=5351 M=559D M=5606 M=5668 M=5840 M=58A8 M=5C64 M=5C6E M=6094 M=6168 ",
  "M=618E M=61F2 M=654F M=65E2 M=6691 M=6885 M=6D77 M=6E1A M=6F22 M=716E M=722B M=7422 M=7891 ",
  "M=793E M=7949 M=7948 M=7950 M=7956 M=795D D2-32965 M=7A40 M=7A81 M=7BC0 M=7DF4 M=7E09 M=7E41 ",
  "M=7F72 M=8005 M=81ED S2=8279 M=8457 M=8910 M=8996 M=8B01 M=8B39 M=8CD3 M=8D08 M=8FB6 M=9038 ",
  "M=96E3 M=97FF M=983B M=6075 M=242EE M=8218 X2 M=4E26 M=51B5 M=5168 M=4F80 M=5145 M=5180 ",
  "M=52C7 M=52FA M=559D M=5555 M=5599 M=55E2 M=585A M=58B3 M=5944 M=5954 M=5A62 M=5B28 M=5ED2 ",
  "M=5ED9 M=5F69 M=5FAD M=60D8 M=614E M=6108 M=618E M=6160 M=61F2 M=6234 M=63C4 M=641C M=6452 ",
  "M=6556 M=6674 M=6717 M=671B M=6756 M=6B79 M=6BBA M=6D41 M=6EDB M=6ECB M=6F22 M=701E M=716E ",
  "M=77A7 M=7235 M=72AF M=732A M=7471 M=7506 M=753B M=761D M=761F M=76CA M=76DB M=76F4 M=774A ",
  "M=7740 M=78CC M=7AB1 M=7BC0 M=7C7B M=7D5B M=7DF4 M=7F3E M=8005 M=8352 M=83EF M=8779 M=8941 ",
  "M=8986 M=8996 M=8ABF M=8AF8 M=8ACB M=8B01 M=8AFE M=8AED M=8B39 M=8B8A M=8D08 M=8F38 M=9072 ",
  "M=9199 M=9276 M=967C M=96E3 M=9756 M=97DB M=97FF M=980B M=983B M=9B12 M=9F9C M=2284A M=22844 ",
  "M=233D5 M=3B9D M=4018 M=4039 M=25249 M=25CD0 M=27ED3 M=9F43 M=9F8E X38 M=66.66 M=66.69 ",
  "M=66.6C M=66.66.69 M=66.66.6C S2=73.74 X12 M=574.576 M=574.565 M=574.56B M=57E.576 M=574.56D ",
  "X5 M=5D9.5B4 V M=5F2.5B7 M=5E2 M=5D0 D2-62799 D3-62793 M=5E8 M=5EA M=2B M=5E9.5C1 M=5E9.5C2 ",
  "M=5E9.5BC.5C1 M=5E9.5BC.5C2 M=5D0.5B7 M=5D0.5B8 M=5D0.5BC M=5D1.5BC M=5D2.5BC M=5D3.5BC ",
  "M=5D4.5BC M=5D5.5BC M=5D6.5BC X M=5D8.5BC M=5D9.5BC M=5DA.5BC M=5DB.5BC M=5DC.5BC X M=5DE.5BC ",
  "X M=5E0.5BC M=5E1.5BC X M=5E3.5BC M=5E4.5BC X M=5E6.5BC M=5E7.5BC M=5E8.5BC M=5E9.5BC ",
  "M=5EA.5BC M=5D5.5B9 M=5D1.5BF M=5DB.5BF M=5E4.5BF M=5D0.5DC S2=671 S4=67B S4=67E S4=680 ",
  "S4=67A S4=67F S4=679 S4=6A4 S4=6A6 S4=684 S4=683 S4=686 S4=687 S2=68D S2=68C S2=68E S2=688 ",
  "S2=698 S2=691 S4=6A9 S4=6AF S4=6B3 S4=6B1 S2=6BA S4=6BB S2=6C0 S4=6C1 S4=6BE S2=6D2 S2=6D3 ",
  "V33 S4=6AD S2=6C7 S2=6C6 S2=6C8 M=6C7.674 S2=6CB S2=6C5 S2=6C9 S4=6D0 S2=649 S2=626.627 ",
  "S2=626.6D5 S2=626.648 S2=626.6C7 S2=626.6C6 S2=626.6C8 S3=626.6D0 S3=626.649 S4=6CC M=626.62C ",
  "M=626.62D M=626.645 M=626.649 M=626.64A M=628.62C M=628.62D M=628.62E M=628.645 M=628.649 ",
  "M=628.64A M=62A.62C M=62A.62D M=62A.62E M=62A.645 M=62A.649 M=62A.64A M=62B.62C M=62B.645 ",
  "M=62B.649 M=62B.64A M=62C.62D M=62C.645 M=62D.62C M=62D.645 M=62E.62C M=62E.62D M=62E.645 ",
  "M=633.62C M=633.62D M=633.62E M=633.645 M=635.62D M=635.645 M=636.62C M=636.62D M=636.62E ",
  "M=636.645 M=637.62D M=637.645 M=638.645 M=639.62C M=639.645 M=63A.62C M=63A.645 M=641.62C ",
  "M=641.62D M=641.62E M=641.645 M=641.649 M=641.64A M=642.62D M=642.645 M=642.649 M=642.64A ",
  "M=643.627 M=643.62C M=643.62D M=643.62E M=643.644 M=643.645 M=643.649 M=643.64A M=644.62C ",
  "M=644.62D M=644.62E M=644.645 M=644.649 M=644.64A M=645.62C M=645.62D M=645.62E M=645.645 ",
  "M=645.649 M=645.64A M=646.62C M=646.62D M=646.62E M=646.645 M=646.649 M=646.64A M=647.62C ",
  "M=647.645 M=647.649 M=647.64A M=64A.62C M=64A.62D M=64A.62E M=64A.645 M=64A.649 M=64A.64A ",
  "M=630.670 M=631.670 M=649.670 M=20.64C.651 M=20.64D.651 M=20.64E.651 M=20.64F.651 ",
  "M=20.650.651 M=20.651.670 M=626.631 M=626.632 M=626.645 M=626.646 M=626.649 M=626.64A ",
  "M=628.631 M=628.632 M=628.645 M=628.646 M=628.649 M=628.64A M=62A.631 M=62A.632 M=62A.645 ",
  "M=62A.646 M=62A.649 M=62A.64A M=62B.631 M=62B.632 M=62B.645 M=62B.646 M=62B.649 M=62B.64A ",
  "M=641.649 M=641.64A M=642.649 M=642.64A M=643.627 M=643.644 M=643.645 M=643.649 M=643.64A ",
  "M=644.645 M=644.649 M=644.64A M=645.627 M=645.645 M=646.631 M=646.632 M=646.645 M=646.646 ",
  "M=646.649 M=646.64A M=649.670 M=64A.631 M=64A.632 M=64A.645 M=64A.646 M=64A.649 M=64A.64A ",
  "M=626.62C M=626.62D M=626.62E M=626.645 M=626.647 M=628.62C M=628.62D M=628.62E M=628.645 ",
  "M=628.647 M=62A.62C M=62A.62D M=62A.62E M=62A.645 M=62A.647 M=62B.645 M=62C.62D M=62C.645 ",
  "M=62D.62C M=62D.645 M=62E.62C M=62E.645 M=633.62C M=633.62D M=633.62E M=633.645 M=635.62D ",
  "M=635.62E M=635.645 M=636.62C M=636.62D M=636.62E M=636.645 M=637.62D M=638.645 M=639.62C ",
  "M=639.645 M=63A.62C M=63A.645 M=641.62C M=641.62D M=641.62E M=641.645 M=642.62D M=642.645 ",
  "M=643.62C M=643.62D M=643.62E M=643.644 M=643.645 M=644.62C M=644.62D M=644.62E M=644.645 ",
  "M=644.647 M=645.62C M=645.62D M=645.62E M=645.645 M=646.62C M=646.62D M=646.62E M=646.645 ",
  "M=646.647 M=647.62C M=647.645 M=647.670 M=64A.62C M=64A.62D M=64A.62E M=64A.645 M=64A.647 ",
  "M=626.645 M=626.647 M=628.645 M=628.647 M=62A.645 M=62A.647 M=62B.645 M=62B.647 M=633.645 ",
  "M=633.647 M=634.645 M=634.647 M=643.644 M=643.645 M=644.645 M=646.645 M=646.647 M=64A.645 ",
  "M=64A.647 M=640.64E.651 M=640.64F.651 M=640.650.651 M=637.649 M=637.64A M=639.649 M=639.64A ",
  "M=63A.649 M=63A.64A M=633.649 M=633.64A M=634.649 M=634.64A M=62D.649 M=62D.64A M=62C.649 ",
  "M=62C.64A M=62E.649 M=62E.64A M=635.649 M=635.64A M=636.649 M=636.64A M=634.62C M=634.62D ",
  "M=634.62E M=634.645 M=634.631 M=633.631 M=635.631 M=636.631 M=637.649 M=637.64A M=639.649 ",
  "M=639.64A M=63A.649 M=63A.64A M=633.649 M=633.64A M=634.649 M=634.64A M=62D.649 M=62D.64A ",
  "M=62C.649 M=62C.64A M=62E.649 M=62E.64A M=635.649 M=635.64A M=636.649 M=636.64A M=634.62C ",
  "M=634.62D M=634.62E M=634.645 M=634.631 M=633.631 M=635.631 M=636.631 M=634.62C M=634.62D ",
  "M=634.62E M=634.645 M=633.647 M=634.647 M=637.645 M=633.62C M=633.62D M=633.62E M=634.62C ",
  "M=634.62D M=634.62E M=637.645 M=638.645 S2=627.64B V18 M=62A.62C.645 S2=62A.62D.62C ",
  "M=62A.62D.645 M=62A.62E.645 M=62A.645.62C M=62A.645.62D M=62A.645.62E S2=62C.645.62D ",
  "M=62D.645.64A M=62D.645.649 M=633.62D.62C M=633.62C.62D M=633.62C.649 S2=633.645.62D ",
  "M=633.645.62C S2=633.645.645 S2=635.62D.62D M=635.645.645 S2=634.62D.645 M=634.62C.64A ",
  "S2=634.645.62E S2=634.645.645 M=636.62D.649 S2=636.62E.645 S2=637.645.62D M=637.645.645 ",
  "M=637.645.64A M=639.62C.645 S2=639.645.645 M=639.645.649 M=63A.645.645 M=63A.645.64A ",
  "M=63A.645.649 S2=641.62E.645 M=642.645.62D M=642.645.645 M=644.62D.645 M=644.62D.64A ",
  "M=644.62D.649 S2=644.62C.62C S2=644.62E.645 S2=644.645.62D M=645.62D.62C M=645.62D.645 ",
  "M=645.62D.64A M=645.62C.62D M=645.62C.645 M=645.62E.62C M=645.62E.645 V2 M=645.62C.62E ",
  "M=647.645.62C M=647.645.645 M=646.62D.645 M=646.62D.649 S2=646.62C.645 M=646.62C.649 ",
  "M=646.645.64A M=646.645.649 S2=64A.645.645 M=628.62E.64A M=62A.62C.64A M=62A.62C.649 ",
  "M=62A.62E.64A M=62A.62E.649 M=62A.645.64A M=62A.645.649 M=62C.645.64A M=62C.62D.649 ",
  "M=62C.645.649 M=633.62E.649 M=635.62D.64A M=634.62D.64A M=636.62D.64A M=644.62C.64A ",
  "M=644.645.64A M=64A.62D.64A M=64A.62C.64A M=64A.645.64A M=645.645.64A M=642.645.64A ",
  "M=646.62D.64A M=642.645.62D M=644.62D.645 M=639.645.64A M=643.645.64A M=646.62C.62D ",
  "M=645.62E.64A M=644.62C.645 M=643.645.645 M=644.62C.645 M=646.62C.62D M=62C.62D.64A ",
  "M=62D.62C.64A M=645.62C.64A M=641.645.64A M=628.62D.64A M=643.645.645 M=639.62C.645 ",
  "M=635.645.645 M=633.62E.64A M=646.62C.64A V8 X32 M=635.644.6D2 M=642.644.6D2 ",
  "M=627.644.644.647 M=627.643.628.631 M=645.62D.645.62F M=635.644.639.645 M=631.633.648.644 ",
  "M=639.644.64A.647 M=648.633.644.645 M=635.644.649 ",
  "M=635.644.649.20.627.644.644.647.20.639.644.64A.647.20.648.633.644.645 ",
  "M=62C.644.20.62C.644.627.644.647 M=631.6CC.627.644 V3 I16 M=2C M=3001 X D2-64985 M=21 M=3F ",
  "D2-52737 X7 V16 X M=2014 M=2013 S2=5F D2-65037 M=7B M=7D D2-52773 D2-52779 D2-52787 D2-52791 ",
  "D4-52789 V2 M=5B M=5D S4=20.305 S3=5F M=2C M=3001 X2 M=3B M=3A M=3F M=21 M=2014 D2-65073 M=7B ",
  "M=7D D2-52809 M=23 M=26 D2-65079 M=2D M=3C M=3E M=3D X M=5C D2-65093 M=40 X4 M=20.64B ",
  "M=640.64B M=20.64C V M=20.64D X M=20.64E M=640.64E M=20.64F M=640.64F M=20.650 M=640.650 ",
  "M=20.651 M=640.651 M=20.652 M=640.652 D2-63583 D2-63584 D2-63585 D2-63586 D2-63587 S3=626 ",
  "S2=627 S4=628 S2=629 S4=62A S4=62B S4=62C S4=62D S4=62E S2=62F S2=630 S2=631 S2=632 S4=633 ",
  "S4=634 S4=635 S4=636 S4=637 S4=638 S4=639 S4=63A S4=641 S4=642 S4=643 S4=644 S4=645 S4=646 ",
  "S4=647 S2=648 S2=649 S4=64A S2=644.622 S2=644.623 S2=644.625 S2=644.627 X2 I X D32-65248 ",
  "D26-65216 D36-65248 D2-54746 M=2E D2-53078 M=3001 M=30FB M=30F2 M=30A1 M=30A3 M=30A5 M=30A7 ",
  "M=30A9 M=30E3 M=30E5 M=30E7 M=30C3 M=30FC M=30A2 M=30A4 M=30A6 M=30A8 D2-52939 M=30AD M=30AF ",
  "M=30B1 M=30B3 M=30B5 M=30B7 M=30B9 M=30BB M=30BD M=30BF M=30C1 M=30C4 M=30C6 M=30C8 D6-52923 ",
  "M=30D2 M=30D5 M=30D8 M=30DB D5-52913 M=30E4 M=30E6 D6-52910 M=30EF M=30F3 D2-52997 I D2-61089 ",
  "M=11AA M=1102 D2-60921 D3-61092 D6-60922 M=111A D3-61099 M=1121 D10-61100 X3 D6-61025 X2 ",
  "D6-61027 X2 D6-61029 X2 D3-61031 X3 D2-65342 M=AC M=20.304 M=A6 M=A5 M=20A9 X M=2502 D4-56921 ",
  "M=25A0 M=25CB X17 V12 X V26 X V19 X V2 X V15 X2 V14 X34 V123 X5 V3 X4 V45 X3 V88 X V13 X3 V ",
  "X47 V46 X130 V29 X3 V49 X15 V28 X4 V36 X9 V30 X5 V43 X5 V30 X V37 X4 V14 X42 D40+40 V118 X2 ",
  "V10 X6 D36+40 X4 V36 X4 V40 X8 V52 X11 V D11+39 X D15+39 X D7+39 X D2+39 X V11 X V15 X V7 X ",
  "V2 X3 V52 X12 V311 X9 V22 X10 V8 X24 V D2-66737 M=E6 M=299 M=253 X M=2A3 M=AB66 M=2A5 M=2A4 ",
  "D2-66869 M=1D91 M=258 M=25E M=2A9 M=264 M=262 M=260 M=29B M=127 M=29C M=267 M=284 D2-66799 ",
  "M=26C M=1DF04 M=A78E M=26E M=1DF05 M=28E M=1DF06 M=F8 D2-66861 M=71 M=27A M=1DF08 D2-66859 ",
  "M=280 M=2A8 M=2A6 M=AB67 M=2A7 M=288 M=2C71 X M=28F D2-66834 M=298 D3-67062 M=1DF0A M=1DF1E ",
  "X69 V6 X2 V X V44 X V2 X3 V X2 V23 X V72 X8 V9 X48 V19 X V2 X5 V33 X3 V27 X5 V27 X38 V56 X4 ",
  "V20 X2 V50 X V2 X5 V8 X V3 X V29 X2 V3 X4 V10 X7 V9 X7 V64 X32 V39 X4 V12 X9 V54 X3 V29 X2 ",
  "V27 X5 V26 X7 V4 X12 V7 X80 V73 X55 D51+64 X13 V51 X7 V46 X8 V10 X6 V16 D22+32 X3 V29 X8 V2 ",
  "X208 V31 X V42 X V3 X2 V2 X16 V6 X8 V9 X33 V46 X8 V42 X22 V26 X38 V28 X20 V23 X9 V78 X4 V36 ",
  "X9 V62 X V5 X13 V25 X7 V10 X6 V53 X V18 X8 V39 X9 V96 X V20 X11 V18 X V47 X62 V7 X V X V4 X ",
  "V15 X V11 X6 V59 X5 V10 X6 V4 X V8 X2 V2 X2 V22 X V7 X V2 X V5 X V10 X2 V2 X2 V3 X2 V X6 V X5 ",
  "V7 X2 V7 X3 V5 X11 V10 X V X2 V X V38 X V10 X V X2 V X V4 X V10 X V2 X8 V2 X29 V92 X V5 X30 ",
  "V72 X8 V10 X166 V54 X2 V38 X34 V69 X11 V10 X6 V13 X19 V58 X6 V10 X6 V20 X28 V27 X2 V15 X4 V23 ",
  "X185 V60 X100 D32+32 V51 X12 V8 X2 V X2 V8 X V2 X V30 X V2 X2 V12 X9 V10 X70 V8 X2 V46 X2 V11 ",
  "X27 V72 X8 V83 X13 V73 X7 V10 X86 V8 X88 V34 X14 V10 X6 V9 X V45 X V14 X10 V29 X3 V32 X2 V22 ",
  "X V14 X73 V7 X V2 X V44 X3 V X V2 X V9 X8 V10 X6 V6 X V2 X V37 X V2 X V6 X7 V10 X6 V44 X4 V10 ",
  "X246 V25 X7 V17 X V41 X3 V29 X85 V X15 V50 X13 V923 X102 V111 X V5 X11 V196 X2636 V99 X13 ",
  "V1072 X16 V22 X10 V3995 X5 V583 X6841 V58 X1734 V569 X7 V31 X V10 X4 V81 X V10 X6 V30 X2 V6 ",
  "X10 V70 X10 V10 X V7 X V21 X5 V19 X432 V58 X198 D32+32 V59 X5 D25+27 X2 V25 X44 V75 X4 V57 X7 ",
  "V17 X64 V5 X11 V7 X9 V7382 X41 V32 X97 V115 X8701 V4 X V7 X V2 X V291 X15 V X29 V3 X2 V X14 ",
  "V4 X8 V396 X2308 V107 X5 V13 X3 V9 X7 V10 X2 V4 I4 X3932 V214 D26-117877 D10-117952 V3 X3 ",
  "V436 X6 V23 X15 V17 X15 V46 X2 V23 X9 V116 X60 V246 X10 V39 X2 V53 M=1D157.1D165 ",
  "M=1D158.1D165 M=1D158.1D165.1D16E M=1D158.1D165.1D16F M=1D158.1D165.1D170 M=1D158.1D165.1D171 ",
  "M=1D158.1D165.1D172 V14 I8 V64 M=1D1B9.1D165 M=1D1BA.1D165 M=1D1B9.1D165.1D16E ",
  "M=1D1BA.1D165.1D16E M=1D1B9.1D165.1D16F M=1D1BA.1D165.1D16F V42 X21 V70 X122 V20 X12 V20 X12 ",
  "V87 X9 V25 X135 D26-119711 D26-119737 D26-119763 D7-119789 X D18-119789 D26-119815 D26-119841 ",
  "M=61 X D2-119867 X2 M=67 X2 D2-119867 X2 D4-119867 X D8-119867 D4-119893 X M=66 X D7-119893 X ",
  "D11-119893 D26-119919 D26-119945 D2-119971 X D4-119971 X2 D8-119971 X D7-119971 X D26-119997 ",
  "D2-120023 X D4-120023 X D5-120023 X M=6F X3 D7-120023 X D26-120049 D26-120075 D26-120101 ",
  "D26-120127 D26-120153 D26-120179 D26-120205 D26-120231 D26-120257 D26-120283 D26-120309 ",
  "D26-120335 D26-120361 M=131 M=237 X2 D17-119543 M=3B8 D7-119543 M=2207 D17-119569 S2=3C3 ",
  "D6-119569 M=2202 M=3B5 M=3B8 M=3BA M=3C6 M=3C1 M=3C0 D17-119601 M=3B8 D7-119601 M=2207 ",
  "D17-119627 S2=3C3 D6-119627 M=2202 M=3B5 M=3B8 M=3BA M=3C6 M=3C1 M=3C0 D17-119659 M=3B8 ",
  "D7-119659 M=2207 D17-119685 S2=3C3 D6-119685 M=2202 M=3B5 M=3B8 M=3BA M=3C6 M=3C1 M=3C0 ",
  "D17-119717 M=3B8 D7-119717 M=2207 D17-119743 S2=3C3 D6-119743 M=2202 M=3B5 M=3B8 M=3BA M=3C6 ",
  "M=3C1 M=3C0 D17-119775 M=3B8 D7-119775 M=2207 D17-119801 S2=3C3 D6-119801 M=2202 M=3B5 M=3B8 ",
  "M=3BA M=3C6 M=3C1 M=3C0 S2=3DD X2 D10-120734 D10-120744 D10-120754 D10-120764 D10-120774 V652 ",
  "X15 V5 X V15 X1104 V31 X6 V6 X213 V7 X V17 X2 V7 X V2 X V5 X5 D9-121856 D3-121855 D11-121854 ",
  "M=44B D2-121851 M=A689 M=4D9 M=456 M=458 M=4E9 M=4AF M=4CF D9-121889 D2-121888 D2-121886 ",
  "M=441 D6-121884 D2-121883 M=491 M=456 M=455 M=45F M=4AB M=A651 M=4B1 X33 V X112 V45 X3 V14 X2 ",
  "V10 X4 V2 X320 V31 X17 V58 X5 V X464 V42 X214 V43 X4 V X192 V31 X V22 X8 V2 X224 V7 X V4 X V2 ",
  "X V15 X V197 X2 V16 X41 D34+34 V42 X4 V10 X4 V2 X785 V68 X76 V61 X194 D2-124889 M=62C M=62F X ",
  "M=648 M=632 M=62D M=637 M=64A D4-124871 M=633 M=639 M=641 M=635 M=642 M=631 M=634 D2-124907 ",
  "M=62E M=630 M=636 M=638 M=63A M=66E M=6BA M=6A1 M=66F X M=628 M=62C X M=647 X2 M=62D X M=64A ",
  "D4-124903 M=633 M=639 M=641 M=635 M=642 X M=634 D2-124939 M=62E X M=636 X M=63A X6 M=62C X4 ",
  "M=62D X M=64A X M=644 X M=646 M=633 M=639 X M=635 M=642 X M=634 X2 M=62E X M=636 X M=63A X ",
  "M=6BA X M=66F X M=628 M=62C X M=647 X2 M=62D M=637 M=64A M=643 X D2-124967 M=633 M=639 M=641 ",
  "M=635 M=642 X M=634 D2-125003 M=62E X M=636 M=638 M=63A M=66E X M=6A1 X D2-125017 M=62C M=62F ",
  "D2-124989 M=632 M=62D M=637 M=64A X D3-124999 M=633 M=639 M=641 M=635 M=642 M=631 M=634 ",
  "D2-125035 M=62E M=630 M=636 M=638 M=63A X5 M=628 M=62C M=62F X M=648 M=632 M=62D M=637 M=64A ",
  "X D3-125031 M=633 M=639 M=641 M=635 M=642 M=631 M=634 D2-125067 M=62E M=630 M=636 M=638 M=63A ",
  "X52 V2 X270 V44 X4 V100 X12 V15 X2 V15 X V15 X V37 X11 M=30.2C M=31.2C M=32.2C M=33.2C ",
  "M=34.2C M=35.2C M=36.2C M=37.2C M=38.2C M=39.2C V5 M=28.61.29 M=28.62.29 M=28.63.29 ",
  "M=28.64.29 M=28.65.29 M=28.66.29 M=28.67.29 M=28.68.29 M=28.69.29 M=28.6A.29 M=28.6B.29 ",
  "M=28.6C.29 M=28.6D.29 M=28.6E.29 M=28.6F.29 M=28.70.29 M=28.71.29 M=28.72.29 M=28.73.29 ",
  "M=28.74.29 M=28.75.29 M=28.76.29 M=28.77.29 M=28.78.29 M=28.79.29 M=28.7A.29 M=3014.73.3015 ",
  "M=63 M=72 M=63.64 M=77.7A V D26-127183 M=68.76 M=6D.76 M=73.64 M=73.73 M=70.70.76 M=77.63 V26 ",
  "M=6D.63 M=6D.64 M=6D.72 V35 M=64.6A V29 X56 V26 M=307B.304B M=30B3.30B3 M=30B5 X13 M=624B ",
  "M=5B57 M=53CC M=30C7 M=4E8C M=591A M=89E3 M=5929 M=4EA4 M=6620 M=7121 M=6599 M=524D M=5F8C ",
  "M=518D M=65B0 M=521D M=7D42 M=751F M=8CA9 M=58F0 M=5439 M=6F14 M=6295 M=6355 M=4E00 M=4E09 ",
  "M=904A M=5DE6 M=4E2D M=53F3 M=6307 M=8D70 M=6253 M=7981 M=7A7A M=5408 M=6E80 M=6709 M=6708 ",
  "M=7533 M=5272 M=55B6 M=914D X4 M=3014.672C.3015 M=3014.4E09.3015 M=3014.4E8C.3015 ",
  "M=3014.5B89.3015 M=3014.70B9.3015 M=3014.6253.3015 M=3014.76D7.3015 M=3014.52DD.3015 ",
  "M=3014.6557.3015 X7 M=5F97 M=53EF X14 V6 X154 V985 X3 V17 X3 V13 X3 V218 X6 V12 X4 V X15 V12 ",
  "X4 V56 X8 V10 X6 V40 X8 V30 X2 V12 X4 V2 X14 V9 X39 V344 X8 V14 X2 V13 X3 V11 X3 V57 X V X4 ",
  "V16 X2 V12 X4 V10 X7 V147 X V92 D10-129984 V X1029 V42720 X32 V4382 X2 V5774 X2 V7473 X15 ",
  "V622 X2466 M=4E3D M=4E38 M=4E41 M=20122 M=4F60 M=4FAE M=4FBB M=5002 M=507A M=5099 M=50E7 ",
  "M=50CF M=349E M=2063A M=514D M=5154 M=5164 M=5177 M=2051C M=34B9 M=5167 M=518D M=2054B M=5197 ",
  "M=51A4 M=4ECC M=51AC M=51B5 M=291DF M=51F5 M=5203 M=34DF M=523B M=5246 M=5272 M=5277 M=3515 ",
  "M=52C7 M=52C9 M=52E4 M=52FA D2-173348 M=5317 M=5349 M=5351 M=535A M=5373 M=537D S3=537F ",
  "M=20A2C M=7070 M=53CA M=53DF M=20B63 M=53EB M=53F1 M=5406 M=549E M=5438 M=5448 M=5468 M=54A2 ",
  "M=54F6 M=5510 M=5553 M=5563 S2=5584 M=5599 M=55AB M=55B3 M=55C2 M=5716 M=5606 M=5717 M=5651 ",
  "M=5674 M=5207 M=58EE M=57CE M=57F4 M=580D M=578B M=5832 M=5831 M=58AC M=214E4 M=58F2 M=58F7 ",
  "M=5906 M=591A M=5922 M=5962 M=216A8 M=216EA M=59EC M=5A1B M=5A27 M=59D8 M=5A66 M=36EE M=36FC ",
  "M=5B08 S2=5B3E M=219C8 M=5BC3 M=5BD8 M=5BE7 M=5BF3 M=21B18 M=5BFF M=5C06 M=5F53 M=5C22 M=3781 ",
  "M=5C60 M=5C6E M=5CC0 M=5C8D M=21DE4 M=5D43 M=21DE6 M=5D6E M=5D6B M=5D7C D2-170656 M=382F ",
  "M=5DFD M=5E28 M=5E3D M=5E69 M=3862 M=22183 M=387C M=5EB0 M=5EB3 M=5EB6 M=5ECA M=2A392 M=5EFE ",
  "S2=22331 M=8201 S2=5F22 M=38C7 M=232B8 M=261DA M=5F62 M=5F6B M=38E3 M=5F9A M=5FCD M=5FD7 ",
  "M=5FF9 M=6081 M=393A M=391C M=6094 M=226D4 M=60C7 M=6148 M=614C M=614E M=614C M=617A M=618E ",
  "M=61B2 M=61A4 M=61AF M=61DE M=61F2 M=61F6 M=6210 M=621B M=625D M=62B1 M=62D4 M=6350 M=22B0C ",
  "M=633D M=62FC M=6368 M=6383 M=63E4 M=22BF1 M=6422 M=63C5 M=63A9 M=3A2E M=6469 M=647E M=649D ",
  "M=6477 M=3A6C M=654F M=656C M=2300A M=65E3 M=66F8 M=6649 M=3B19 M=6691 M=3B08 M=3AE4 M=5192 ",
  "M=5195 M=6700 M=669C M=80AD M=43D9 M=6717 M=671B M=6721 M=675E M=6753 M=233C3 M=3B49 M=67FA ",
  "M=6785 M=6852 M=6885 M=2346D M=688E M=681F M=6914 M=3B9D M=6942 M=69A3 M=69EA M=6AA8 M=236A3 ",
  "M=6ADB M=3C18 M=6B21 M=238A7 M=6B54 M=3C4E M=6B72 M=6B9F D2-167227 M=23A8D M=21D0B M=23AFA ",
  "M=6C4E M=23CBC M=6CBF M=6CCD M=6C67 M=6D16 M=6D3E M=6D77 M=6D41 M=6D69 M=6D78 M=6D85 M=23D1E ",
  "M=6D34 M=6E2F M=6E6E M=3D33 M=6ECB M=6EC7 M=23ED1 M=6DF9 M=6F6E M=23F5E M=23F8E M=6FC6 M=7039 ",
  "M=701E M=701B M=3D96 M=704A M=707D M=7077 M=70AD M=20525 M=7145 M=24263 M=719C M=243AB M=7228 ",
  "M=7235 M=7250 M=24608 M=7280 M=7295 M=24735 M=24814 M=737A M=738B M=3EAC M=73A5 S2=3EB8 ",
  "M=7447 M=745C M=7471 M=7485 M=74CA M=3F1B M=7524 M=24C36 M=753E M=24C92 M=7570 M=2219F M=7610 ",
  "M=24FA1 M=24FB8 M=25044 M=3FFC M=4008 M=76F4 M=250F3 M=250F2 M=25119 M=25133 D2-164391 M=771F ",
  "M=774A M=4039 M=778B M=4046 M=4096 M=2541D M=784E M=788C M=78CC M=40E3 M=25626 M=7956 M=2569A ",
  "M=256C5 M=798F M=79EB M=412F M=7A40 M=7A4A M=7A4F M=2597C S2=25AA7 M=7AEE M=4202 M=25BAB ",
  "M=7BC6 M=7BC9 M=4227 M=25C80 M=7CD2 M=42A0 M=7CE8 M=7CE3 M=7D00 M=25F86 M=7D63 M=4301 M=7DC7 ",
  "M=7E02 M=7E45 M=4334 M=26228 M=26247 M=4359 M=262D9 M=7F7A M=2633E M=7F95 M=7FFA M=8005 ",
  "M=264DA M=26523 M=8060 M=265A8 M=8070 M=2335F M=43D5 M=80B2 M=8103 M=440B M=813E M=5AB5 ",
  "M=267A7 M=267B5 M=23393 M=2339C M=8201 M=8204 M=8F9E M=446B M=8291 M=828B M=829D M=52B3 ",
  "M=82B1 M=82B3 M=82BD M=82E6 M=26B3C M=82E5 M=831D M=8363 M=83AD M=8323 M=83BD M=83E7 M=8457 ",
  "M=8353 M=83CA M=83CC M=83DC M=26C36 M=26D6B M=26CD5 M=452B M=84F1 M=84F3 M=8516 M=273CA ",
  "M=8564 M=26F2C M=455D M=4561 M=26FB1 M=270D2 M=456B M=8650 M=865C M=8667 M=8669 M=86A9 M=8688 ",
  "M=870E M=86E2 M=8779 M=8728 M=876B M=8786 M=45D7 M=87E1 M=8801 M=45F9 M=8860 M=8863 M=27667 ",
  "M=88D7 M=88DE M=4635 M=88FA M=34BB M=278AE M=27966 M=46BE M=46C7 M=8AA0 M=8AED M=8B8A M=8C55 ",
  "M=27CA8 M=8CAB M=8CC1 M=8D1B M=8D77 M=27F2F M=20804 M=8DCB M=8DBC M=8DF0 M=208DE M=8ED4 ",
  "M=8F38 M=285D2 M=285ED M=9094 M=90F1 M=9111 M=2872E M=911B M=9238 D2-157457 M=927C M=93F9 ",
  "M=9415 M=28BFA M=958B M=4995 M=95B7 M=28D77 M=49E6 M=96C3 M=5DB2 M=9723 M=29145 M=2921A ",
  "M=4A6E M=4A76 M=97E0 M=2940A M=4AB2 M=29496 S2=980B M=9829 M=295B6 M=98E2 M=4B33 M=9929 ",
  "M=99A7 M=99C2 M=99FE M=4BCE M=29B30 M=9B12 M=9C40 M=9CFD M=4CCE M=4CED M=9D67 M=2A0CE M=4CF8 ",
  "M=2A105 M=2A20E M=2A291 M=9EBB M=4D56 M=9EF9 M=9EFE M=9F05 M=9F0F M=9F16 M=9F3B M=2A600 X1506 ",
  "V4939 X5 V8490 X707718 I240 X196112"]

/-- The runs of the table, from the last. -/
def runs : List MappedRun := readRuns 0 (Text.splitAll ' ' (table.flatMap String.toList)) []

/-- What a rule makes of the character at a place in its run. -/
def Rule.at : Rule → Nat → Char → Mapping
  | uniform m, _, _ => m
  | shifted d, _, c => .replaced [Char.ofNat (c.toNat + d).toNat]
  | paired, i, c => if i % 2 = 0 then .replaced [Char.ofNat (c.toNat + 1)] else .kept

/-- What becomes of a character. -/
def of (c : Char) : Mapping :=
  if c.toNat < 0x80 then if c.isUpper then .replaced [c.toLower] else .kept
  else match runs.find? fun r => r.first ≤ c.toNat with
    | some r => r.rule.at (c.toNat - r.first) c
    | none => .refused

end Mapping

end HttpChain.Url
