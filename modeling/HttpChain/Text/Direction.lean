import HttpChain.Text.RunTable

/-!
# HttpChain.Text.Direction

The direction in which characters are written.  The letters of the table are
`L` and `R` for letters written from the left and from the right, `A` for Arabic
letters, `E` and `N` for European and Arabic digits, `S`, `T` and `C` for what
separates, surrounds and joins digits, `M` for marks, `B` for characters without
an image, `O` for all others of no direction, and `X` for those that change it.
-/

namespace HttpChain.Text.Direction

/-- The directions of all characters. -/
def table : RunTable := .ofLines [
  "B9X5B14X5O2T3O5SCSC2E10CO6L26O6L26O4B6XB26COT4O4LO2BO2T2E2OLO3ELO5L23OL31OL449O2L7O14L2O14L5O9",
  "LO17M112L4O2L8OL5O2LOL110OL140M7L256OL2O2TRM45RMRM2RM2RMR56N6O2AT2ACAO2M11A48M21N10TN2A3MA101M",
  "7NOM6A2M2OM4A2E10A23MA30M27A91M11A15R43M9R2O4R3MR24M4RM9RM3RM5R43M3R4A48N2A6M8A42M24NM32L55MLM",
  "L4M8L4ML3M7L10M2L29ML58ML4M4L8ML20M2L14T2L7TL2ML2M2L57ML4M2L4M2L2M3L3ML30M2L3ML11M2L57ML4M5LM2",
  "L4ML20M2L13TL8M6LML58ML2MLM4L8ML7M2L11M2L30ML61ML12ML37O6TOL5ML3ML55MLM3L5M3LM4L7M2L11M2L20O7L",
  "2ML58ML15M2L20M2L28M2L57M2L4M4L8ML20M2L29ML72ML7M3LML90ML2M7L4TL7M8L98ML2M9L11M6L74M2L27MLMLMO",
  "4L51M14LM5LM2L5M11LM36L9ML102M4LM6LM2L2M2L25M2L4M3L16M4L13ML2M2L6ML15ML703M3L48O10L102OL639XL2",
  "6O2L117M3L29M2L30M2L30M2L64M2LM7L8ML2M11L7TLML18O10L6O11M3BML117M2L34ML118M3L4M2L9ML6M3L4OL3O2",
  "L152O34L23M2L2ML58MLM7LMLML2M8L6M10L2ML48M31L49M4L48MLM5LML5ML40M9L12M2L32M4L2M2LM3L56MLM2L3ML",
  "M3L58M8L2M2L152M3LM13LM7L4ML6ML3M2L198M64L445OLO3L11O3L13O3L13O3L13O2LX11B3LRO24X7CT5O15CO26XB",
  "5LX4B6EL3E6S2O3LE10S2O3L17T48M33L15O2LO4LO2L10OLO3L5O6LOLOLOL4TL11O2L4O5L5O4L2O16L41O3L4O130ST",
  "O290L69O26LO145L25O11L21O40E20L78O450LO339L256O628L2O32LO105L229O6L4M3L7O7L127ML96M32O94L34O26",
  "LO89L12O214L26O12L4XO4L3O25L9M4L2OL5O2L5O3L89M2O2L3OL90OL196O36L57O2L49O16L28O3L50O15L12O4L167",
  "O4L99O2L31OL6592O64L22160O55L326O3L95M4OM10O2L30M2L80M2L14O34L102OL121ML3ML4ML25M2LO4ML11T2L58",
  "O4L76M2L26M18L13ML38M8L25M11L46M3L48ML2M4L2M2L39ML67M6L2M2L2M2L12ML8ML47ML51MLM3L2M2L5M2LML42M",
  "2L8ML115O2L121ML2ML4ML20271RMR10SR38A494O18A127OL32A13O3M16O10L6M16O32COCLOCO9TO2S2O3LOT2OL4A1",
  "43BLO2T3O5SCSC2E10CO6L26O6L26O11L122T2O3T2LO7L10O5L259OL62O77L3O13L3OL92ML226ME27L122M5L1157R2",
  "87OR225M3RM2R5M4R40M3R4MR165M2R82O7R448A36M4A8N10A6R288N31R44M2R19A64R48A22M11A31R18M4R122LML5",
  "4M15L11O20L10ML2M2L10M3L49M4L2M2L7ML61M3L36M5LM8L62ML12M2L52M9L10M4L2ML95M3L2MLM2L6ML160ML3M8L",
  "21M2L57M2L3ML37M7L3M5L195M8L2M3LML23ML84M6LML4M2LM2L238M4L6M2LM2L27M2L85M8L2MLM2L31O13L62MLML2",
  "M6LML101M3L2M4LM5L259M9LM2L256M2LML4ML144M4L2M2L4ML32M6L2M2L40M6L2M4L8ML9M6L2M3L46M13LM2L406M7",
  "LM6L84M22L2M7LM2LM2L122M6L3MLM2LM7LML72M2L3MLML347M2L224O8T4O17L19198M5L59M7L1048ML63M4L79OLML",
  "19640M2LB4L4700M46L2M23L544M3L9B8M8L2M7L30M4L59O2L21O66M3OL186O87L900OL57OL57OL57OL57OL10E50L5",
  "12M55L4M50L8ML14ML22M5LM15L1360M7LM17L2M7LM2LM5L261M7L375ML61M4L15TL1280R208M7R109M7R805A80R64",
  "A80R176A240O2A14R256O44L4O100L12O15L2O15LO15LO37L10E11O5L31OL58O6L61OL178O6L154O984L5O16L3O13L",
  "3O116L12O89L7O12L4OL15O12L4O56L8O10L6O40L8O30L2O2L78O340L12O14L2O5L3O5L3O7L9O29L3O11L5O6L10O10",
  "L6O8L8O7L9O147LO55L37E10L787463BL30B96L128M240L196112"]

/-- The letter of a character. -/
def of (c : Char) : Char := (table.letter? c).getD 'L'

end HttpChain.Text.Direction
