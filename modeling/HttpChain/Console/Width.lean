import HttpChain.Text.RunTable

/-!
# HttpChain.Console.Width

How many columns a text takes on a terminal: none for marks that combine with
the character before and for characters without an image, two for the wide
characters of East Asia and for emoji, one for all others.
-/

namespace HttpChain.Console

/-- The columns of all characters: `Z`, `N` and `W` for none, one and two. -/
def widthTable : Text.RunTable := .ofLines [
  "N768Z112N8W2N6W4N7WNWN20WN224Z7N166WN38W2N50W2N3WZ45NZNZ2NZ2NZW8N27W4N6W11N16Z11NZN46Z21N16Z",
  "N101Z7N2Z6N2Z2NZ4N32WN2ZN30Z27W2N89Z11NW14N43Z9N7W2ZN24Z4NZ9NZ3NZ5W2N15WN25Z3W2NWN11W5N31WN2",
  "W5Z9N42Z24NZ32N55ZNZN4Z8N4ZN3Z7N10Z2N29ZN2WN8W2N2W2N22WN7WNW3N4W2ZNZN2Z4W2N2W2N2ZNW8ZW4N2WN3",
  "Z2W2N24ZW2Z2NWN6W4N2W2N22WN7WN2WN2WN2W2ZWN3Z2W4Z2W2Z3W3ZW7N4WNW7N10Z2N3ZNW10Z2NWN9WN3WN22WN7",
  "WN2WN5W2ZN4Z5WZ2NWN2ZW2NW15N2Z2W2N12W7NZ6WZN2WN8W2N2W2N22WN7WN2WN5W2ZNZ2NZ4W2N2W2N2ZW7Z3W4N2",
  "WN3Z2W2N18W10ZNWN6W3N3WN4W3N2WNWN2W3N2W3N3W3N12W4ZNZN2W3N3WN3ZW2NW6ZW14N21W5ZN3ZN8WN3WN23WN1",
  "6W2ZNZ3N4WZ3WZ4W7Z2WN3W2NW2N2Z2W2N10W7N10ZN11WN3WN23WN10WN5W2ZN2Z2NZN2WZ3WZ4W7Z2W6N2WN2Z2W2N",
  "10WN2W13Z2N11WN3WN41Z2NZN2Z4WN3WN3ZN2W4N3ZN10Z2W2N26WZN2WN18W3N24WN9WNW2N7W3ZW4ZN2Z3WZWN7ZW6",
  "N10W2N3W12N48ZN2Z7W4N8Z8N13W37N2WNWN5WN24WNWN10ZN2Z9NW2N5WNWZ7WN10W2N4W32N24Z2N27ZNZNZN14WN3",
  "6W4Z14NZ5NZ2N5Z11WZ36WN8ZN6WN13W37N45Z4NZ6NZ2N2Z2N25Z2N4Z3N16Z4N13ZN2Z2N6ZN15ZN40WNW5NW2N48W",
  "96Z160N73WN4W2N7WNWN4W2N41WN4W2N33WN4W2N7WNWN4W2N15WN57WN4W2N67W2Z3N29W3N26W6N86W2N6W2N669W3",
  "N89W7N18Z4W9N19Z3N2W9N18Z2W12N13WN3WZ2W12N52Z2NZ7N8ZN2Z11N9ZW2N10W6N10W6N11Z5N10W6N89W7N5Z2N",
  "34ZNW5N70W10N31WZ3N4Z2N3W4N2ZN6Z3W4NW3N42W2N5W11N44W4N26W6N11W3N57Z2N2ZW2N56ZNZ7WZNZN2Z8N6Z1",
  "0W2ZN10W6N10W6N14W2Z46W2Z12W20Z4N48Z10N4Z3N8W3N27Z9N11WZ2N32Z4N2Z6N56ZNZ2N3ZNZ5W8N48Z8N2Z2W3",
  "N15W3N60W7N43W2N11W8Z3NZ13NZ7N4ZN6ZN3Z2NW5N192Z64N278W2N6W2N38W2N6W2N8WNWNWNWN31W2N53WN15WN1",
  "4W2N6WN19W2N3WN9WN11Z5N26Z5N49Z16N2W2N27WN13W3N33W15Z33W15N140W4N394W2N13W2N190W4N3WN2WN51W2",
  "5N11W21N413W2N21W2N50W12N43WN19WN13WN8W2N17W2N5W2N8WN5WN21WN7W2NWN4WN2WN7WN4W2N28WN35WNWN4W3",
  "NWN61W3N24WN14WN859W2N51WN4WN30W2N32WN344Z3N2W5N45WNW5NW2N56W7N2W14ZN23W9N7WN7WN7WN7WN7WN7WN",
  "7WN7WZ32N94W460Z6W15NW89Z2W201ZW227N8W7024N64W22224N348W20N47Z4NZ10N32Z2N80Z2N6W8N203W5N2WNW",
  "N5W24N16ZN3ZN4ZN25Z2N5ZW3N10W6N56W8N68Z2W8N12W6Z18N13ZN38Z8N25Z11NZW11NW32Z3N48ZN2Z4N2Z2N2ZN",
  "13WN11W4N7ZN25WN41Z6N2Z2N2Z2W9N3ZN8ZNW2N10W2N32ZN51ZNZ3N2Z2N5Z2NZNW24N17Z2N8ZW10N6W2N6W2N6W9",
  "N7WN7WN60W4N117ZN2ZN4ZW2N10W11190Z23W4Z49W4N8448W512N7W12N5W5NZN24WN5WNWN2WN2WN125W16N445W2N",
  "54W7NW32N16Z16W16Z16W64N5WN135W2ZW97N61Z3N30W3N6W2N6W2N6W2N3W11N7WZ9N5W2N12WN26WN19WN2WN15W2",
  "N14W34N123W5N3W4N45W3N88WN13W3NW47N45ZW130N29W3N49W15ZN27W4N36W9N30W5N38Z5W5N30WN37W4N14W42N",
  "158W2N10W6N36W4N36W4N40W8N52W11N12WN15WN7WN2WN11WN15WN7WN2W67N311W9N22W10N8W24N6WN42WN9W69N6",
  "W2NWN44WN2W3NW2N23WN72W8N9W48N19WN2W5N33W3N27W5NW64N56W4N20W2N47Z3WZ2W5Z4N4WN3WN29W2Z3W4ZN9W",
  "7N9W7N64W32N37Z2W4N12W9N54W3N29W2N27W5N26W7N4W12N7W80N73W55N51W13N51W7N42Z4W8N10W47Z5W242N31",
  "WN42WZ2NW2N2W72Z6N40W8N22Z11N9W22N18Z4N4W38N28W20N23W9NZN54Z15N7W4N30ZN2Z2NW9Z3N49Z4N2Z2N7ZW",
  "10NW2N25W7N10W6Z3N36Z5NZ8WN18W8N35ZN3W9Z2N52Z9NZN8Z4N2ZN16WN20W11N18WN28Z3N2Z4N6ZW2ZW62N7WNW",
  "N4WN15WN11W6N47ZN3Z8W5N10W6Z2N2WN8W2N2W2N22WN7WN2WN5WZ2NZNZN4W2N2W2N2ZW2NW6ZW5N7W2Z7W3Z5W67Z",
  "W2Z6WZW2ZWZ3W4Z3WZW14Z2W29N56Z8N2Z3NZN21WNZN3W30N48ZN2Z6NZN2ZNZ2NZ2N4W8N10W166N47ZN2Z4W2N4Z2",
  "NZ2N27Z2W34N51Z8N2ZNZ2N4W11N10W6N13W19N43ZNZN2Z8N2W6N10W54N27W2ZNZN2Z4NZ5W4N23W185N47Z9NZ2NW",
  "100N83W12N8W2NW2N8WN2WN24ZN5WN2W2Z4N4ZN3W9N10W70N8W2N42Z4W2Z2N4ZN4W27NZ10N40Z6N2Z4N8ZW8NZ6N2",
  "Z3N46Z13NZ2N9W13N73W103ZWZ3WZW153N9WN38Z7WZ6NZN6W10N29W3N32W2Z22WNZ7NZ2NZ2W73N7WN2WN38Z6W3ZW",
  "Z2WZ7NZW8N10W6N6WN2WN37WZ2WN2ZNZNW7N10W310N19Z2N4W7Z2W52Z5W5Z3W23ZW85NW15N50W13N923W102N111W",
  "N5W11N196W2636N99W13N1071WN9W7ZW6Z15W4010N583W6871Z12W3Z3W1744N569W7N31WN10W4N81WN10W6N30W2Z",
  "5NW10N48Z7N15W10N10WN7WN21W5N19W688N91W101N75W4ZN56W7Z4N13W68ZW11Z2W19470N107W5N13W3N9W7N10W",
  "2NZ2NZ4W4700Z46W2Z23W9N116W60N246W10N39W2N60Z5N3Z22N2Z7N30Z4N61W21N66Z3NW154N20W12N87W9N25W1",
  "35N85WN71WN2W2NW2N2W2N4WN12WNWN7WN65WN4W2N8WN7WN28WN4WN5WNW3N7WN340W2N292W2N562Z55N4Z50N8ZN1",
  "4ZN7W15Z5WZ15W1104N31W225Z7WZ17W2Z7WZ2WZ5W100ZW112N45W3Z7N7W2N10W4N2W320N30ZW17N44Z4N10W5NW4",
  "92Z4W254Z2W243ZW2ZW7Z2W5ZW234N7WN4WN2WN15WN197W2N9Z7W41N68Z7NW4N10W4N2W785N68W76N61W194N4WN2",
  "7WN2WNW2NWN10WN4WNWNW6NW4NWNWNWN3WN2WNW2NWNWNWNWNWN2WNW2N4WN7WN4WN4WNWN10WN17W5N3WN5WN17W52N",
  "2W270N4WN39W4N100W12N15W2N15WN14W2N37W10N142WN2W10N19W56N26W289N12W9NW70NW22N12W43N4W5N12W17",
  "N3WN3W71NWNW187N2W63N13W4NW24N18WN26W2N13WN86W85N48W70N6WN3W3N2W11N11W5N4W12N116W12N89W39N12",
  "W4N56W8N10W6N40W8N30W2N2W78N12W47NW10NW185N84W12N14W146N147WN55W37N10W787462Z4096W61440N6553",
  "4W2N65534W2"]

/-- The columns of a character. -/
def charWidth (c : Char) : Nat :=
  if 0x20 ≤ c.toNat && c.toNat < 0x7F then 1
  else match widthTable.letter? c with
    | some 'Z' => 0
    | some 'W' => 2
    | _ => 1

/-- The columns of a text. -/
def width (cs : List Char) : Nat := (cs.map charWidth).foldl (· + ·) 0

end HttpChain.Console
