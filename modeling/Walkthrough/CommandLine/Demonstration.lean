/-!
# The demonstration program

The program that is traced when no file is named.
-/

namespace Walkthrough.CommandLine

def demonstrationLines : List String := [
  "# Python Code Visualizer Demo",
  "numbers = [1, 2, 3]",
  "print(\"Initial array:\", numbers)",
  "",
  "# Multi-line dictionary",
  "student = \x7b",
  "    \"name\": \"Alice\",",
  "    \"age\": 21,",
  "    \"courses\": [\"Math\", \"Physics\"]",
  "\x7d",
  "print(\"Student:\", student)",
  "",
  "numbers.append(4)",
  "numbers.append(5)",
  "print(\"After adding 4 and 5:\", numbers)",
  "",
  "def greet(name):",
  "    message = \"Hello, \" + name + \"!\"",
  "    return message",
  "",
  "greeting = greet(\"Bob\")",
  "print(\"Greeting:\", greeting)",
  "",
  "squares = [x**2 for x in range(5)]",
  "evens = [x for x in range(10) if x % 2 == 0]",
  "print(\"Squares:\", squares, \"Evens:\", evens)",
  "",
  "total = 0",
  "for num in numbers:",
  "    total += num",
  "    print(\"Current sum:\", total)",
  "",
  "print(\"Final total:\", total)"]

def demonstration : String :=
  String.join (demonstrationLines.map (· ++ "\n"))

end Walkthrough.CommandLine
