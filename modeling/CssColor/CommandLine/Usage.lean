import CssColor.Text.Basic

/-!
# Usage of the command

- `usageText`: the switches at a glance.
- `helpText`: the usage, and each switch with what it does.
- `versionText`: the name of the command and its version.
-/

namespace CssColor

/-- Lines, each with a line feed at its end. -/
def linesText (lines : List String) : Text :=
  lines.flatMap fun line => line.toList ++ ['\n']

/-- The switches at a glance. -/
def usageText : Text :=
  linesText [
    "usage: recolor [-h] [-t FORMAT] [-p N] [--opacity | --no-opacity] [-c PATH]",
    "               [--prompt] [--lines A:B] [-i] [--report \x7btext,json\x7d]",
    "               [--list-errors] [-v | -q] [--version]",
    "               [FILE ...]"]

/-- The usage, and each switch with what it does. -/
def helpText : Text :=
  usageText ++ linesText [
    "",
    "Rewrite CSS color declarations into another color notation.",
    "",
    "positional arguments:",
    "  FILE                  files to convert (default: read stdin; '-' also means",
    "                        stdin)",
    "",
    "options:",
    "  -h, --help            show this help message and exit",
    "  -t FORMAT, --to FORMAT",
    "                        target notation: oklch, oklab, lch, lab, rgb, hsl, hex",
    "  -p N, --precision N   decimal digits for non-integer components (clamped to",
    "                        0-6)",
    "  --opacity, --no-opacity",
    "                        keep '/ 1' on opaque colors whose source spelled out",
    "                        alpha",
    "  -c PATH, --config PATH",
    "                        YAML settings file (default: ./.recolor.yaml if",
    "                        present)",
    "  --prompt              choose the target format interactively",
    "  --lines A:B           convert only lines A to B (1-based, inclusive)",
    "  -i, --in-place        rewrite files instead of printing to stdout",
    "  --version             show program's version number and exit",
    "",
    "reporting:",
    "  --report \x7btext,json\x7d  print a conversion report to stderr",
    "  --list-errors         print every color that failed to convert, one per",
    "                        line, to stderr",
    "  -v, --verbose         debug logging",
    "  -q, --quiet           errors only"]

/-- The name of the command and its version. -/
def versionText : Text :=
  linesText ["recolor 1.0.0"]

end CssColor
