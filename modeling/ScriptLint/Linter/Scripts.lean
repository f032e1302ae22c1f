import ScriptLint.Text.Basic

/-!
# Scripts that are known

The texts of a small linter script whose rules are keyed on markers in the source, of a script
that does not parse, and of one that defines no entry point.
-/

namespace ScriptLint.Linter

/-- Lines, each with its end. -/
def scriptOf (lines : List String) : Text := lines.flatMap fun line => Text.ofString line ++ "\n"

/-- The linter script that looks for markers. -/
def markerScript : Text := scriptOf
  ["// Small linter honouring the JSHINT(source, options) contract used by the",
   "// test suite. Every rule is keyed on a marker in the linted source.",
   "var JSHINT = function (source, options) \x7b",
   "    var found = [];",
   "    var lines = source.split(\"\\n\");",
   "    for (var i = 0; i < lines.length; i++) \x7b",
   "        var text = lines[i];",
   "        var column = text.indexOf(\"debugger\");",
   "        if (column !== -1) \x7b",
   "            found.push(\x7b",
   "                reason: \"Forgotten 'debugger' statement?\",",
   "                evidence: text,",
   "                line: i + 1,",
   "                character: column + 1",
   "            \x7d);",
   "        \x7d",
   "        column = text.indexOf(\"==\");",
   "        if (options.eqeqeq && column !== -1 && text.indexOf(\"===\") === -1) \x7b",
   "            found.push(\x7b",
   "                reason: \"Expected '===' and instead saw '=='.\",",
   "                evidence: text,",
   "                line: i + 1,",
   "                character: column + 1",
   "            \x7d);",
   "        \x7d",
   "        if (options.rhino && text.indexOf(\"@platform\") !== -1) \x7b",
   "            found.push(\x7breason: \"Platform flag is set\", " ++
     "evidence: text, line: i + 1, character: 1\x7d);",
   "        \x7d",
   "        if (text.indexOf(\"@malformed\") !== -1) \x7b",
   "            found.push(\x7breason: \"Record without a position\", evidence: text\x7d);",
   "            found.push(null);",
   "            found.push(\x7breason: \"Record with a textual line\", " ++
     "evidence: text, line: \"one\", character: 1\x7d);",
   "            found.push(\x7breason: \"Record with a boolean column\", " ++
     "evidence: text, line: i + 1, character: true\x7d);",
   "        \x7d",
   "        if (text.indexOf(\"@null\") !== -1) \x7b",
   "            found.push(null);",
   "        \x7d",
   "        if (text.indexOf(\"@crash\") !== -1) \x7b",
   "            throw new Error(\"linter crashed\");",
   "        \x7d",
   "    \x7d",
   "    JSHINT.errors = found;",
   "    return found.length === 0;",
   "\x7d;",
   "JSHINT.errors = [];"]

/-- A script that does not parse. -/
def brokenScript : Text := scriptOf
  ["var JSHINT = function (source, options \x7b"]

/-- A script without an entry point. -/
def otherScript : Text := scriptOf
  ["var LINTER = function () \x7b return true; \x7d;"]

end ScriptLint.Linter
