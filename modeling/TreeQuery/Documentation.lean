namespace TreeQuery.Documentation

def page (lines : List String) : String := String.join (lines.map (· ++ "\n"))

def overview : String := page
  ["NODEX DOCUMENTATION",
   "",
   "Nodex is a path expression language for selecting and combining nodes of an",
   "ordered, named tree. Expressions start with @ (the context node), chain steps",
   "separated by /, and end with a type suffix such as ?value.",
   "",
   "DOCUMENTATION CATEGORIES",
   "",
   "  syntax            Expression structure, whitespace, escaping and literals",
   "  navigation        Steps that move through the tree",
   "  filters           Steps that keep nodes by name or value",
   "  positional        Ranges and modulo over the previous step's output",
   "  logicals          Or, and, xor, not, and groups",
   "  types             Type suffixes and conversions",
   "  references        Referenced expressions and formatted nodes",
   "",
   "QUICK REFERENCE",
   "",
   "  @                 Context node",
   "  /*                Children",
   "  /**               Descendants",
   "  /.  /..           Parent, root",
   "  /name             Keep nodes named 'name'",
   "  /=value           Keep nodes whose value is 'value'",
   "  /|/  /&/  /^/  /!/    Combine with the following steps",
   "  ?name ?value ?count ?path ?node",
   "",
   "Run 'nodex doc <category>' for detailed documentation."]

def syntaxPage : String := page
  ["SYNTAX - Expression Structure",
   "",
   "SHAPE",
   "  @/step/step/...?type",
   "",
   "    Every expression starts with @, the node it is evaluated against. Steps are",
   "    separated by /. Each step consumes what the step before it produced.",
   "",
   "    Example:",
   "      Input:  \x7b\"user\": \x7b\"name\": \"Ada\"\x7d\x7d",
   "      Query:  @/*/user/*/name?value",
   "      Output: [\"Ada\"]",
   "",
   "    JSON input is mapped onto a tree: object keys become named children, array",
   "    items become children with empty names, scalars become values.",
   "",
   "WHITESPACE",
   "  Whitespace between tokens is ignored, so long expressions can span lines:",
   "",
   "    @/..",
   "      /*",
   "        /user",
   "    ?name",
   "",
   "  Whitespace also ends a bare step. Quote a step that contains spaces.",
   "",
   "EMPTY STEPS",
   "  @/-/?node",
   "    A / with nothing after it is a no-op.",
   "",
   "ESCAPING",
   "  \\*  \\..  \\.  \\\\  \\/",
   "    A leading backslash makes the step a literal name, so \\* keeps nodes named",
   "    '*' instead of taking children. Inside a step, a backslash makes the next",
   "    character literal.",
   "",
   "QUOTED LITERALS",
   "  \"text\"",
   "    Quoted steps may contain /, ( ) and ?. Escapes: \\n \\r \\t \\\" \\\\",
   "    Other backslash sequences are kept as written, so regexes survive.",
   "",
   "  @\"text\"",
   "    Verbatim: everything up to the closing quote, including newlines. Write \"\"",
   "    for a quote.",
   "",
   "    Example:",
   "      Query:  @/*/@\"=line one",
   "      line two\"?name",
   "",
   "ERRORS",
   "  Syntax errors name the offending fragment and its line and column."]

def navigationPage : String := page
  ["NAVIGATION - Moving Through the Tree",
   "",
   "CHILDREN",
   "  /*",
   "    All children of every input node.",
   "",
   "DESCENDANTS",
   "  /**",
   "    All descendants, depth first, excluding the node itself.",
   "",
   "PARENT AND ROOT",
   "  /.",
   "    Parent of every input node. The root has none.",
   "",
   "  /..",
   "    Root of the tree.",
   "",
   "  /..name",
   "    Nearest node named 'name', starting at the input node and walking up.",
   "",
   "NUMBERED CHILD",
   "  /2",
   "    The child at index 2 (zero based) of every input node.",
   "",
   "SIBLINGS",
   "  /+   /-",
   "    Next and previous sibling.",
   "",
   "  /+2  /-2",
   "    Sibling at an offset. Nothing past either end.",
   "",
   "DOCUMENT ORDER",
   "  /<",
   "    Previous node in document order: the previous sibling's last descendant, or",
   "    the parent.",
   "",
   "  />",
   "    Next node in document order: the first child, else the next sibling, else",
   "    the nearest ancestor's next sibling.",
   "",
   "REFERENCES",
   "  /#",
   "    For nodes whose value is a node, that node."]

def filtersPage : String := page
  ["FILTERS - Keeping Nodes",
   "",
   "BY NAME",
   "  /name",
   "    Keeps input nodes named exactly 'name'. It does not descend; combine with /*",
   "    to look at children.",
   "",
   "    Example:",
   "      Input:  \x7b\"success\": 1, \"error\": 2\x7d",
   "      Query:  @/*/success?name",
   "      Output: [\"success\"]",
   "",
   "BY VALUE",
   "  /=text",
   "    Keeps input nodes whose value is the string 'text'.",
   "",
   "  /=:int:5",
   "    Converts '5' to the named type first. Comparison is typed, so /=5 never",
   "    matches the integer 5.",
   "",
   "BY REGEX",
   "  /\"/regex/flags\"",
   "    Keeps nodes whose name matches. Flags: i m s x",
   "",
   "  /\"=/regex/flags\"",
   "    Keeps nodes whose value, as text, matches. Nodes without a value never match.",
   "",
   "    Example:",
   "      Query:  @/*/\"/^err/i\"?name"]

def positionalPage : String := page
  ["POSITIONAL - Slicing the Previous Step",
   "",
   "RANGE",
   "  /[start,end]",
   "    Positions start up to, but not including, end. Either bound may be left out.",
   "",
   "    Example:",
   "      Query:  @/*/[1,3]?name     Second and third child",
   "      Query:  @/*/[2,]?name      From the third child on",
   "      Query:  @/*/[,2]?name      First two children",
   "",
   "MODULO",
   "  /%2",
   "    Every second node, starting with the first."]

def logicalsPage : String := page
  ["LOGICALS - Combining Results",
   "",
   "OPERATORS",
   "  |   Or     results so far, then new nodes from the right",
   "  &   And    results so far that also appear on the right",
   "  ^   Xor    nodes on exactly one side",
   "  !   Not    results so far that do not appear on the right",
   "",
   "  Nodes are compared by identity and keep their order.",
   "",
   "RIGHT-HAND SIDE",
   "  An operator takes every following step up to the next operator or the end of",
   "  the group. Those steps start again from the group's root; at the top level",
   "  that is the context node.",
   "",
   "    Query:  @/*/success/|/*/error?name",
   "    Output: [\"success\", \"error\"]",
   "",
   "    Query:  @/*/!/error?name",
   "    Output: every child, since the context node itself is not named 'error'",
   "",
   "  Operators apply left to right.",
   "",
   "GROUPS",
   "  /( ... )",
   "    Steps inside a group start from whatever the enclosing chain produced at the",
   "    point the group opens. Groups give explicit precedence.",
   "",
   "    Query:  @/*/(/succ/|/ess/)?name",
   "    Query:  @/*/((/a/|/b/)^(/b/|/c/))?name"]

def typesPage : String := page
  ["TYPES - Type Suffixes",
   "",
   "PROJECTIONS",
   "  ?name     Name of each node",
   "  ?value    Value of each node",
   "  ?count    Number of nodes",
   "  ?path     Position of each node, as /0/2/1",
   "  ?node     The nodes themselves",
   "",
   "CONVERSIONS",
   "  ?value.int",
   "    Converts each value when it is read.",
   "",
   "  Types: string, int, long, float, double, decimal, bool, blob, node, path",
   "",
   "  A value that cannot be converted fails when it is read, not when the",
   "  expression is evaluated."]

def referencesPage : String := page
  ["REFERENCES - Expressions Inside Values",
   "",
   "REFERENCED EXPRESSIONS",
   "  @@/0?value",
   "    Evaluates the inner expression, then evaluates every resulting value that is",
   "    itself an expression, with that result's node as context.",
   "",
   "    Nesting is limited; too deep a chain of references is an error.",
   "",
   "FORMATTED NODES",
   "  A node with a text value and children with empty names is a template. Its",
   "  \x7b0\x7d, \x7b1\x7d, ... placeholders are filled from those children, in order. Write \x7b\x7b",
   "  and \x7d\x7d for literal braces.",
   "",
   "    root: \"@/*/\x7b0\x7d?value\"",
   "      \"\": \"success\"",
   "",
   "  formats to @/*/success?value. Children that are expressions are evaluated,",
   "  and children that are templates are formatted, first."]

/-- The page of a category, which has several names; case and the kind of hyphen do not matter. -/
def category? (name : String) : Option String :=
  let key := String.ofList (name.toList.map fun c => if c = '_' then '-' else c.toLower)
  match key with
  | "syntax" => some syntaxPage
  | "navigation" | "nav" | "steps" => some navigationPage
  | "filters" | "filter" => some filtersPage
  | "positional" | "ranges" | "range" => some positionalPage
  | "logicals" | "logical" | "operators" | "ops" => some logicalsPage
  | "types" | "type" | "suffix" => some typesPage
  | "references" | "reference" | "formatting" => some referencesPage
  | _ => none

end TreeQuery.Documentation
