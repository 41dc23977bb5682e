import Wayfinder.Markup
import Wayfinder.Registry

namespace Wayfinder.Site

def plain (tag : String) (children : List Node) : Node := .element tag [] [] children

def words (tag text : String) : Node := plain tag [.text text]

def code (text : String) : Node := words "code" text

def codeBlock (text : String) : Node := plain "pre" [code text]

def link (href text : String) : Node := .element "a" [⟨"href", href⟩] [] [.text text]

def chapter (id : String) (children : List Node) : Node :=
  .element "section" [⟨"id", id⟩] [] children

def card (title text : String) : Node := .element "div" [] ["home-page__card"]
    [words "h3" title, words "p" text]

def homeChapter (id name : String) (children : List Node) : Node :=
  .element "section" [⟨"id", id⟩] ["home-page__" ++ name] children

def homeContent : Node :=
  .element "main" [] ["home-page"]
    [homeChapter "overview" "hero"
        [words "h1" "PyGyat",
          words "p"
            ("Python with rizz. A preprocessor that swaps Python keywords, operators, and " ++
            "builtins for brainrot vocabulary."),
          .element "a" [⟨"href", "/docs"⟩] ["btn", "home-page__cta"] [.text "Read the docs"]],
      homeChapter "features" "features"
        [words "h2" "Features",
          .element "div" [] ["home-page__cards"]
            [card "Brainrot syntax" "Write everyday Python with PyGyat terms instead.",
              card "Two-way translation" "Translate Python files to PyGyat and back.",
              card "Editor support" "Syntax highlighting through the vscode-pygyat extension."]],
      homeChapter "get-started" "get-started" [words "h2" "Get started",
        codeBlock "$ pip3 install pygyat"]]

def docsSections : List Section :=
  [⟨"introduction", "Introduction"⟩,
    ⟨"key-features", "Key Features"⟩,
    ⟨"code-example", "Code Example"⟩,
    ⟨"installation", "Installation"⟩,
    ⟨"keyword-mappings", "Keyword Mappings"⟩,
    ⟨"quick-intro", "Quick Intro"⟩,
    ⟨"repository-structure", "Repository Structure"⟩]

def keywordMappings : List (String × String) :=
  [("print", "yap"), ("True", "Aura"), ("False", "Cooked"), ("def", "bop"),
    ("return", "its giving"), ("while", "let him cook"), ("for", "mewing"), ("import", "glaze"),
      ("from", "lock in"), ("class", "skibidi"),
    ("+", "rizz"), ("-", "fanum tax")]

def mappingRow (m : String × String) : Node :=
  plain "tr" [plain "td" [code m.1], plain "td" [code m.2]]

def introduction : Node :=
  chapter "introduction"
    [words "h1" "PyGyat",
      words "p"
        ("Python with rizz. PyGyat is a Python preprocessor which translates regular Python " ++
        "code into brainrot by replacing certain keywords, operators, and built in functions."),
      plain "p"
        [.text "Implementation based on ", link "https://github.com/mathialo/bython" "Bython",
          .text "."]]

def keyFeatures : Node :=
  chapter "key-features"
    [words "h2" "Key features",
      plain "ul"
        [words "li" "Write Python using brainrot terms instead.",
          plain "li" [.text "Run PyGyat files using the ", code "pygyat",
            .text " command, just like Python."],
          words "li" "Translate Python files to PyGyat and vice versa.",
          words "li" "Real Python keywords that have defined PyGyat mappings are not allowed."]]

def codeExample : Node :=
  chapter "code-example"
    [words "h2" "Code example",
      .void "img"
        [⟨"src", "/code-example.png"⟩, ⟨"alt", "PyGyat Code Example"⟩, ⟨"width", "800"⟩,
          ⟨"height", "400"⟩] []]

def installation : Node :=
  chapter "installation"
    [words "h2" "Installation", words "p" "Install from PyPI:", codeBlock "$ pip3 install pygyat",
      words "p" "Or from the git repository:",
      codeBlock
        "$ git clone https://github.com/shamith09/pygyat.git\n$ cd pygyat\n$ pip3 install ."]

def keywordTable : Node :=
  chapter "keyword-mappings"
    [words "h2" "Keyword mappings",
      plain "table"
        [plain "thead" [plain "tr" [words "th" "Python", words "th" "PyGyat"]],
          plain "tbody" (keywordMappings.map mappingRow)]]

def quickIntro : Node :=
  chapter "quick-intro"
    [words "h2" "Quick intro",
      words "p"
        ("PyGyat translates PyGyat files (suggested ending: .gyat) into Python files and runs " ++
        "them with Python, so a working Python installation is required."),
      codeBlock "$ pygyat source.gyat arg1 arg2 ...",
      plain "p" [.text "The ", code "py2gyat", .text " command translates Python to PyGyat:"],
      codeBlock "$ py2gyat test.py"]

def repositoryStructure : Node :=
  let entry (name text : String) : Node := plain "li" [code name, .text text]
  chapter "repository-structure"
    [words "h2" "Repository structure",
      plain "ul"
        [entry "pygyat" " contains the parser and utilities used by the main script.",
          entry "etc" " contains manual pages and other auxiliary files.",
          entry "scripts" " contains the runnable scripts.",
          entry "testcases" " contains sample .gyat and .py files for testing.",
          plain "li"
            [link "https://github.com/shamith09/vscode-pygyat" "vscode-pygyat",
              .text " contains the VS Code syntax highlighting extension."]]]

def docsContent : List Node :=
  [introduction, keyFeatures, codeExample, installation, keywordTable, quickIntro,
    repositoryStructure]

end Wayfinder.Site
