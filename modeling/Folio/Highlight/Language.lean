import Folio.Text

/-!
# Languages

The languages that code may be in, with the file extensions that stand for them
and the scope of a whole text in the language.  Of two languages that go by one
label the later one counts.
-/

namespace Folio
namespace Highlight

structure Language where
  name : Text
  extensions : List Text
  scope : Text
  deriving DecidableEq

namespace Language

def plain : Language where
  name := "Plain Text"
  extensions := ["txt"]
  scope := "text.plain"

def language (name : String) (extensions : List String) (scope : String) : Language where
  name := name
  extensions := extensions.map String.toList
  scope := scope

def all : List Language :=
  [language "Plain Text" ["txt"] "text.plain",
    language "ASP" ["asa"] "source.asp",
    language "HTML (ASP)" ["asp"] "text.html.asp",
    language "ActionScript" ["as"] "source.actionscript.2",
    language "AppleScript" ["applescript", "script editor"] "source.applescript",
    language "Batch File" ["bat", "cmd"] "source.dosbatch",
    language "NAnt Build File" ["build"] "source.nant-build",
    language "C#" ["cs", "csx"] "source.cs",
    language "C++"
      ["cpp", "cc", "cp", "cxx", "c++", "C", "h", "hh", "hpp", "hxx", "h++", "inl", "ipp"]
      "source.c++",
    language "C" ["c", "h"] "source.c",
    language "CSS" ["css", "css.erb", "css.liquid"] "source.css",
    language "Clojure" ["clj"] "source.clojure",
    language "D" ["d", "di"] "source.d",
    language "Diff" ["diff", "patch"] "source.diff",
    language "Erlang" ["erl", "hrl", "Emakefile", "emakefile"] "source.erlang",
    language "HTML (Erlang)" ["yaws"] "text.html.erlang.yaws",
    language "Go" ["go"] "source.go",
    language "Graphviz (DOT)" ["dot", "DOT", "gv"] "source.dot",
    language "Groovy" ["groovy", "gvy", "gradle"] "source.groovy",
    language "HTML" ["html", "htm", "shtml", "xhtml", "inc", "tmpl", "tpl"] "text.html.basic",
    language "Haskell" ["hs"] "source.haskell",
    language "Literate Haskell" ["lhs"] "text.tex.latex.haskell",
    language "Java Server Page (JSP)" ["jsp"] "text.html.jsp",
    language "Java" ["java", "bsh"] "source.java",
    language "JavaDoc" [] "text.html.javadoc",
    language "Java Properties" ["properties"] "source.java-props",
    language "JSON"
      ["json", "sublime-settings", "sublime-menu", "sublime-keymap", "sublime-mousemap",
        "sublime-theme", "sublime-build", "sublime-project", "sublime-completions",
        "sublime-commands", "sublime-macro", "sublime-color-scheme"]
      "source.json",
    language "JavaScript" ["js", "htc"] "source.js",
    language "Regular Expressions (Javascript)" [] "source.regexp.js",
    language "BibTeX" ["bib"] "text.bibtex",
    language "LaTeX Log" [] "text.log.latex",
    language "LaTeX" ["tex", "ltx"] "text.tex.latex",
    language "TeX" ["sty", "cls"] "text.tex",
    language "Lisp"
      ["lisp", "cl", "clisp", "l", "mud", "el", "scm", "ss", "lsp", "fasl"]
      "source.lisp",
    language "Lua" ["lua"] "source.lua",
    language "Make Output" [] "source.build_output",
    language "Makefile"
      ["make", "GNUmakefile", "makefile", "Makefile", "OCamlMakefile", "mak", "mk"]
      "source.makefile",
    language "Markdown" ["md", "mdown", "markdown", "markdn"] "text.html.markdown",
    language "MultiMarkdown" [] "text.html.markdown.multimarkdown",
    language "MATLAB" ["matlab"] "source.matlab",
    language "OCaml" ["ml", "mli"] "source.ocaml",
    language "OCamllex" ["mll"] "source.ocamllex",
    language "OCamlyacc" ["mly"] "source.ocamlyacc",
    language "camlp4" [] "source.camlp4.ocaml",
    language "Objective-C++" ["mm", "M", "h"] "source.objc++",
    language "Objective-C" ["m", "h"] "source.objc",
    language "PHP Source" [] "source.php",
    language "PHP"
      ["php", "php3", "php4", "php5", "php7", "phps", "phpt", "phtml"]
      "embedding.php",
    language "Pascal" ["pas", "p", "dpr"] "source.pascal",
    language "Perl" ["pl", "pm", "pod", "t", "PL"] "source.perl",
    language "Python"
      ["py", "py3", "pyw", "pyi", "pyx", "pyx.in", "pxd", "pxd.in", "pxi", "pxi.in", "rpy",
        "cpy", "SConstruct", "Sconstruct", "sconstruct", "SConscript", "gyp", "gypi",
        "Snakefile", "wscript"]
      "source.python",
    language "Regular Expressions (Python)" [] "source.regexp.python",
    language "R Console" [] "source.r-console",
    language "R" ["R", "r", "s", "S", "Rprofile"] "source.r",
    language "Rd (R Documentation)" ["rd"] "text.tex.latex.rd",
    language "HTML (Rails)" ["rails", "rhtml", "erb", "html.erb"] "text.html.ruby",
    language "JavaScript (Rails)" ["js.erb"] "source.js.rails",
    language "Ruby Haml" ["haml", "sass"] "text.haml",
    language "Ruby on Rails" ["rxml", "builder"] "source.ruby.rails",
    language "SQL (Rails)" ["erbsql", "sql.erb"] "source.sql.ruby",
    language "Regular Expression" ["re"] "source.regexp",
    language "reStructuredText" ["rst", "rest"] "text.restructuredtext",
    language "Ruby"
      ["rb", "Appfile", "Appraisals", "Berksfile", "Brewfile", "capfile", "cgi", "Cheffile",
        "config.ru", "Deliverfile", "Fastfile", "fcgi", "Gemfile", "gemspec", "Guardfile",
        "irbrc", "jbuilder", "podspec", "prawn", "rabl", "rake", "Rakefile", "Rantfile", "rbx",
        "rjs", "ruby.rail", "Scanfile", "simplecov", "Snapfile", "thor", "Thorfile",
        "Vagrantfile"]
      "source.ruby",
    language "Cargo Build Results" [] "source.build_results",
    language "Rust" ["rs"] "source.rust",
    language "SQL" ["sql", "ddl", "dml"] "source.sql",
    language "Scala" ["scala", "sbt"] "source.scala",
    language "Bourne Again Shell (bash)"
      ["sh", "bash", "zsh", "fish", ".bash_aliases", ".bash_completions", ".bash_functions",
        ".bash_login", ".bash_logout", ".bash_profile", ".bash_variables", ".bashrc", ".profile",
        ".textmate_init"]
      "source.shell.bash",
    language "Shell-Unix-Generic" [] "source.shell",
    language "commands-builtin-shell-bash" [] "commands.builtin.shell.bash",
    language "HTML (Tcl)" ["adp"] "text.html.tcl",
    language "Tcl" ["tcl"] "source.tcl",
    language "Textile" ["textile"] "text.html.textile",
    language "XML" ["xml", "xsd", "xslt", "tld", "dtml", "rss", "opml", "svg"] "text.xml",
    language "YAML" ["yaml", "yml", "sublime-syntax"] "source.yaml"]

/-!
# Labels

A label is compared with the extensions first and with the names second, in both
without regard to the case of the letters A to Z.
-/

def hasExtension (label : Text) (language : Language) : Bool :=
  language.extensions.any fun extension => Text.asciiLower extension == Text.asciiLower label

def hasName (label : Text) (language : Language) : Bool :=
  Text.asciiLower language.name == Text.asciiLower label

/-- The language that a label stands for; a label of none stands for plain text. -/
def ofLabel (label : Text) : Language :=
  match all.reverse.find? (hasExtension label) with
  | some language => language
  | none => (all.reverse.find? (hasName label)).getD plain

end Language

end Highlight
end Folio
