import RoomModeration.Markdown.Block.Reader
import RoomModeration.Markdown.Inline.Reader
import RoomModeration.Text.PercentEncoding

/-!
# The HTML form of Markdown

Blocks start on a line of their own. In a list whose items are not set apart a paragraph is written
without a tag.

## Main definitions

* `escapeHtml`, `escapeTarget` : text and addresses as they stand in HTML.
* `toHtml` : the HTML form of a Markdown text.
-/

namespace RoomModeration.Markdown

/-! ### Characters -/

/-- Text as it stands in HTML. -/
def escapeHtml (s : List Char) : List Char :=
  s.flatMap fun c =>
    match c with
    | '<' => "&lt;".toList
    | '>' => "&gt;".toList
    | '&' => "&amp;".toList
    | '"' => "&quot;".toList
    | c => [c]

/-- Whether a character stands for itself in an address. -/
def isTargetChar (c : Char) : Bool :=
  c.isAlphanum || "!#$%()*+,-./:;=?@_~".toList.contains c

/-- An address as it stands in HTML. -/
def escapeTarget (s : List Char) : List Char :=
  s.flatMap fun c =>
    if c == '&' then "&amp;".toList
    else if c == '\'' then "&#x27;".toList
    else Text.percentEncode isTargetChar [c]

/-- A title behind an address. -/
def titleAttribute (title : String) : List Char :=
  if title = "" then [] else " title=\"".toList ++ escapeHtml title.toList ++ ['"']

/-! ### Running text -/

mutual

/-- The text that stands for a part where it cannot be shown. -/
def plainInline : Inline → List Char
  | .text s | .code s | .tag s => escapeHtml s.toList
  | .softBreak | .hardBreak => [' ']
  | .emphasis content | .strong content | .strikethrough content | .link _ _ content
  | .image _ _ content => plainInlines content

/-- The text that stands for running text where it cannot be shown. -/
def plainInlines : List Inline → List Char
  | [] => []
  | part :: rest => plainInline part ++ plainInlines rest

end

/-- Something between the two ends of a tag. -/
def tagged (name : String) (content : List Char) : List Char :=
  ("<" ++ name ++ ">").toList ++ content ++ ("</" ++ name ++ ">").toList

mutual

/-- The HTML form of a part of running text. -/
def inlineHtml : Inline → List Char
  | .text s => escapeHtml s.toList
  | .softBreak => ['\n']
  | .hardBreak => "<br />\n".toList
  | .code s => tagged "code" (escapeHtml s.toList)
  | .tag s => s.toList
  | .emphasis content => tagged "em" (inlinesHtml content)
  | .strong content => tagged "strong" (inlinesHtml content)
  | .strikethrough content => tagged "del" (inlinesHtml content)
  | .link target title content =>
    "<a href=\"".toList ++ escapeTarget target.toList ++ ['"'] ++ titleAttribute title ++ ['>'] ++
      inlinesHtml content ++ "</a>".toList
  | .image target title content =>
    "<img src=\"".toList ++ escapeTarget target.toList ++ "\" alt=\"".toList ++
      plainInlines content ++ ['"'] ++ titleAttribute title ++ " />".toList

/-- The HTML form of running text. -/
def inlinesHtml : List Inline → List Char
  | [] => []
  | part :: rest => inlineHtml part ++ inlinesHtml rest

end

/-! ### Blocks -/

/-- What has been written, with a line feed if the last line is not ended. -/
def freshLine (out : List Char) : List Char :=
  match out.getLast? with
  | none | some '\n' => out
  | some _ => out ++ ['\n']

/-- The attribute that sets a cell. -/
def Alignment.attribute : Alignment → String
  | unset => ""
  | left => " style=\"text-align: left\""
  | center => " style=\"text-align: center\""
  | right => " style=\"text-align: right\""

/-- Whatever is said first about the language of code. -/
def codeLanguage (info : List Char) : List Char :=
  info.takeWhile (· != ' ')

section

variable (definitions : Definitions)

/-- The HTML form of running text as it is written. -/
def textHtml (s : List Char) : List Char :=
  inlinesHtml (readInline definitions s)

/-- The cells of a row. -/
def cellsHtml (tag : String) (columns : List Alignment) (cells : List (List Char)) : List Char :=
  (columns.zip cells).flatMap fun (column, cell) =>
    ("<" ++ tag ++ column.attribute ++ ">").toList ++ textHtml definitions cell ++
      ("</" ++ tag ++ ">").toList

/-- A table. -/
def tableHtml (columns : List Alignment) (header : List (List Char))
    (rows : List (List (List Char))) : List Char :=
  "<table><thead><tr>".toList ++ cellsHtml definitions "th" columns header ++
    "</tr></thead><tbody>\n".toList ++
    rows.flatMap (fun row =>
      "<tr>".toList ++ cellsHtml definitions "td" columns row ++ "</tr>\n".toList) ++
    "</tbody></table>\n".toList

/-- Code. -/
def codeHtml (info : List Char) (lines : List (List Char)) : List Char :=
  let language := codeLanguage info
  let opening :=
    if language.isEmpty then "<pre><code>".toList
    else "<pre><code class=\"language-".toList ++ escapeHtml language ++ "\">".toList
  opening ++ lines.flatMap (fun line => escapeHtml line ++ ['\n']) ++ "</code></pre>\n".toList

mutual

/-- What has been written, followed by a block. In a list that is not loose a paragraph has no
tag. -/
def writeBlock (tight : Bool) (out : List Char) : Block → List Char
  | .paragraph text =>
    if tight then out ++ textHtml definitions text
    else freshLine out ++ tagged "p" (textHtml definitions text) ++ ['\n']
  | .heading level text =>
    freshLine out ++ tagged s!"h{level}" (textHtml definitions text) ++ ['\n']
  | .quote content =>
    writeBlocks false (freshLine out ++ "<blockquote>\n".toList) content ++ "</blockquote>\n".toList
  | .list start loose items =>
    let (opening, closing) := match start with
      | none => ("<ul>\n", "</ul>\n")
      | some 1 => ("<ol>\n", "</ol>\n")
      | some n => (s!"<ol start=\"{n}\">\n", "</ol>\n")
    writeItems (!loose) (freshLine out ++ opening.toList) items ++ closing.toList
  | .code info lines => freshLine out ++ codeHtml info lines
  | .rule => freshLine out ++ "<hr />\n".toList
  | .table columns header rows => out ++ tableHtml definitions columns header rows
  | .markup lines => out ++ lines.flatMap fun line => line ++ ['\n']

/-- What has been written, followed by blocks. -/
def writeBlocks (tight : Bool) (out : List Char) : List Block → List Char
  | [] => out
  | block :: rest => writeBlocks tight (writeBlock tight out block) rest

/-- What has been written, followed by the items of a list. -/
def writeItems (tight : Bool) (out : List Char) : List (List Block) → List Char
  | [] => out
  | item :: rest =>
    writeItems tight
      (writeBlocks tight (freshLine out ++ "<li>".toList) item ++ "</li>\n".toList) rest

end

end

/-- The HTML form of a Markdown text, without blanks at its end. -/
def toHtml (s : String) : String :=
  let document := Document.read s.toList
  String.ofList (Text.trimEnd (writeBlocks document.definitions false [] document.blocks))

end RoomModeration.Markdown
