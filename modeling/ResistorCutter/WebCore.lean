import ResistorCutter.BoardCore

/-!
`Webpages.h`, and `LocalHost.h` as far as its web server answers with those pages.
-/

namespace ResistorCutter

structure Webpages where
  rPerKit : Int
  kits : Int
  percent : Int
  running : Int
  deriving DecidableEq, Repr

namespace Webpages

def construct : Webpages := ⟨0, 0, 0, 0⟩

def captiveHTML : String :=
  "
            <!DOCTYPE html> 
            <html>
                <head>
                    <title>ESP32 Captive Portal</title>
                    <meta name=\"viewport\" content=\"width=device-width, initial-scale=1.0\">
                    <meta http-equiv=\"refresh\" content=\"0; url=http://www.neverssl.com/?redirect=true\">
                </head>
                <body>
                    <h1><a href=\"http://www.neverssl.com/?redirect=true\">Click me to view resistor cutter status</a></h1>
                </body>
            </html>
            "

def successHTML : String :=
  "
            <!DOCTYPE html>
            <html>
                <head>
                    <title>Success</title>
                    <meta http-equiv=\"refresh\" content=\"0; url=http://www.neverssl.com/?redirect=true\">
                </head>
                <body>
                    Success
                </body>
            </html>
            "

def mainHTML : String :=
  "
            <!DOCTYPE html> 
            <html>
                <head>
                    <title>ESP32 Captive Portal</title>
                    <meta name=\"viewport\" content=\"width=device-width, initial-scale=1.0\">
                    <meta http-equiv=\"refresh\" content=\"1\" url=\"http://www.neverssl.com/?redirect=true\">
                    <style>
                        body \x7b
                            display: flex;
                            align-items: center;
                            flex-direction: column;
                        \x7d

                        .container \x7b
                            display: flex;
                            justify-content: center;
                            align-items: center;
                            margin: 5px;
                        \x7d

                        div > div \x7b
                            width: 200px;
                            height: 125px;

                            display: flex;
                            flex-direction: column;
                            justify-content: center;
                            align-items: center;
                            text-align: center;
                        \x7d

                        #status > div \x7b
                            border: 2px solid black;
                            border-radius: 8px;
                        \x7d

                        .cutting \x7b
                            background: #98ff98;
                        \x7d

                        .notCutting \x7b
                            background: #ff9898;
                        \x7d

                        .paused \x7b
                            background: #ffcc98;
                        \x7d

                        #data \x7b
                            border: 2px solid black;
                            border-radius: 8px;
                            max-width: 400px;
                        \x7d

                        #data h2 \x7b
                            margin-bottom: -10px;
                            color: darkgrey;
                        \x7d
                    </style>
                </head>
                <body>
                    <h1>Resistor Cutter Status</h1>

                    <div id=\"data\" class=\"container\">
                        <div id=\"rPerKit\" style=\"border-right: 1px solid black;\">
                            <h2>Resistors Per Kit</h2>
                            <h1>\x7b\x7brPerKit\x7d\x7d</h1>
                        </div>
                        <div id=\"kits\">
                            <h2>Kits</h2>
                            <h1>\x7b\x7bkits\x7d\x7d</h1>
                        </div>
                    </div>
                    
                    <div id=\"status\" class=\"container\">
                        <div class=\"\x7b\x7bcuttingClass\x7d\x7d\"><h1>\x7b\x7bcuttingText\x7d\x7d</h1></div>
                    </div>
                </body>
            </html>
            "

def setRPerKit (rPerKit : Int) (pages : Webpages) : Webpages := { pages with rPerKit := rPerKit }

def setKits (kits : Int) (pages : Webpages) : Webpages := { pages with kits := kits }

def setRunning (running : Int) (pages : Webpages) : Webpages := { pages with running := running }

def setPercent (percent : Int) (pages : Webpages) : Webpages := { pages with percent := percent }

def getCaptiveHTML : List Char := captiveHTML.toList

def getSuccessHTML : List Char := successHTML.toList

def cuttingClass (running : Int) : List Char :=
  (if running = 1 then "cutting" else if running = 0 then "notCutting" else "paused").toList

def cuttingText (running : Int) : List Char :=
  (if running = 1 then "Cutting" else if running = 0 then "Not Cutting" else "Paused").toList

end Webpages

/-- A `Webpages` object, and the string that `getMainHTML` keeps from call to call. -/
structure Pages where
  webpages : Webpages
  htmlCopy : List Char

namespace Pages

open Webpages

/-- `find` and then `replace` at the index found. -/
def replace (pattern value : List Char) (pages : Pages) : Pages :=
  { pages with htmlCopy := Template.replaceFirst pattern value pages.htmlCopy }

/-- The body of `getMainHTML`, which returns the string. -/
def fillMainHTML (pages : Pages) : Pages :=
  let object := pages.webpages
  let pages := { pages with htmlCopy := mainHTML.toList }
  let pages := replace "\x7b\x7brPerKit\x7d\x7d".toList (decimal object.rPerKit) pages
  let pages := replace "\x7b\x7bkits\x7d\x7d".toList (decimal object.kits) pages
  let pages :=
    replace "\x7b\x7bcuttingClass\x7d\x7d".toList (cuttingClass object.running) pages
  replace "\x7b\x7bcuttingText\x7d\x7d".toList (cuttingText object.running) pages

theorem fillMainHTML_htmlCopy (pages : Pages) :
    pages.fillMainHTML.htmlCopy =
      Template.replaceFirst "\x7b\x7bcuttingText\x7d\x7d".toList
        (cuttingText pages.webpages.running)
        (Template.replaceFirst "\x7b\x7bcuttingClass\x7d\x7d".toList
          (cuttingClass pages.webpages.running)
          (Template.replaceFirst "\x7b\x7bkits\x7d\x7d".toList (decimal pages.webpages.kits)
            (Template.replaceFirst "\x7b\x7brPerKit\x7d\x7d".toList
              (decimal pages.webpages.rPerKit) mainHTML.toList))) := by
  rw [fillMainHTML]
  -- for any template: the literal is too long to be unfolded
  generalize mainHTML.toList = template
  rfl

end Pages

namespace Webpages

/-- What `getMainHTML` returns the first time. The template is assigned to the string before
anything is filled in, so the later calls return the same. -/
def getMainHTML (pages : Webpages) : List Char := (Pages.fillMainHTML ⟨pages, []⟩).htmlCopy

end Webpages

structure Param where
  name : String
  isPost : Bool
  isFile : Bool
  deriving DecidableEq, Repr

structure Request where
  host : List Char
  params : List Param

/-- `hasParam(name)`: a parameter of the URL, not of a posted form or file. -/
def Request.hasParam (request : Request) (name : String) : Bool :=
  request.params.any fun param => param.name == name && !param.isPost && !param.isFile

/-- `indexOf(pattern) > -1` -/
def contains (pattern : List Char) : List Char → Bool
  | [] => pattern.isEmpty
  | c :: rest => pattern.isPrefixOf (c :: rest) || contains pattern rest

structure Response where
  code : Nat
  contentType : String
  content : List Char
  headers : List (String × String)
  deriving DecidableEq, Repr

def Response.empty (code : Nat) : Response := ⟨code, "", [], []⟩

def Response.page (content : List Char) : Response :=
  ⟨200, "text/html", content, [("Cache-Control", "public,no-store")]⟩

structure LocalHost where
  portalOpened : Bool
  webpages : Webpages
  deriving DecidableEq, Repr

namespace LocalHost

def construct : LocalHost := ⟨false, Webpages.construct⟩

def processRequest (request : Request) (localHost : LocalHost) : Response × LocalHost :=
  if contains "citrix".toList request.host then (Response.empty 404, localHost)
  else if request.hasParam "redirect" then
    (Response.page localHost.webpages.getMainHTML, { localHost with portalOpened := true })
  else if localHost.portalOpened then (Response.page Webpages.getSuccessHTML, localHost)
  else (Response.page Webpages.getCaptiveHTML, localHost)

/-- The listener that `setup` registers for a client that leaves the access point. -/
def disconnected (localHost : LocalHost) : LocalHost := { localHost with portalOpened := false }

def updatePageInfo (rPerKit kits running percent : Int) (localHost : LocalHost) : LocalHost :=
  let webpages := localHost.webpages.setRPerKit rPerKit |>.setKits kits |>.setRunning running
  { localHost with webpages := if percent ≠ -1 then webpages.setPercent percent else webpages }

end LocalHost

end ResistorCutter
