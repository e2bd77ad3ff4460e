import VirtualShell.Command.Basic
import VirtualShell.Text.Numeral
import VirtualShell.Time.Pattern
import VirtualShell.Url.Basic

/-!
# Network clients

Nothing leaves the shell.  `curl` and `wget` answer every address of the web with a page that names
it; `ssh` and `scp` find that every host refuses; `rsync` sums up a transfer that does not take
place.
-/

namespace VirtualShell.Command

open Text

/-! ## Pages -/

/-- The address of the web that an argument names, or the complaint about it.  Without a scheme it
is the plain one of the web. -/
def webAddress (naming : Url.Naming) (raw : String) : Except String Url :=
  match Url.parse? naming (if contains raw "://" then raw else "http://" ++ raw) with
  | none => .error "(3) URL using bad/illegal format or missing URL"
  | some url =>
    if url.scheme = "http" || url.scheme = "https" then .ok url
    else
      .error ("(1) Protocol \"" ++ url.scheme ++ "\" not supported or disabled in libcurl")

/-- The host of an address of the web. -/
def webHost (url : Url) : String := url.host?.getD "localhost"

/-- The page that answers an address; it does not show who asked. -/
def page (url : Url) : String :=
  let host := webHost url
  "\n".intercalate
    ["<!DOCTYPE html>", "<html>", "<head>", "  <title>" ++ host ++ "</title>", "</head>", "<body>",
     "  <h1>" ++ host ++ "</h1>",
     "  <p>Simulated response for " ++ Log.stripCredentials url.text ++ "</p>", "</body>",
     "</html>"]

/-- A clock reading by a pattern that is known to be one. -/
def timeBy (pattern : String) (now : Time.Instant) : String :=
  ((Time.Pattern.parse? pattern).bind fun read => read.format? now).getD ""

/-! ## Curl -/

/-- What the arguments of a download client ask for. -/
structure Download where
  url : Option String := none
  file : Option String := none
  /-- Whether only the headers are shown. -/
  headOnly : Bool := false
  quiet : Bool := false
  deriving DecidableEq, Repr

/-- Reads the arguments of `curl`; the last address and the last file count. -/
def readCurl (download : Download) : List String → Download
  | [] => download
  | [arg] =>
    if arg = "-I" || arg = "--head" then { download with headOnly := true }
    else if arg = "-o" || arg = "--output" then { download with file := none }
    else if startsWith "-" arg then download
    else { download with url := some arg }
  | arg :: value :: rest =>
    if arg = "-o" || arg = "--output" then readCurl { download with file := some value } rest
    else if arg = "-I" || arg = "--head" then
      readCurl { download with headOnly := true } (value :: rest)
    else if startsWith "-" arg then readCurl download (value :: rest)
    else readCurl { download with url := some arg } (value :: rest)

/-- The headers of an answer. -/
def responseHeaders (now : Time.Instant) (body : String) : String :=
  "\n".intercalate
    ["HTTP/1.1 200 OK", "Content-Type: text/html; charset=UTF-8", "Server: simsh",
     "Date: " ++ timeBy "%a, %d %b %Y %H:%M:%S GMT" now,
     "Content-Length: " ++ toString body.utf8ByteSize]

/-- The progress of a download into a file. -/
def downloadProgress (body : String) : String :=
  let size := padLeft 5 (toString body.utf8ByteSize)
  "  % Total    % Received % Xferd  Average Speed   Time\n100  " ++ size ++ "  100  " ++ size
    ++ "    0     0   " ++ size ++ "      0  0:00:01"

/-- What `curl` does with an answer. -/
def curlPlan (call : Invocation) (download : Download) (url : Url) : Plan :=
  let body := page url
  let headers := responseHeaders call.now body
  if download.headOnly then .ok headers
  else
    match download.file with
    | some file => .perform ⟨downloadProgress body, [.file (call.resolve file) body]⟩
    | none => .ok (headers ++ "\n\n" ++ body)

/-- `curl` shows what an address answers, or writes it into a file. -/
def curl : Command := .tool fun call _ =>
  let download := readCurl {} call.args
  match download.url with
  | none => (.failed "curl: try 'curl --help' for more information", [])
  | some raw =>
    match webAddress call.naming raw with
    | .error complaint => (.failed ("curl: " ++ complaint), [])
    | .ok url => (curlPlan call download url, [.fetched (call.policy.redact raw)])

/-! ## Wget -/

/-- Reads the arguments of `wget`; the last address and the last file count. -/
def readWget (download : Download) : List String → Download
  | [] => download
  | [arg] =>
    if arg = "-q" || arg = "--quiet" then { download with quiet := true }
    else if arg = "-O" then { download with file := none }
    else if startsWith "-" arg then download
    else { download with url := some arg }
  | arg :: value :: rest =>
    if arg = "-O" then readWget { download with file := some value } rest
    else if arg = "-q" || arg = "--quiet" then
      readWget { download with quiet := true } (value :: rest)
    else if startsWith "-" arg then readWget download (value :: rest)
    else readWget { download with url := some arg } (value :: rest)

/-- The file that an address is downloaded into: the last segment of its path. -/
def downloadName (url : Url) : String :=
  if url.lastSegment = "" then "index.html" else url.lastSegment

/-- What `wget` tells about a download into a file. -/
def downloadReport (now : Time.Instant) (raw : String) (url : Url) (file body : String) : String :=
  let time := timeBy "%Y-%m-%d %H:%M:%S" now
  let host := webHost url
  let size := toString body.utf8ByteSize
  "\n".intercalate
    ["--" ++ time ++ "--  " ++ Log.stripCredentials raw,
     "Resolving " ++ host ++ " (" ++ host ++ ")... 93.184.216.34",
     "Connecting to " ++ host ++ " (" ++ host ++ ")|93.184.216.34|:"
       ++ toString (url.port?.getD 80) ++ "... connected.",
     "HTTP request sent, awaiting response... 200 OK",
     "Length: " ++ size ++ " [text/html]",
     "Saving to: " ++ quoted file,
     "",
     padRight 20 file ++ "100%[===================>]  " ++ padLeft 6 size ++ "  --.-KB/s    in 0s",
     "",
     time ++ " - " ++ quoted file ++ " saved [" ++ size ++ "/" ++ size ++ "]"]

/-- What `wget` does with an answer. -/
def wgetPlan (call : Invocation) (download : Download) (raw : String) (url : Url) : Plan :=
  let target := call.resolve (download.file.getD (downloadName url))
  let body := page url
  .perform
    { output :=
        if download.quiet then ""
        else downloadReport call.now raw url (Path.display call.cwd target) body
      effects := [.file target body] }

/-- `wget` writes what an address answers into a file. -/
def wget : Command := .tool fun call _ =>
  let download := readWget {} call.args
  match download.url with
  | none => (.say (.failure (.missingOperand "URL")), [])
  | some raw =>
    match webAddress call.naming raw with
    | .error complaint => (.failed ("wget: " ++ complaint), [])
    | .ok url => (wgetPlan call download raw url, [.downloaded (call.policy.redact raw)])

/-! ## Ssh and scp -/

/-- What the arguments of a remote client ask for. -/
structure Connection where
  port : Nat := 22
  operands : List String := []
  deriving DecidableEq, Repr

/-- Reads the arguments of a remote client, whose port stands behind an option; nothing if the port
is none. -/
def readConnection (portOption : String) (connection : Connection) :
    List String → Option Connection
  | [] => some connection
  | [arg] =>
    if arg = portOption then none
    else if startsWith "-" arg then some connection
    else some { connection with operands := connection.operands ++ [arg] }
  | arg :: value :: rest =>
    if arg = portOption then
      match number? 65535 value with
      | some port => readConnection portOption { connection with port := port } rest
      | none => none
    else if startsWith "-" arg then readConnection portOption connection (value :: rest)
    else
      readConnection portOption { connection with operands := connection.operands ++ [arg] }
        (value :: rest)

/-- The host of `[user@]host[:path]`. -/
def remoteHost (target : String) : String :=
  let host :=
    match cutAtLast? '@' target.toList with
    | some sides => sides.2
    | none => target.toList
  String.ofList (host.takeWhile (· ≠ ':'))

/-- `ssh` finds that every host refuses. -/
def ssh : Command := .tool fun call _ =>
  match readConnection "-p" {} call.args with
  | none => (.failed "ssh: Bad port", [])
  | some ⟨_, []⟩ => (.failed "usage: ssh [-p port] [user@]hostname [command]", [])
  | some ⟨port, destination :: _⟩ =>
    (.say (.failure (.connectionRefused (remoteHost destination) port)),
      [.connectionRefused (call.policy.redact destination)])

/-- `scp` finds that every host refuses. -/
def scp : Command := .inspect fun call _ =>
  match readConnection "-P" {} call.args with
  | none => .failed "scp: Bad port"
  | some ⟨port, operands⟩ =>
    if operands.length < 2 then .failed "usage: scp [-r] [-P port] source ... target"
    else
      match operands.find? fun operand => contains operand ":" with
      | some remote => .failure (.connectionRefused (remoteHost remote) port)
      | none => .failed "scp: no remote host given; use cp for local copies"

/-! ## Rsync -/

/-- The names and sizes of what a local source would send: the node itself, then all below it by
their paths under the source's directory. -/
def sentFiles (store : Store) (path : String) (node : Node) : List (String × Nat) :=
  let base := (Path.parent? path).getD "/"
  let inside := if node.isDirectory then store.descendants path else []
  (Path.fileName node.path, node.size)
    :: inside.map fun child => (Path.display base child.path, child.size)

/-- The summary of a transfer. -/
def transferSummary (files : List (String × Nat)) : String :=
  let total := files.foldr (fun file total => file.2 + total) 0
  let sent := total + 64 * files.length + 48
  let exchanged := Float.ofNat (sent + 35)
  "sending incremental file list\n" ++ "\n".intercalate (files.map Prod.fst) ++ "\n\nsent "
    ++ toString sent ++ " bytes  received 35 bytes  " ++ Decimal.fixed 2 (exchanged / 2.0)
    ++ " bytes/sec\ntotal size is " ++ toString total ++ "  speedup is "
    ++ Decimal.fixed 2 (Float.ofNat total / exchanged)

/-- `rsync` sums up the transfer of a source; one with a colon is remote and sends nothing. -/
def rsync : Command := .inspect fun call store =>
  match call.args.filter fun arg => !startsWith "-" arg with
  | [source, _] =>
    if contains source ":" then .ok (transferSummary [])
    else
      let path := call.resolve source
      match store.get? path with
      | some node => .ok (transferSummary (sentFiles store path node))
      | none =>
        .failed ("rsync: link_stat \"" ++ path ++ "\" failed: No such file or directory (2)")
  | _ => .failed "rsync: usage: rsync [OPTION]... SRC DEST"

end VirtualShell.Command
