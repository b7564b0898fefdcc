import PeerDirectory.Demo

open PeerDirectory

def readSettingsFile (path : String) : IO Settings.File := do
  try
    let content ← IO.FS.readBinFile path
    pure (.bytes content.toList)
  catch _ => pure .absent

def main (arguments : List String) : IO UInt32 := do
  let path :=
    match Demo.readCommandLine arguments with
    | .run options => options.config
    | _ => none
  let file ←
    match path with
    | none => pure Settings.File.absent
    | some path => readSettingsFile path
  let result := Demo.run arguments fun _ => file
  match result with
  | .printed text => IO.print text
  | .failed message => IO.eprintln ("Error: " ++ message)
  | .misused => IO.eprintln (Demo.usage ++ "\n\nFor more information, try '--help'.")
  | .explained => IO.println Demo.help
  return UInt32.ofNat result.exitCode
