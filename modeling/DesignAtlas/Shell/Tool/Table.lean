import DesignAtlas.Shell.Tool.Arrange
import DesignAtlas.Shell.Tool.Characters
import DesignAtlas.Shell.Tool.Checksums
import DesignAtlas.Shell.Tool.Compare
import DesignAtlas.Shell.Tool.Difference
import DesignAtlas.Shell.Tool.Edit
import DesignAtlas.Shell.Tool.Facts
import DesignAtlas.Shell.Tool.Files
import DesignAtlas.Shell.Tool.Find
import DesignAtlas.Shell.Tool.Install
import DesignAtlas.Shell.Tool.Lines
import DesignAtlas.Shell.Tool.Listing
import DesignAtlas.Shell.Tool.Numbers
import DesignAtlas.Shell.Tool.Portions
import DesignAtlas.Shell.Tool.Records
import DesignAtlas.Shell.Tool.Running
import DesignAtlas.Shell.Tool.Search
import DesignAtlas.Shell.Tool.Show

/-!
# The table of tools

The tools by their names.
-/

namespace DesignAtlas.Shell

open Tools

/-- The tools by their names. -/
def tools : List (String × Tool) :=
  [("[", testInBrackets), ("arch", writeFact "x86_64"), ("awk", processRecords),
    ("base64", encodeBytes), ("basename", showLastParts), ("cat", showFiles),
    ("chmod", changeModes), ("cksum", writeRemainders), ("cmp", compareBytes),
    ("comm", compareSorted), ("cp", copyFiles), ("cut", cutLines), ("date", writeDate),
    ("dd", copyBlocks), ("diff", showChanges), ("dirname", showParents), ("du", showUsage),
    ("echo", writeArguments), ("egrep", searchLines (some .lenient)), ("env", runInEnvironment),
    ("expand", expandTabs), ("expr", evaluateExpression), ("factor", writeFactors),
    ("false", endWith 1), ("fgrep", searchLines none), ("find", findFiles), ("fold", foldLines),
    ("grep", searchLines (some .basic)), ("groups", writeGroups), ("head", showStart),
    ("hostname", writeFact "localhost"), ("id", writeIdentity), ("install", installFiles),
    ("join", joinLines), ("link", linkFile), ("ln", makeLinks), ("ls", listDirectories),
    ("mawk", processRecords), ("md5sum", writeDigests "MD5" .bits128),
    ("mkdir", makeDirectories), ("mktemp", makeTemporary), ("mv", moveFiles),
    ("nice", runNicely), ("nl", numberLines), ("nohup", runDetached),
    ("nproc", writeProcessorCount), ("od", dumpBytes), ("paste", pasteLines),
    ("printenv", writeVariables), ("printf", writeFilled), ("pwd", writeDirectory),
    ("readlink", showTargets), ("realpath", showRealPaths), ("rev", showMirrored),
    ("rm", removeFiles), ("rmdir", removeDirectories), ("sed", editLines),
    ("seq", writeSequence), ("sha1sum", writeDigests "SHA1" .bits160),
    ("sha224sum", writeDigests "SHA224" .bits224), ("sha256sum", writeDigests "SHA256" .bits256),
    ("sha384sum", writeDigests "SHA384" .bits384), ("sha512sum", writeDigests "SHA512" .bits512),
    ("shuf", mixLines), ("sleep", waitForTime), ("sort", sortLines), ("split", splitFile),
    ("stat", showStatus), ("sum", writeSums), ("sync", storeFiles), ("tac", showBackwards),
    ("tail", showEnd), ("tee", copyInput), ("test", testArguments), ("timeout", runForTime),
    ("touch", touchFiles), ("tr", translateCharacters), ("true", endWith 0),
    ("truncate", resizeFiles), ("tsort", arrangeItems), ("tty", writeTerminal),
    ("uname", writeSystem), ("unexpand", unexpandTabs), ("uniq", reduceLines),
    ("unlink", removeName), ("wc", countContents), ("which", writePlaces),
    ("whoami", writeFact userName), ("xargs", runWithArguments), ("yes", writeForever)]

end DesignAtlas.Shell
