import SharedTerminal.Machine

/-!
# A usual machine

The directories, programs and files that nearly every machine has on which a daemon runs.
-/

namespace SharedTerminal.Machine

/-- The directories. -/
def usualDirectories : List String :=
  ["/bin", "/usr", "/usr/bin", "/usr/local", "/usr/local/bin", "/usr/lib", "/lib", "/sbin",
    "/usr/sbin", "/etc", "/dev", "/tmp", "/var", "/var/log", "/var/tmp", "/home", "/root", "/proc",
    "/sys", "/run", "/opt", "/mnt", "/srv", "/boot", "/media"]

/-- The names of the programs. -/
def usualPrograms : List String :=
  ["sh", "dash", "bash", "rbash", "true", "false", "echo", "cat", "stty", "tr", "head", "tail",
    "sleep", "ls", "env", "printf", "grep", "egrep", "fgrep", "sed", "awk", "mawk", "cp", "mv", "rm",
    "ln", "mkdir", "rmdir", "mktemp", "touch", "chmod", "chown", "chgrp", "date", "dd", "df", "du",
    "id", "kill", "ps", "pwd", "uname", "hostname", "test", "[", "expr", "find", "xargs", "sort",
    "uniq", "wc", "cut", "tee", "tty", "yes", "seq", "basename", "dirname", "readlink", "realpath",
    "stat", "sync", "su", "login", "more", "less", "which", "whoami", "who", "perl", "tar", "gzip",
    "gunzip", "zcat", "od", "nl", "nohup", "nice", "timeout", "mount", "umount", "dmesg", "base64",
    "md5sum", "sha256sum", "paste", "join", "split", "comm", "diff", "cmp", "clear", "tput",
    "script", "setsid", "getent", "locale", "openssl", "python3"]

/-- The files that are no programs, with their contents. -/
def usualFiles : List (String × String) :=
  [("/etc/passwd", "root:x:0:0:root:/root:/bin/bash\n"), ("/etc/hosts", "127.0.0.1\tlocalhost\n"),
    ("/etc/hostname", "localhost\n"), ("/dev/null", ""), ("/dev/zero", ""), ("/dev/tty", "")]

/-- A machine that has what nearly every machine has.  Each program stands in both directories of
the search path, and paths start from the directory for temporary files. -/
def usual : Machine :=
  let path (s : String) := parts s.toList
  let homes := ["/usr/bin", "/bin"]
  { tree := usualDirectories.map (fun d => (path d, .directory))
      ++ homes.flatMap (fun home => usualPrograms.map fun p => (path (home ++ "/" ++ p), .program))
      ++ usualFiles.map (fun (name, content) => (path name, .file (utf8 content)))
    searchPath := homes.map path
    currentDirectory := some (path "/tmp") }

end SharedTerminal.Machine
