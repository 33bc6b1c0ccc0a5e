import TlsBannerGrab.Go.Bytes
import TlsBannerGrab.Ztls.KeyExchange
import TlsBannerGrab.Ztls.Log
import TlsBannerGrab.Zlib.Regexp
import TlsBannerGrab.Zlib.Framing
import TlsBannerGrab.Zlib.SmtpReply
import TlsBannerGrab.Zlib.Conn
import TlsBannerGrab.Zlib.StartTLS
import TlsBannerGrab.Zlib.Probes
import TlsBannerGrab.Zlib.Http
import TlsBannerGrab.Zlib.Run
